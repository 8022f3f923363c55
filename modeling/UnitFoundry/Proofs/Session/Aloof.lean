import UnitFoundry.Proofs.Compiler.Governed
import UnitFoundry.Proofs.Lists
import UnitFoundry.Proofs.Loader.Making
import UnitFoundry.Proofs.ResourcePath.Surroundings

/-!
# Side stores that do not show

A copy of each artifact that is loaded goes to the side store, and what becomes of the copy is nobody's business: a
refusal is logged. But a store that keeps files changes the disk, where the resource path is searched. Two things
keep these changes from being noticed: the directory of the store has nothing to do with the places of the resource
path, and no name leads out of this directory.

* `SideStore.KeepsFiles`, `SideStore.IsOrdinary` — stores that change the disk, and stores that refuse only with
  failures that can be handled;
* `Session.Apart` — a session whose files and copies of artifacts are kept apart;
* `Session.Aloof` — a session whose side store does not show;
* `Session.Twins` — two sessions that differ in what does not show;
* `Aloof.saveCopy` — **what a save changes does not show**;
* `blinding` — to remain aloof, and not to tell twins apart, as a discipline;
* `blindingCompiling` — **it allows all that compilations do**, nested loads and the copies they save included.

All is said for two cases at once: `files` is whether there may be stores that keep files.
-/

namespace UnitFoundry

open Script Text

variable {files : Prop} {name : String} {data : Bytes}

/-! ## Stores -/

namespace SideStore

variable {store : SideStore} {disk : Disk}

/-- A store that changes the disk. -/
def KeepsFiles : SideStore → Prop
  | absent | memory .. => False
  | durable _ => True

/-- A store that refuses only with failures that can be handled. A durable one has no others. -/
def IsOrdinary : SideStore → Prop
  | absent | durable _ => True
  | memory refuses _ _ => ∀ n why, refuses n = some why → why.isOrdinary = true

theorem exists_durable (h : store.KeepsFiles) : ∃ durable, store = .durable durable := by
  cases store with
  | absent | memory => exact h.elim
  | durable store => exact ⟨store, rfl⟩

/-- A store remains what it is. -/
theorem keepsFiles_take : (store.take name data disk).1.KeepsFiles ↔ store.KeepsFiles := by
  cases store with
  | absent | durable => exact .rfl
  | memory refuses attempts saved =>
    rw [take]
    cases refuses attempts <;> exact .rfl

theorem IsOrdinary.take (h : store.IsOrdinary) : (store.take name data disk).1.IsOrdinary := by
  cases store with
  | absent | durable => exact h
  | memory refuses attempts saved =>
    rw [SideStore.take]
    cases refuses attempts <;> exact h

/-- Such a store never ends a load. -/
theorem IsOrdinary.verdict_take (h : store.IsOrdinary) : verdict (store.take name data disk).2.2 = .ok () := by
  have hlogged (refusal : Option Raised) (hall : ∀ why, refusal = some why → why.isOrdinary = true) :
      verdict refusal = .ok () := by
    cases refusal with
    | none => rfl
    | some why => rw [verdict, hall why rfl, if_pos rfl]
  refine hlogged _ fun why hwhy => ?_
  cases store with
  | absent => cases hwhy
  | memory refuses attempts saved =>
    rw [SideStore.take] at hwhy
    cases hr : refuses attempts with
    | none =>
      rw [hr] at hwhy
      cases hwhy
    | some other =>
      rw [hr] at hwhy
      cases hwhy
      exact h attempts why hr
  | durable store =>
    rw [SideStore.take] at hwhy
    dsimp only at hwhy
    exact DurableStore.isOrdinary_of_save hwhy

/-- A store that keeps no files leaves the disk as it is. -/
theorem take_of_not_keepsFiles (h : ¬ store.KeepsFiles) : (store.take name data disk).2.1 = disk := by
  cases store with
  | absent => rfl
  | memory refuses attempts saved =>
    rw [take]
    cases refuses attempts <;> rfl
  | durable store => exact absurd trivial h

end SideStore

/-! ## Disks -/

/-- Two trees cannot be told apart: if there may be files of side stores, they are the same around some places only. -/
structure Disk.Resembles (files : Prop) (places : List Path) (d e : Disk) : Prop where
  same : ¬ files → d = e
  around : files → ∀ p ∈ places, Disk.SameAround p.parts d e

namespace Disk.Resembles

variable {places : List Path} {d e f : Disk}

theorem refl (d : Disk) : Disk.Resembles files places d d := ⟨fun _ => rfl, fun _ p _ => .refl p.parts d⟩

theorem symm (h : Disk.Resembles files places d e) : Disk.Resembles files places e d :=
  ⟨fun hfiles => (h.same hfiles).symm, fun hfiles p hp => (h.around hfiles p hp).symm⟩

theorem trans (h : Disk.Resembles files places d e) (h' : Disk.Resembles files places e f) :
    Disk.Resembles files places d f :=
  ⟨fun hfiles => (h.same hfiles).trans (h'.same hfiles),
    fun hfiles p hp => (h.around hfiles p hp).trans (h'.around hfiles p hp)⟩

end Disk.Resembles

/-! ## Sessions -/

namespace Session

variable {s t s' t' : Session} {α : Type}

/-- A session whose files and copies of artifacts are kept apart. -/
structure Apart (s : Session) : Prop where
  names : ∀ c ∈ s.contexts, UnitName.IsPlain c.canonical
  resolved : ∀ p ∈ s.resources.places, p.IsResolved
  named : ∀ p ∈ s.resources.places, s.disk.NamedBelow p.parts
  stored : ∀ store, s.sideStore = .durable store →
    ∃ root, store.LiesIn s.disk root ∧ ∀ p ∈ s.resources.places, Disk.isAround root p.parts = false

/-- A session whose side store does not show. -/
structure Aloof (files : Prop) (s : Session) : Prop where
  ordinary : s.sideStore.IsOrdinary
  mayKeep : s.sideStore.KeepsFiles → files
  apart : files → s.Apart

/-- Two sessions that differ in what does not show. -/
structure Twins (files : Prop) (s t : Session) : Prop where
  alike : s.Alike t
  disks : s.disk.Resembles files s.resources.places t.disk

theorem Twins.refl (s : Session) : Twins files s s := ⟨.refl s, .refl s.disk⟩

theorem Aloof.unmoved (h : s.Aloof files) (hst : Unmoved s t)
    (hnames : files → ∀ c ∈ t.contexts, UnitName.IsPlain c.canonical) : t.Aloof files where
  ordinary := hst.sideStore ▸ h.ordinary
  mayKeep := hst.sideStore ▸ h.mayKeep
  apart hfiles := by
    obtain ⟨-, hresolved, hnamed, hstored⟩ := h.apart hfiles
    rw [← hst.resources] at hresolved hnamed hstored
    rw [← hst.disk] at hnamed hstored
    rw [← hst.sideStore] at hstored
    exact ⟨hnames hfiles, hresolved, hnamed, hstored⟩

theorem Twins.unmoved (h : Twins files s t) (hs : Unmoved s s') (ht : Unmoved t t') (halike : s'.Alike t') :
    Twins files s' t' where
  alike := halike
  disks := by
    rw [hs.disk, hs.resources, ht.disk]
    exact h.disks

/-! ## Saves -/

/-- Files are kept apart by a save, too. -/
theorem Apart.take (h : s.Apart) (hname : UnitName.IsPlain name) (data : Bytes) (log : List Record) :
    Apart { s with
      sideStore := (s.sideStore.take name data s.disk).1
      disk := (s.sideStore.take name data s.disk).2.1
      log } ∧
      ∀ p ∈ s.resources.places, Disk.SameAround p.parts s.disk (s.sideStore.take name data s.disk).2.1 := by
  by_cases hkeeps : s.sideStore.KeepsFiles
  · obtain ⟨store, hside⟩ := SideStore.exists_durable hkeeps
    obtain ⟨root, hlies, hapart⟩ := h.stored store hside
    have hgrown := DurableStore.save_grown hlies (DurableStore.confines_of_isPlain root hname) data
    rw [hside, SideStore.take]
    generalize store.save s.disk name data = saved at hgrown
    have hsame (p : Path) (hp : p ∈ s.resources.places) := hgrown.sameAround (hapart p hp)
    refine ⟨⟨h.names, h.resolved, fun p hp => (h.named p hp).congr (hsame p hp), fun other hother => ?_⟩, hsame⟩
    obtain rfl := SideStore.durable.inj hother
    exact ⟨root, hlies.grown hgrown, hapart⟩
  · rw [SideStore.take_of_not_keepsFiles hkeeps]
    refine ⟨⟨h.names, h.resolved, h.named, fun store hstore => ?_⟩, fun p _ => .refl p.parts s.disk⟩
    have hstored : (s.sideStore.take name data s.disk).1 = .durable store := hstore
    have hkept : (s.sideStore.take name data s.disk).1.KeepsFiles := by
      rw [hstored]
      exact trivial
    exact absurd (SideStore.keepsFiles_take.1 hkept) hkeeps

/-- **What a save changes does not show.** It succeeds in any case, the session remains aloof, and the disk cannot be
told from what it was. -/
theorem Aloof.saveCopy (h : s.Aloof files) (hname : files → UnitName.IsPlain name) (data : Bytes) :
    ∃ sideStore disk log, Action.saveCopy name data s = .ok ⟨⟩ { s with sideStore, disk, log } ∧
      Aloof files { s with sideStore, disk, log } ∧ s.disk.Resembles files s.resources.places disk := by
  have hverdict : SideStore.verdict (s.sideStore.take name data s.disk).2.2 = .ok () := h.ordinary.verdict_take
  have hordinary : (s.sideStore.take name data s.disk).1.IsOrdinary := h.ordinary.take
  have hkeeps : (s.sideStore.take name data s.disk).1.KeepsFiles ↔ s.sideStore.KeepsFiles := SideStore.keepsFiles_take
  have hdisk : ¬ s.sideStore.KeepsFiles → (s.sideStore.take name data s.disk).2.1 = s.disk :=
    SideStore.take_of_not_keepsFiles
  have happart (log : List Record) (hfiles : files) := (h.apart hfiles).take (hname hfiles) data log
  rcases htake : s.sideStore.take name data s.disk with ⟨left, tree, refusal⟩
  rw [htake] at hverdict hordinary hkeeps hdisk happart
  obtain ⟨log, hsave⟩ := Action.saveCopy_of_take htake
  rw [hverdict] at hsave
  exact ⟨left, tree, log, hsave, ⟨hordinary, fun hkeep => h.mayKeep (hkeeps.1 hkeep), fun hfiles =>
    (happart log hfiles).1⟩, fun hnot => (hdisk fun hkeep => hnot (h.mayKeep hkeep)).symm, fun hfiles =>
    (happart log hfiles).2⟩

/-! ## The discipline -/

/-- To remain aloof, and not to tell twins apart. -/
def blinding (files : Prop) : Discipline where
  inv := Aloof files
  rel _ _ := True
  fails _ := True
  alike := Twins files
  refl _ := trivial
  trans _ _ := trivial
  raised _ := trivial
  thrown _ _ := trivial
  same := .refl
  sees h := h.alike
  along hunmoved halike h := h.unmoved (hunmoved _) (hunmoved _) (halike _ _ h.alike)
  own := by
    rintro s _ ⟨⟩ h
    all_goals exact ⟨h.unmoved ⟨rfl, rfl, rfl⟩ fun hfiles => (h.apart hfiles).names, trivial⟩

theorem blinding_saveCopy (hname : files → UnitName.IsPlain name) (data : Bytes) :
    (blinding files).Keeps (Action.saveCopy name data) where
  ok {s a t} hs ha := by
    obtain ⟨sideStore, disk, log, hsave, haloof, -⟩ := Aloof.saveCopy hs hname data
    cases hsave.symm.trans ha
    exact ⟨haloof, trivial⟩
  error {s f t} hs ha := by
    obtain ⟨sideStore, disk, log, hsave, -⟩ := Aloof.saveCopy hs hname data
    cases hsave.symm.trans ha
  agree {s t} hs ht hst := by
    obtain ⟨_, disk, _, hsave, -, hdisk⟩ := Aloof.saveCopy hs hname data
    obtain ⟨_, tree, _, hsave', -, hdisk'⟩ := Aloof.saveCopy ht hname data
    rw [hsave, hsave']
    refine .ok ⟨{ hst.alike with }, ?_⟩
    rw [← hst.alike.resources] at hdisk'
    exact hdisk.symm.trans (hst.disks.trans hdisk')

/-! ### Units -/

/-- A context that is made is to have a plain name. -/
theorem Aloof.concat {made : Context} (h : s.Aloof files) (hst : s.Unmoved t)
    (hcontexts : t.contexts = s.contexts ++ [made]) (hmade : files → UnitName.IsPlain made.canonical) :
    t.Aloof files := by
  refine h.unmoved hst fun hfiles c hc => ?_
  rw [hcontexts, List.mem_append, List.mem_singleton] at hc
  rcases hc with hbefore | rfl
  · exact (h.apart hfiles).names c hbefore
  · exact hmade hfiles

/-- A context that is changed keeps its name. -/
theorem Aloof.modified {id : ContextId} {change : Context → Context} (h : s.Aloof files) (hst : s.Unmoved t)
    (hcontexts : t.contexts = s.contexts.modify id change) (hchange : ∀ c, (change c).canonical = c.canonical) :
    t.Aloof files := by
  refine h.unmoved hst fun hfiles c hc => ?_
  rw [hcontexts] at hc
  obtain ⟨other, hother⟩ := List.getElem?_of_mem hc
  rcases getElem?_modify_cases hother with ⟨c, -, hbefore, rfl⟩ | ⟨-, hbefore⟩
  · rw [hchange]
    exact (h.apart hfiles).names c (List.mem_of_getElem? hbefore)
  · exact (h.apart hfiles).names c (List.mem_of_getElem? hbefore)

theorem Aloof.same (h : s.Aloof files) (hst : s.Unmoved t) (hcontexts : t.contexts = s.contexts) : t.Aloof files :=
  h.unmoved hst fun hfiles => hcontexts ▸ (h.apart hfiles).names

/-- The trees of twins are the same around the places of their resource path. -/
theorem Twins.sameAround (h : Twins files s t) (hs : s.Aloof files) (hfiles : files) :
    s.resources.SameAround s.disk t.disk :=
  ⟨(hs.apart hfiles).resolved, (hs.apart hfiles).named, h.disks.around hfiles⟩

/-- To remain aloof allows the steps of emission. Where there may be files of side stores, units are to have plain
names, and what is looked for and listed is to be below the places of the resource path. -/
def blindingEmitting (files : Prop) : Emitting where
  toOnlooker := (blinding files).toOnlooker
  mayOpen name := files → UnitName.IsPlain (UnitName.canonical name)
  mayFind path := files → ".." ∉ pieces '/' path
  mayList package := files → UnitName.IsPlain package
  aside hst hs := ⟨hs.same hst.toUnmoved hst.contexts, trivial⟩
  created _ _ hname hs := ⟨hs.concat ⟨rfl, rfl, rfl⟩ rfl hname, trivial⟩
  opened _ _ _ hname hs := ⟨hs.concat ⟨rfl, rfl, rfl⟩ rfl hname, trivial⟩
  written _ _ _ _ _ _ hs := ⟨hs.same ⟨rfl, rfl, rfl⟩ rfl, trivial⟩
  sealed _ _ _ _ _ hs := ⟨hs.modified ⟨rfl, rfl, rfl⟩ rfl fun _ => rfl, trivial⟩
  published _ _ _ _ _ hs := ⟨hs.same ⟨rfl, rfl, rfl⟩ rfl, trivial⟩
  finds {s t path} hpath hs _ hst := by
    rw [← hst.alike.resources]
    by_cases hfiles : files
    · exact ResourcePath.find_eq (hst.sameAround hs hfiles) (hpath hfiles)
    · rw [hst.disks.same hfiles]
  lists {s t package} kinds recurse hpackage hs _ hst := by
    rw [← hst.alike.resources]
    by_cases hfiles : files
    · exact ResourcePath.list_eq (hst.sameAround hs hfiles) (hpackage hfiles) kinds recurse
    · rw [hst.disks.same hfiles]
  lenient _ := trivial

/-! ### Modules -/

theorem blinding_newUnitModule (owner : ContextId) (c : Context) :
    (blinding files).Keeps (Action.newUnitModule owner c) := by
  refine (Discipline.keeps_newText _).bind fun name _ => (Discipline.keeps_newText _).bind fun package _ =>
    (Discipline.keeps_newText _).bind fun file _ => ?_
  exact Discipline.keeps_change (fun s => s.modules.length)
    (fun s => { s with modules := s.modules ++ [UnitModule.fresh owner name package file] }) (fun _ => rfl)
    (fun _ hs => ⟨hs.same ⟨rfl, rfl, rfl⟩ rfl, trivial⟩) (fun _ => ⟨rfl, rfl, rfl⟩)
    fun _ _ h => ⟨by rw [h.modules], { h with modules := by rw [h.modules] }⟩

theorem blinding_inRun {body : Action Unit} (hbody : (blinding files).Keeps body) (id : ContextId) (m : ModuleId) :
    (blinding files).Keeps (Loader.inRun id m body) := by
  have hbegin : (blinding files).Keeps (Action.beginRun id m) :=
    Discipline.keeps_change (fun _ => ()) (·.begun id m) (fun _ => rfl)
      (fun _ hs => ⟨hs.modified ⟨rfl, rfl, rfl⟩ rfl fun _ => rfl, trivial⟩) (fun _ => ⟨rfl, rfl, rfl⟩)
      fun _ _ h => ⟨rfl, h.begun id m⟩
  have hend (how : Exit) : (blinding files).Keeps (Action.endRun id m how) := by
    have hsettle (c : Context) : (how.settle c).canonical = c.canonical := by cases how <;> rfl
    exact Discipline.keeps_change (fun _ => ()) (·.ended id m how) (fun _ => rfl)
      (fun _ hs => ⟨hs.modified ⟨rfl, rfl, rfl⟩ rfl hsettle, trivial⟩) (fun _ => ⟨rfl, rfl, rfl⟩)
      fun _ _ h => ⟨rfl, h.ended id m how⟩
  exact hbegin.bind fun _ _ => (Discipline.keeps_attempt hbody).bind fun result _ => (hend _).bind fun _ _ => .pure result

/-- The making of a module saves a copy under the name of its context, which is plain. -/
theorem blinding_materializes : (blinding files).Materializes := by
  intro engine he id
  refine (Discipline.keeps_context id).bind fun c hc => ?_
  have hname (hfiles : files) : UnitName.IsPlain c.canonical := by
    obtain ⟨s, t, hs, hlook⟩ := hc
    cases hbefore : s.contexts[id]? with
    | none => cases (Action.context_none hbefore).symm.trans hlook
    | some before =>
      cases (Action.context_some hbefore).symm.trans hlook
      exact (hs.apart hfiles).names c (List.mem_of_getElem? hbefore)
  split
  · exact .pure _
  · refine (Contract.Keeps.of_except fun _ _ => trivial).bind fun data _ => (blinding_saveCopy hname data).bind fun _ _ =>
      (Contract.Keeps.of_except fun _ _ => trivial).bind fun code _ => (blinding_newUnitModule id c).bind fun m _ => ?_
    refine (blinding_inRun (Discipline.keeps_runBody he trivial code) id m).bind fun result _ => ?_
    cases result with
    | ok _ => exact ((blindingEmitting files).keeps_logged ..).bind fun _ _ => .pure m
    | error failure =>
      dsimp only
      split
      · exact (Discipline.keeps_worded he failure).bind fun _ _ => .throw trivial
      · exact .throw trivial

/-- To remain aloof allows all that compilations do. -/
def blindingCompiling (files : Prop) : Compiling where
  toDiscipline := blinding files
  __ := blindingEmitting files
  materializes := blinding_materializes

end Session

end UnitFoundry
