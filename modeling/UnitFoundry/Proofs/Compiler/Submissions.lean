import UnitFoundry.Proofs.Compiler.Scopes
import UnitFoundry.Proofs.Entries
import UnitFoundry.Proofs.UnitName.Sources

/-!
# The sources that are kept in memory

A compilation that is not served from the registry puts its source into memory before the backend is invoked, and it
stays there whatever the backend makes of it. A second attempt puts the same source at the same address. Nothing else
that is done to a session changes the files in memory, unless it is to put a source there. So these files are what is
left of all that was submitted: one for each canonical name, and for this name the source submitted last.

* `overlay_compile` — what one compilation does to the files in memory;
* `submissions` — the names and sources submitted in a run, in order;
* `records_performed` — **the files in memory are what is left of them**;
* `generations_share` — **a canonical name has one file**, the one that was submitted last.
-/

namespace UnitFoundry

open Script Text UnitName

variable {backend : Backend} {name source : String} {s t : Session}

/-- Of elements that a function tells apart, the images are repeated where the elements are. -/
theorem eraseDups_map {α β : Type} [DecidableEq α] [DecidableEq β] {f : α → β} {l : List α}
    (hf : ∀ a ∈ l, ∀ b ∈ l, f a = f b → a = b) : (l.map f).eraseDups = l.eraseDups.map f := by
  induction l using List.reverseRec with
  | nil => rfl
  | append_singleton l a ih =>
    have hrest := ih fun b hb c hc => hf b (by simp [hb]) c (by simp [hc])
    have hmem : f a ∈ l.map f ↔ a ∈ l := by
      refine ⟨fun h => ?_, List.mem_map_of_mem⟩
      obtain ⟨b, hb, heq⟩ := List.mem_map.1 h
      exact hf b (by simp [hb]) a (by simp) heq ▸ hb
    rw [List.map_append, List.map_singleton, eraseDups_concat, eraseDups_concat, hrest]
    by_cases ha : a ∈ l
    · rw [if_pos ha, if_pos (hmem.2 ha)]
    · rw [if_neg ha, if_neg fun h => ha (hmem.1 h), List.map_append, List.map_singleton]

namespace Compiler

/-! ## One compilation -/

/-- Whether nothing is served for a name, so that a source is needed. -/
def isMissed (name : String) (s : Session) : Bool :=
  match cached name s with
  | .ok none _ => true
  | _ => false

theorem isMissed_iff : isMissed name s = true ↔ ∃ t, cached name s = .ok none t := by
  unfold isMissed
  split
  · rename_i t h
    simp [h]
  · rename_i h
    simpa using h

theorem overlay_invoke (backend : Backend) (name source : String) (options : Options) (s : Session) :
    (leftBy (invoke backend name source options s)).overlay =
      setEntry (sourceUri name) (File.source name source) s.overlay :=
  invoke_keeps Emission.untouched_overlay ..

theorem isMissed_eq_isSome (backend : Backend) (source : String) (options : Options) :
    isMissed name s = (invocation? backend name source options s).isSome := by
  rw [Bool.eq_iff_iff, isMissed_iff, Option.isSome_iff_exists]
  constructor
  · rintro ⟨t, hcached⟩
    obtain ⟨i, hi, -⟩ := exists_invocation backend source options hcached
    exact ⟨i, hi⟩
  · rintro ⟨i, hi⟩
    exact ⟨i.before, (invocation?_cases hi).1⟩

/-- An attempt puts its source into memory if nothing is served. -/
theorem overlay_compileOnce (backend : Backend) (name source : String) (options : Options) (s : Session) :
    (leftBy (compileOnce backend name source options s)).overlay =
      if isMissed name s then setEntry (sourceUri name) (File.source name source) s.overlay else s.overlay := by
  have h := Loader.untouched_overlay.compileOnce backend name source options s
  rw [isMissed_eq_isSome backend source options]
  cases hi : invocation? backend name source options s with
  | none =>
    rw [hi] at h
    exact h
  | some i =>
    rw [hi] at h
    obtain ⟨hbefore, hleft⟩ := h
    rw [hleft, after_of_invocation? hi, overlay_invoke, hbefore]
    rfl

/-- **A compilation puts its source into memory if nothing is served**, be it in one attempt or in two. -/
theorem overlay_compile (hs : s.Sound) (backend : Backend) (name source : String) :
    (leftBy (compile backend name source s)).overlay =
      if isMissed name s then setEntry (sourceUri name) (File.source name source) s.overlay else s.overlay := by
  have hfirst := overlay_compileOnce backend name source s.policy.options s
  cases hstart : secondStart? backend name source s with
  | none => rw [compile_of_secondStart?_none hstart, hfirst]
  | some t =>
    obtain ⟨e, u, herror, -, rfl⟩ := secondStart?_eq_some hstart
    -- what is served does not end with an error
    have hmissed : isMissed name s = true := by
      rw [isMissed_eq_isSome backend source s.policy.options, Option.isSome_iff_ne_none]
      exact fun hnone => compileOnce_ne_error hs hnone herror
    rw [herror, if_pos hmissed] at hfirst
    replace hfirst : u.overlay = _ := hfirst
    rw [compile_of_secondStart?_some hstart, overlay_compileOnce, if_pos hmissed]
    show (if _ then setEntry _ _ u.overlay else u.overlay) = _
    rw [hfirst, setEntry_setEntry, ite_self]

end Compiler

/-! ## Runs -/

/-- Whether an operation puts no source into memory by itself. -/
def Operation.putsNoSource : Operation → Bool
  | putSource .. => false
  | _ => true

/-- What an operation submits to a backend. -/
def Operation.submitted (s : Session) : Operation → List (String × String)
  | compile _ name source => if Compiler.isMissed name s then [(name, source)] else []
  | _ => []

/-- The names and sources that are submitted in a run, in order. -/
def submissions : Session → List Operation → List (String × String)
  | _, [] => []
  | s, o :: rest => o.submitted s ++ submissions (s.after o.perform) rest

/-- The file in memory that belongs to a name and a source. -/
def sourceEntry (submission : String × String) : String × File :=
  (sourceUri submission.1, File.source submission.1 submission.2)

theorem keeping_of_leaving {α β : Type} {part : Session → β} {act : Action α} (h : Loader.Untouched part)
    (hact : (Loader.leaving part h).Keeps act) : (keeping part).Keeps act :=
  keeping_iff.2 fun _ => (hact.leftBy trivial).2

/-- Nothing else changes the files in memory. -/
theorem overlay_perform {o : Operation} (hput : o.putsNoSource = true)
    (hcompile : ∀ backend name source, o ≠ .compile backend name source) (s : Session) :
    (s.after o.perform).overlay = s.overlay := by
  have hd := Loader.serves_leaving Loader.untouched_overlay
  have he := Emission.untouched_overlay
  have hopen : (keeping Session.overlay).Keeps Emission.openScope := keeping_iff.2 fun _ => rfl
  have hleaving {α : Type} {act : Action α} (h : (Loader.leaving Session.overlay Loader.untouched_overlay).Keeps act) :
      (keeping Session.overlay).Keeps act := keeping_of_leaving Loader.untouched_overlay h
  suffices h : (keeping Session.overlay).Keeps o.perform from (Session.inv_after h trivial).2.symm
  cases o with
  | openScope => exact hopen.bind fun _ _ => .pure _
  | openOutput scope location name kind sibling => exact (he.openOutput ..).bind fun _ _ => .pure _
  | write id data => exact (he.write id data).bind fun _ _ => .pure _
  | seek id position => exact (he.seek id position).bind fun _ _ => .pure _
  | close id => exact he.close id
  | pending name => exact (he.newContext name).bind fun id _ => (he.replace id).bind fun _ _ => .pure _
  | replace id => exact (he.replace id).bind fun _ _ => .pure _
  | clear => exact keeping_iff.2 fun _ => rfl
  | putSource => cases hput
  | invoke backend isLogged options sources =>
    refine (he.invoke hopen (fun d => ?_) backend options sources).bind fun _ _ => .pure _
    cases isLogged with
    | true => exact he.diagnostic d
    | false => exact .pure ()
  | compile backend name source => exact absurd rfl (hcompile backend name source)
  | configure change => exact keeping_configure he.policy change
  | loadActive name => exact hleaving ((hd.keeps_loadActive name).bind fun _ _ => .pure _)
  | load id => exact hleaving ((hd.keeps_load id).bind fun _ _ => .pure _)
  | loadUnit id name => exact hleaving ((hd.materializes.keeps_loadUnit id name).bind fun _ _ => .pure _)
  | make o => exact hleaving ((Discipline.keeps_newObject o).bind fun _ _ => .pure _)
  | call m path arguments => exact hleaving ((hd.materializes.keeps_invoke m path arguments).bind fun _ _ => .pure _)
  | setAttribute m name value => exact hleaving (Discipline.keeps_setAttribute ..)
  | logResourcePath => exact keeping_iff.2 fun _ => rfl

/-- What an operation gives to its caller makes no difference to what it leaves behind. -/
theorem after_discard {α : Type} (act : Action α) (s : Session) :
    s.after (do let _ ← act) = leftBy (act s) := by
  cases h : act s with
  | ok a t => rw [Session.after, Action.bind_ok h]; rfl
  | error f t => rw [Session.after, Action.bind_error h]; rfl

/-- One operation: the files in memory are what is left of all that was put there, and of what it submits. -/
theorem records_after (hs : s.Sound) {entered : List (String × File)} (h : Records s.overlay entered)
    {o : Operation} (hput : o.putsNoSource = true) :
    Records (s.after o.perform).overlay (entered ++ (o.submitted s).map sourceEntry) := by
  by_cases hcompile : ∃ backend name source, o = .compile backend name source
  · obtain ⟨backend, name, source, rfl⟩ := hcompile
    show Records (s.after (do let _ ← Compiler.compile backend name source)).overlay _
    rw [after_discard, Compiler.overlay_compile hs, Operation.submitted]
    split
    · exact h.set (sourceUri name) (File.source name source)
    · rw [List.map_nil, List.append_nil]
      exact h
  · have hnone : o.submitted s = [] := by
      cases o with
      | compile backend name source => exact absurd ⟨backend, name, source, rfl⟩ hcompile
      | openScope | openOutput | write | seek | close | pending | replace | clear | putSource | invoke | configure
      | loadActive | load | loadUnit | make | call | setAttribute | logResourcePath => rfl
    rw [hnone, List.map_nil, List.append_nil,
      overlay_perform hput fun backend name source heq => hcompile ⟨backend, name, source, heq⟩]
    exact h

/-- **The files in memory are what is left of all that was submitted.** -/
theorem records_performed (hs : s.Sound) {entered : List (String × File)} (h : Records s.overlay entered)
    (operations : List Operation) (hput : ∀ o ∈ operations, o.putsNoSource = true) :
    Records (s.performed operations).overlay (entered ++ (submissions s operations).map sourceEntry) := by
  induction operations generalizing s entered with
  | nil =>
    rw [submissions, List.map_nil, List.append_nil]
    exact h
  | cons o rest ih =>
    have hfirst := records_after hs h (hput o List.mem_cons_self)
    have hlast := ih (hs.after o).1 hfirst fun p hp => hput p (List.mem_cons_of_mem o hp)
    rw [submissions, List.map_append, ← List.append_assoc]
    exact hlast

/-! ## One file for each canonical name -/

/-- What was submitted last for a canonical name. -/
def lastSubmitted? (submitted : List (String × String)) (canonical : String) : Option (String × String) :=
  (submitted.filter fun p => UnitName.canonical p.1 = canonical).getLast?

/-- What was put last under the address of a name is what was submitted last for its canonical name. -/
theorem lastSet?_sourceEntry {submitted : List (String × String)} (hsubmitted : ∀ p ∈ submitted, HasOwnAddress p.1)
    {p : String × String} (h : lastSubmitted? submitted (canonical name) = some p) :
    lastSet? (submitted.map sourceEntry) (sourceUri name) = some (File.source p.1 p.2) := by
  have hp : p ∈ submitted ∧ canonical p.1 = canonical name := by
    simpa using List.mem_filter.1 (List.mem_of_getLast? h)
  have hsame : ∀ q ∈ submitted, (sourceUri q.1 = sourceUri name ↔ canonical q.1 = canonical name) := by
    intro q hq
    rw [← sourceUri_of_canonical hp.2, ← hp.2]
    exact sourceUri_eq_iff (hsubmitted q hq) (hsubmitted p hp.1)
  have hfilter : (submitted.map sourceEntry).filter (·.1 = sourceUri name) =
      (submitted.filter fun q => canonical q.1 = canonical name).map sourceEntry := by
    rw [List.filter_map]
    refine congrArg (List.map sourceEntry) (List.filter_congr fun q hq => ?_)
    rw [Function.comp_apply, decide_eq_decide]
    exact hsame q hq
  rw [lastSet?, hfilter, List.getLast?_map, Option.map_map]
  rw [lastSubmitted?] at h
  rw [h]
  rfl

/-- **All generations of a unit share one file.** Names without slashes, and without a dot at the start, have the same
address just if they have the same canonical name. So if only such names are compiled, in whatever session whose memory
has no files, and whatever else is done to it, then as many files are in memory as there are canonical names among those
that were submitted, each at its address and in the order of their first submissions; and whichever generation is asked
for, the source submitted last for its canonical name is what is read, whatever became of the compilation. -/
theorem generations_share :
    (∀ name other, HasOwnAddress name → HasOwnAddress other →
      (sourceUri name = sourceUri other ↔ canonical name = canonical other)) ∧
    ∀ (s : Session) (operations : List Operation), s.Sound → s.overlay = [] →
      (∀ o ∈ operations, o.putsNoSource = true) → (∀ p ∈ submissions s operations, HasOwnAddress p.1) →
      (s.performed operations).overlay.map (·.1) =
          (((submissions s operations).map fun p => canonical p.1).eraseDups).map slotUri ∧
        ((s.performed operations).overlay.map (·.1)).Nodup ∧
        ∀ name last source, lastSubmitted? (submissions s operations) (canonical name) = some (last, source) →
          Overlay.resolve .sourcePath (package name) (simple name ++ sourceExtension) (s.performed operations) =
            .ok (File.source last source) (s.performed operations) := by
  refine ⟨fun name other hname hother => sourceUri_eq_iff hname hother,
    fun s operations hs hoverlay hput hnames => ?_⟩
  have hstart : Records s.overlay [] := by
    rw [hoverlay]
    exact .nil
  have hrecords : Records (s.performed operations).overlay ((submissions s operations).map sourceEntry) :=
    records_performed hs hstart operations hput
  refine ⟨?_, hrecords.nodup, fun name last source hlast => ?_⟩
  · have hkeys : ((submissions s operations).map sourceEntry).map (·.1) =
        ((submissions s operations).map fun p => canonical p.1).map slotUri := by
      rw [List.map_map, List.map_map]
      exact List.map_congr_left fun p hp => sourceUri_eq_slotUri (hnames p hp).dot
    have hslash : ∀ k ∈ (submissions s operations).map (fun p => canonical p.1), '/' ∉ k.toList := by
      intro k hk
      obtain ⟨p, hp, rfl⟩ := List.mem_map.1 hk
      exact (hnames p hp).canonical
    rw [hrecords.keys, hkeys]
    exact eraseDups_map fun k hk l hl => slotUri_inj (hslash k hk) (hslash l hl)
  · have hfile : lookupEntry (sourceUri name) (s.performed operations).overlay = some (File.source last source) := by
      rw [hrecords.last, lastSet?_sourceEntry hnames hlast]
    rw [Overlay.resolve, Action.bind_ok (Action.get_apply _)]
    rw [sourceUri] at hfile
    rw [hfile]
    rfl

/-- A unit is compiled, served, and generated anew with a source that is rejected. Another one comes in between. -/
def regenerations : List Operation :=
  [.compile .standard "p.A_ts1" "x = 1\n", .compile .standard "p.A_ts1" "x = 2\n", .compile .standard "q.B" "",
    .compile .standard "p.A_ts2" "x = \n"]

theorem submissions_regenerations :
    submissions {} regenerations = [("p.A_ts1", "x = 1\n"), ("q.B", ""), ("p.A_ts2", "x = \n")] := by
  decide +kernel

/-- What was served was not submitted, and what was rejected is in memory nevertheless. -/
theorem regenerations_share :
    (sourceUri "p.A_ts1" = sourceUri "p.A_ts2" ↔ canonical "p.A_ts1" = canonical "p.A_ts2") ∧
    ∃ t, t = Session.performed {} regenerations ∧
      t.overlay.map (·.1) = ["vfs:///source_path/p/A.py", "vfs:///source_path/q/B.py"] ∧
      Overlay.resolve .sourcePath "p" "A_ts3.py" t = .ok (File.source "p.A_ts2" "x = \n") t := by
  have haddress : ∀ p ∈ submissions {} regenerations, HasOwnAddress p.1 := by
    rw [submissions_regenerations]
    decide +kernel
  have hsound : Session.Sound {} := Session.isFresh_empty.sound
  obtain ⟨hkeys, -, hread⟩ := generations_share.2 {} regenerations hsound rfl (by decide) haddress
  refine ⟨generations_share.1 _ _ (by decide +kernel) (by decide +kernel), _, rfl, ?_, ?_⟩
  · rw [hkeys, submissions_regenerations]
    decide +kernel
  · have hlast : lastSubmitted? (submissions {} regenerations) (canonical "p.A_ts3") = some ("p.A_ts2", "x = \n") := by
      rw [submissions_regenerations]
      decide +kernel
    have hparts : package "p.A_ts3" = "p" ∧ simple "p.A_ts3" ++ sourceExtension = "A_ts3.py" := by decide +kernel
    have h := hread "p.A_ts3" "p.A_ts2" "x = \n" hlast
    rw [hparts.1, hparts.2] at h
    exact h

end UnitFoundry
