import UnitFoundry.Proofs.Session.Aloof
import UnitFoundry.Proofs.Session.Reachable

/-!
# What does not depend on the side store

A user of a session performs operations, asks for resources and for files, and sees what is given back. Whether there
is a side store, whether it refuses, and what is logged are none of these things: sessions that differ in nothing else
answer alike, as long as the files of a durable store are kept apart from the places of the resource path. If they are
not, the copies of artifacts are files of the resource path like all others, and are found there.

* `Demand` — an operation, or a question about resources and files;
* `Session.replies` — what demands one after the other are answered with;
* `replies_eq` — **the replies are the same** in sessions that differ in what does not show;
* `replies_eq_of_not_keepsFiles` — in particular, in all that differ in stores that keep no files;
* `sharing_shows` — a directory that is both the store's and a place of the resource path.
-/

namespace UnitFoundry

open Script Text

/-! ## Demands -/

/-- What is asked of a session from outside. -/
inductive Demand where
  | perform (operation : Operation)
  /-- The bytes of a resource. -/
  | resource (path : String)
  | resolve (location : Location) (package relativeName : String)
  | candidates (location : Location) (package : String) (kinds : List FileKind) (recurse : Bool)

/-- What a demand is answered with. -/
inductive Reply where
  | answer (answer : Operation.Answer)
  | bytes (data : Bytes)
  | file (file : File)
  | listing (listing : Listing)

namespace Demand

def act : Demand → Action Reply
  | perform operation => .answer <$> operation.answer
  | resource path => .bytes <$> Overlay.resource path
  | resolve location package relativeName => .file <$> Overlay.resolve location package relativeName
  | candidates location package kinds recurse => .listing <$> Overlay.candidates location package kinds recurse

/-- A demand is for names, paths and packages that a contract allows. -/
def Within (d : Emitting) : Demand → Prop
  | perform operation => operation.Within d
  | resource path => d.mayFind path
  | resolve _ package relativeName => d.mayFind (Overlay.relativePath package relativeName)
  | candidates _ package _ _ => d.mayList package

theorem within_of_isFree {d : Emitting} (h : d.IsFree) (demand : Demand) : demand.Within d := by
  cases demand with
  | perform operation => exact h.operation operation
  | resource | resolve => exact h.finds _
  | candidates => exact h.lists _

/-- The reply to a demand or the failure in its place, and the session afterwards. -/
def reply (demand : Demand) (s : Session) : Except Failure Reply × Session :=
  match demand.act s with
  | .ok reply t => (.ok reply, t)
  | .error f t => (.error f, t)

end Demand

namespace Emitting

variable {d : Emitting}

/-- The bytes of a resource, as far as it may be looked for. -/
theorem keeps_resource {path : String} (hpath : d.mayFind path) : d.Keeps (Overlay.resource path) := by
  have hbytes : Overlay.resourceBytes path = (get >>= fun s =>
      ofExcept ((s.resources.find s.disk path).mapError Failure.raised) >>= fun file =>
        file.elim (throw (.error (.resourceNotFound path))) fun file => ofExcept file.bytes : Action Bytes) := by
    funext s
    rw [Overlay.resourceBytes, Action.bind_ok (Action.get_apply s), Action.bind_ok (Action.get_apply s)]
    rcases s.resources.find s.disk path with _ | _ | _ <;> rfl
  refine Discipline.keeps_seeing (fun s => ?_) fun s t h => by rw [h.registry]
  split
  · exact (Discipline.keeps_context _).bind fun _ _ => keeps_result _
  · rw [hbytes]
    refine keeps_find hpath (fun found => ofExcept found >>= fun file =>
      file.elim (throw (.error (.resourceNotFound path))) fun file => ofExcept file.bytes)
      fun found => (keeps_result found).bind fun file _ => ?_
    cases file with
    | some file => exact keeps_result _
    | none => exact .throw (d.lenient _)

end Emitting

namespace Session

variable {s t : Session} {files : Prop} {demand : Demand} {demands : List Demand}

/-- What demands one after the other are answered with, and the session that they leave behind. -/
def replies : List Demand → Session → List (Except Failure Reply) × Session
  | [], s => ([], s)
  | demand :: rest, s =>
    let others := replies rest (demand.reply s).2
    ((demand.reply s).1 :: others.1, others.2)

/-! ## Sessions that differ in what does not show -/

theorem blinding_clear (s : Session) (hs : s.Aloof files) : Aloof files { s with registry := {} } ∧ True :=
  ⟨hs.same ⟨rfl, rfl, rfl⟩ rfl, trivial⟩

/-- **Every demand keeps a session aloof and does not tell twins apart.** -/
theorem blinding_act (hwithin : demand.Within (blindingEmitting files)) : (blinding files).Keeps demand.act := by
  cases demand with
  | perform operation =>
    exact (keeps_answer (blindingCompiling files) blinding_clear operation (.inr fun _ => trivial) hwithin).map
  | resource path => exact (Emitting.keeps_resource (d := blindingEmitting files) hwithin).map
  | resolve location package relativeName =>
    exact (Emitting.keeps_resolveFile (d := blindingEmitting files) location hwithin).map
  | candidates location package kinds recurse =>
    exact (Emitting.keeps_candidates (d := blindingEmitting files) location hwithin kinds recurse).map

/-- One demand: the replies are the same, and the sessions afterwards differ in what does not show. -/
theorem reply_eq (hst : Twins files s t) (hs : s.Aloof files) (ht : t.Aloof files)
    (hwithin : demand.Within (blindingEmitting files)) :
    (demand.reply s).1 = (demand.reply t).1 ∧ Twins files (demand.reply s).2 (demand.reply t).2 ∧
      (demand.reply s).2.Aloof files ∧ (demand.reply t).2.Aloof files := by
  unfold Demand.reply
  rcases (blinding_act hwithin).both hs ht hst with
    ⟨reply, u, v, hu, hv, hu', hv', huv⟩ | ⟨f, u, v, hu, hv, hu', hv', huv⟩
  · rw [hu, hv]
    exact ⟨rfl, huv, hu', hv'⟩
  · rw [hu, hv]
    exact ⟨rfl, huv, hu', hv'⟩

/-- All demands: the replies are the same, and the sessions afterwards differ in what does not show. -/
theorem replies_twins (hst : Twins files s t) (hs : s.Aloof files) (ht : t.Aloof files)
    (hwithin : ∀ demand ∈ demands, demand.Within (blindingEmitting files)) :
    (replies demands s).1 = (replies demands t).1 ∧ Twins files (replies demands s).2 (replies demands t).2 := by
  induction demands generalizing s t with
  | nil => exact ⟨rfl, hst⟩
  | cons demand rest ih =>
    obtain ⟨hfirst, hnext, hs', ht'⟩ := reply_eq hst hs ht (hwithin demand List.mem_cons_self)
    obtain ⟨hothers, hafter⟩ := ih hnext hs' ht' fun other hother => hwithin other (List.mem_cons_of_mem demand hother)
    exact ⟨congrArg₂ List.cons hfirst hothers, hafter⟩

/-- **The side store and the log do not show.** Two sessions may differ in their side stores, whichever saves these
refuse with failures that can be handled, in what they log, and in what their disks have apart from the resource path.
Then they answer all demands alike, and all units and files in memory are the same afterwards. Stores that keep
files are to keep them apart from the resource path, and the demands are to ask for nothing that leads out of where
they belong. -/
theorem replies_eq (hst : Twins files s t) (hs : s.Aloof files) (ht : t.Aloof files)
    (hwithin : ∀ demand ∈ demands, demand.Within (blindingEmitting files)) :
    (replies demands s).1 = (replies demands t).1 ∧ (replies demands s).2.Alike (replies demands t).2 := by
  obtain ⟨hreplies, htwins⟩ := replies_twins hst hs ht hwithin
  exact ⟨hreplies, htwins.alike⟩

/-- Stores that keep no files do not show, whatever is demanded. -/
theorem replies_eq_of_not_keepsFiles {sideStore : SideStore} (hs : s.sideStore.IsOrdinary ∧ ¬ s.sideStore.KeepsFiles)
    (hstore : sideStore.IsOrdinary ∧ ¬ sideStore.KeepsFiles) (verbose : Option Bool) (level : Severity)
    (demands : List Demand) :
    (replies demands s).1 = (replies demands { s with sideStore, verbose, level }).1 ∧
      (replies demands s).2.Alike (replies demands { s with sideStore, verbose, level }).2 := by
  have haloof {t : Session} (ht : t.sideStore.IsOrdinary ∧ ¬ t.sideStore.KeepsFiles) : t.Aloof False :=
    ⟨ht.1, ht.2, False.elim⟩
  have hwithin (demand : Demand) : demand.Within (blindingEmitting False) :=
    Demand.within_of_isFree ⟨fun _ => False.elim, fun _ => False.elim, fun _ => False.elim⟩ demand
  obtain ⟨hreplies, htwins⟩ := replies_twins (t := { s with sideStore, verbose, level })
    ⟨{ Alike.refl s with }, .refl s.disk⟩ (haloof hs) (haloof hstore) fun demand _ => hwithin demand
  exact ⟨hreplies, htwins.alike⟩

/-! ### A store apart from the resource path, and one on it -/

/-- A unit is published that cannot be loaded. A load is tried, and the unit looked for on the resource path. -/
def fruitless : List Demand :=
  [.perform (.openOutput none .classOutput "p.A_ts1" .artifact none), .perform (.write 0 [1]), .perform (.close 0),
    .perform (.loadActive "p.A"), .resource "p//A.pyc"]

/-- A session that copies artifacts to a directory beside the one place of its resource path. -/
def keepingApart : Session where
  disk := { nodes := [(["store"], .directory), (["units"], .directory), (["units", "B.py"], .file [])] }
  resources := { places := [⟨1, ["units"]⟩] }
  sideStore := .durable DurableStore.inDirectory

/-- The same without a side store, with more in the log. -/
def keepingNone : Session := { keepingApart with sideStore := .absent, verbose := some true, level := .debug }

theorem keepingApart_aloof : keepingApart.Aloof True ∧ keepingNone.Aloof True := by
  have hresolved : ∀ p ∈ keepingApart.resources.places, p.IsResolved := by decide +kernel
  have hnamed : ∀ p ∈ keepingApart.resources.places, keepingApart.disk.NamedBelow p.parts := by
    unfold Disk.NamedBelow
    decide +kernel
  have hlies : DurableStore.inDirectory.LiesIn keepingApart.disk ["store"] :=
    { located := by decide +kernel
      above := fun place hplace =>
        (by decide +kernel : ∀ p ∈ ["store"].inits, keepingApart.disk.get? p = some .directory) place
          ((List.mem_inits place ["store"]).2 hplace)
      settled := List.not_mem_nil }
  refine ⟨⟨trivial, fun _ => trivial, fun _ => ⟨List.forall_mem_nil _, hresolved, hnamed, fun store hstore => ?_⟩⟩,
    ⟨trivial, fun _ => trivial, fun _ => ⟨List.forall_mem_nil _, hresolved, hnamed, fun store hstore => ?_⟩⟩⟩
  · obtain rfl := SideStore.durable.inj hstore
    exact ⟨["store"], hlies, by decide⟩
  · cases hstore

/-- The copy that is saved by the load is not found. -/
theorem keepingApart_replies : Twins True keepingApart keepingNone ∧ keepingApart.Aloof True ∧
    keepingNone.Aloof True ∧ (∀ demand ∈ fruitless, demand.Within (blindingEmitting True)) ∧
    (replies fruitless keepingApart).1 = (replies fruitless keepingNone).1 := by
  have htwins : Twins True keepingApart keepingNone := ⟨{ Alike.refl keepingApart with }, .refl keepingApart.disk⟩
  have hname : UnitName.IsPlain (UnitName.canonical "p.A_ts1") := by decide +kernel
  have hpath : ".." ∉ pieces '/' "p//A.pyc" := by decide +kernel
  have hwithin : ∀ demand ∈ fruitless, demand.Within (blindingEmitting True) := by
    simp [fruitless, Demand.Within, Operation.Within, blindingEmitting, hname, hpath]
  obtain ⟨hs, ht⟩ := keepingApart_aloof
  exact ⟨htwins, hs, ht, hwithin, (replies_eq htwins hs ht hwithin).1⟩

/-- A session that copies artifacts to the one place of its resource path. -/
def sharing : Session where
  disk := DurableStore.emptyDirectory
  resources := { places := [DurableStore.inDirectory.directory] }
  sideStore := .durable DurableStore.inDirectory

/-- The bytes among replies. -/
def served (replies : List (Except Failure Reply)) : List Bytes :=
  replies.filterMap fun reply =>
    match reply with
    | .ok (.bytes data) => some data
    | _ => none

/-- The copy that is saved by the load is a file of the resource path. -/
theorem sharing_shows : sharing.sideStore.IsOrdinary ∧
    (replies fruitless sharing).1 ≠ (replies fruitless { sharing with sideStore := .absent }).1 := by
  have hfound : served (replies fruitless sharing).1 = [[1]] := by decide +kernel
  have hmissed : served (replies fruitless { sharing with sideStore := .absent }).1 = [] := by decide +kernel
  refine ⟨trivial, fun heq => ?_⟩
  cases hfound.symm.trans ((congrArg served heq).trans hmissed)

end Session

end UnitFoundry
