import UnitFoundry.Failure
import UnitFoundry.Schema

/-!
# Checked data that are in order

A check of several data is in order if each of them is, and then it gives what they give.

* `Checked.map_eq_ok`, `Checked.seq_eq_ok`, `Checked.under_eq_ok` — the parts of a check that is in order;
* `eachItem_map` — a list whose items are all in order;
* `optional_congr` — a field depends on its own entry alone.
-/

namespace UnitFoundry

variable {α β : Type}

/-! ## Checked values that are there -/

namespace Checked

theorem map_eq_ok {f : α → β} {x : Checked α} {y : β} : f <$> x = .ok y ↔ ∃ a, x = .ok a ∧ f a = y := by
  cases x with
  | ok a => exact ⟨fun h => ⟨a, rfl, Checked.ok.inj h⟩, fun ⟨_, ha, h⟩ => by cases ha; exact congrArg _ h⟩
  | faulty found => exact ⟨fun h => (by cases h), fun ⟨_, ha, _⟩ => by cases ha⟩

theorem seq_eq_ok {f : Checked (α → β)} {x : Checked α} {y : β} :
    f <*> x = .ok y ↔ ∃ g a, f = .ok g ∧ x = .ok a ∧ g a = y := by
  show apply f x = .ok y ↔ _
  cases f with
  | faulty found => simp [apply]
  | ok g =>
    cases x with
    | faulty found => simp [apply]
    | ok a => simp [apply]

theorem under_eq_ok {step : Step} {x : Checked α} {a : α} : x.under step = .ok a ↔ x = .ok a := by
  cases x with
  | ok b => rfl
  | faulty found => simp [under]

theorem orFail_eq_ok {record : String} {x : Checked α} {a : α} : x.orFail record = .ok a ↔ x = .ok a := by
  cases x with
  | ok b => simp [orFail]
  | faulty found => simp [orFail]

theorem all_map_ok (l : List α) : all (l.map Checked.ok) = .ok l := by
  induction l with
  | nil => rfl
  | cons x rest ih =>
    rw [List.map_cons, all, ih]
    rfl

end Checked

/-! ## Lists and fields -/

/-- A list whose items are all in order. -/
theorem eachItem_map {decode : Datum → Checked β} {datum : α → Datum} {f : α → β}
    (h : ∀ x, decode (datum x) = .ok (f x)) (l : List α) : eachItem decode (l.map datum) = .ok (l.map f) := by
  have hitems (k : Nat) : ((l.map datum).zipIdx k).map (fun item => (decode item.1).under (.index item.2)) =
      (l.map f).map Checked.ok := by
    induction l generalizing k with
    | nil => rfl
    | cons x rest ih =>
      simp only [List.map_cons, List.zipIdx_cons, ih, h]
      rfl
  calc eachItem decode (l.map datum)
      = Checked.all ((l.map datum).zipIdx.map fun item => (decode item.1).under (.index item.2)) := rfl
    _ = .ok (l.map f) := by rw [hitems 0, Checked.all_map_ok]

variable {entries entries' : List (String × Datum)} {key : String}

theorem optional_congr (h : lookupEntry key entries = lookupEntry key entries') (absent : α)
    (decode : Datum → Checked α) : optional entries key absent decode = optional entries' key absent decode := by
  rw [optional, optional, h]

end UnitFoundry
