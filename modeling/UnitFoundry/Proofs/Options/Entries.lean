import UnitFoundry.Options
import UnitFoundry.Proofs.Entries
import UnitFoundry.Proofs.Schema

/-!
# Option sets that are checked anew

A new target version goes through the same checks as a new option set: the set is written as fields, the version is
put in its place, and all fields are checked. The fields that an option set is written as are in order, whatever
set it is, so nothing but the version can be faulty, and no other part changes.

* `optional_setEntry_ne` — a field that is not the one that was set;
* `optimize_toEntries`, `lint_toEntries`, … — each part is read back from its field;
* `withTarget_eq` — **only the target version is checked and changed**;
* `ofEntries_toEntries` — an option set is read back from its fields.
-/

namespace UnitFoundry

variable {α : Type}

theorem optional_setEntry_ne {key name : String} (h : name ≠ key) (value : Datum)
    (entries : List (String × Datum)) (absent : α) (decode : Datum → Checked α) :
    optional (setEntry key value entries) name absent decode = optional entries name absent decode :=
  optional_congr (by rw [lookupEntry_setEntry, if_neg h]) absent decode

theorem optional_setEntry_self (key : String) (value : Datum) (entries : List (String × Datum)) (absent : α)
    (decode : Datum → Checked α) :
    optional (setEntry key value entries) key absent decode = (decode value).under (.field key) := by
  rw [optional, lookupEntry_setEntry, if_pos rfl]

theorem TargetVersion.ofString?_text (v : TargetVersion) : ofString? v.text = some v := dif_pos v.valid

namespace Optimization

/-- Every level is in range, and is the level that its number gives. -/
theorem read_level (level : Optimization) :
    (asWholeBetween (-1) 2 (.whole level.level)).map ofLevel = .ok level := by
  cases level with
  | inherited => rfl
  | none => rfl
  | assertions => rfl
  | documentation => rfl

end Optimization

namespace Options

variable (o : Options)

/-! ## Each part is read back -/

theorem target_toEntries :
    optional o.toEntries "target_version" none (orNull asTargetVersion) = .ok o.target := by
  obtain ⟨target, _, _, _⟩ := o
  cases target with
  | none => rfl
  | some version =>
    show ((asTargetVersion (.text version.text)).map some).under _ = _
    rw [asTargetVersion, asText, Checked.andThen, version.ofString?_text]
    rfl

theorem optimize_toEntries : optional o.toEntries "optimize" .inherited (fun d =>
    (asWholeBetween (-1) 2 d).map Optimization.ofLevel) = .ok o.optimize := by
  show Checked.under _ ((asWholeBetween (-1) 2 (.whole o.optimize.level)).map Optimization.ofLevel) = _
  rw [Optimization.read_level]
  rfl

theorem warningsAsErrors_toEntries :
    optional o.toEntries "warnings_as_errors" true asFlag = .ok o.warningsAsErrors := rfl

theorem lint_toEntries : optional o.toEntries "lint" [] (asTuple asText) = .ok o.lint := by
  have hitem (category : String) : asText (.text category) = .ok (id category) := rfl
  show (eachItem asText (o.lint.map .text)).under _ = _
  rw [eachItem_map hitem, List.map_id]
  rfl

/-! ## The set as a whole -/

/-- **Only the target version is checked and changed** when an option set gets another one. -/
theorem withTarget_eq (version : Datum) : o.withTarget version =
    ((orNull asTargetVersion version).under (.field "target_version")).map fun v => { o with target := v } := by
  rw [withTarget, ofEntries, optional_setEntry_self, optional_setEntry_ne (by decide), optimize_toEntries,
    optional_setEntry_ne (by decide), warningsAsErrors_toEntries, optional_setEntry_ne (by decide), lint_toEntries]
  cases (orNull asTargetVersion version).under (.field "target_version") with
  | ok v => rfl
  | faulty found =>
    show Checked.faulty (((found ++ []) ++ []) ++ []) = Checked.faulty found
    simp only [List.append_nil]

/-- An option set is read back from its fields. -/
theorem ofEntries_toEntries : ofEntries o.toEntries = .ok o := by
  rw [ofEntries, target_toEntries, optimize_toEntries, warningsAsErrors_toEntries, lint_toEntries]
  rfl

end Options

end UnitFoundry
