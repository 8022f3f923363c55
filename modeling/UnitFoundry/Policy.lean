import UnitFoundry.Failure
import UnitFoundry.Options

/-!
# The policy of a compiler

Two option sets, one for every compilation and one for trying again after a lint failure, and
whether that is done at all. The second set differs from the first in its lint categories only.

* `Policy` — the two sets and the flag;
* `Change` — a request to change some of it;
* `configure` — the policy after a change, or the failure that leaves it as it is.
-/

namespace UnitFoundry

/-- The option sets that compilations use. -/
structure Policy where
  options : Options := {}
  lintOptions : Options := ({} : Options).withLint [lintRecoverable]
  lintRecovery : Bool := false
  deriving Repr, DecidableEq

/-- What is to be changed in a policy. -/
structure Change where
  target : Option String := none
  lintRecovery : Option Bool := none
  warningsAsErrors : Option Bool := none
  deriving Repr, DecidableEq

namespace Change

/-- The target version that a change asks for. The empty text and the version in use ask for none. -/
def target? (c : Change) : Option String :=
  c.target.filter fun version => !version.isEmpty && version != currentVersion

end Change

namespace Policy

/-- Both option sets with a target version, if there is one to be set. -/
def retarget (p : Policy) : Option String → Except Failure Policy
  | none => .ok p
  | some version => do
    let options ← (p.options.withTarget (.text version)).orFail "CompileOptions"
    let lintOptions ← (p.lintOptions.withTarget (.text version)).orFail "CompileOptions"
    pure { p with options, lintOptions }

/-- The policy after a change. -/
def configure (p : Policy) (c : Change) : Except Failure Policy := do
  let p ← p.retarget c.target?
  pure
    { options := { p.options with
        warningsAsErrors := c.warningsAsErrors.getD p.options.warningsAsErrors }
      lintOptions := { p.lintOptions with
        warningsAsErrors := c.warningsAsErrors.getD p.lintOptions.warningsAsErrors }
      lintRecovery := c.lintRecovery.getD p.lintRecovery }

end Policy

end UnitFoundry
