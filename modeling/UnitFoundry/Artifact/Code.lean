import UnitFoundry.Options

/-!
# Code

The code of a unit is its source text together with the name of the file it was compiled from and
the level of optimization it is to be run at.
-/

namespace UnitFoundry

/-- Compiled code. -/
structure Code where
  file : String
  optimize : Optimization
  text : String
  deriving Repr, DecidableEq

end UnitFoundry
