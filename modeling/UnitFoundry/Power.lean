/-!
# Powers of two and ten

The powers that the formats of numbers are made of: words and binary fractions are measured by
powers of two, decimals by powers of ten.
-/

namespace UnitFoundry

/-- A power of two. -/
def twoTo (n : Nat) : Nat := Nat.pow 2 n

/-- A power of ten. -/
def tenTo (n : Nat) : Nat := Nat.pow 10 n

end UnitFoundry
