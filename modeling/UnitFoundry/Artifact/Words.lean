import UnitFoundry.Power
import UnitFoundry.Text.Utf8

/-!
# Words of four bytes

Whole numbers are stored in four bytes, the least significant first, modulo `2 ^ 32`.
-/

namespace UnitFoundry.Artifact

open UnitFoundry.Text

/-- A whole number modulo `2 ^ 32`. -/
def wordOf (n : Int) : Nat := (n % twoTo 32).toNat

/-- The four bytes of a whole number. -/
def encodeWord (n : Int) : Bytes :=
  let w := wordOf n
  [UInt8.ofNat w, UInt8.ofNat (w / twoTo 8), UInt8.ofNat (w / twoTo 16), UInt8.ofNat (w / twoTo 24)]

/-- The number that bytes denote, the least significant first. -/
def decodeWord : Bytes → Nat
  | [] => 0
  | b :: rest => b.toNat + 256 * decodeWord rest

/-- A word read as a number with a sign. -/
def signedWord (w : Nat) : Int := if w < twoTo 31 then w else (w : Int) - twoTo 32

end UnitFoundry.Artifact
