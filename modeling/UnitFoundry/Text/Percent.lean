import UnitFoundry.Text.Utf8

/-!
# Percent encoding

In the path of a URI a byte of the UTF-8 form stands for itself if it is an ASCII letter or digit or
one of `_`, `.`, `-`, `~` and `/`; any other is written as a percent sign and two upper-case
hexadecimal digits.
-/

namespace UnitFoundry.Text

/-- The bytes that stand for themselves in the path of a URI. -/
def isUnreserved (b : UInt8) : Bool :=
  let c := Char.ofNat b.toNat
  b < 0x80 && (c.isAlphanum || c = '_' || c = '.' || c = '-' || c = '~' || c = '/')

/-- One byte in the path of a URI. -/
def percentByte (b : UInt8) : List Char :=
  if isUnreserved b then [Char.ofNat b.toNat] else '%' :: (hexByte b).toList.map Char.toUpper

/-- A text as it stands in the path of a URI. -/
def percentEncode (s : String) : String :=
  String.ofList ((encodeUtf8 s).flatMap percentByte)

end UnitFoundry.Text
