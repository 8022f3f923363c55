import UnitFoundry.Text.Decimal

/-!
# Reading bytes as UTF-8

Decoding follows the table of well-formed byte sequences: an overlong form, a surrogate and a code
point past U+10FFFF are refused at the byte that makes them impossible. A fault names the bytes of
the longest beginning of a well-formed sequence, which is at least one byte.

* `decodeUtf8` — the text of some bytes, or the first fault;
* `encodeUtf8` — the bytes of a text.
-/

namespace UnitFoundry.Text

/-- A sequence of bytes. -/
abbrev Bytes := List UInt8

/-- Why a byte sequence is no UTF-8. -/
inductive Utf8Reason where
  | invalidStart
  | invalidContinuation
  | unexpectedEnd
  deriving Repr, DecidableEq

/-- The first fault of a byte sequence: where it starts, the bytes concerned and the reason. -/
structure Utf8Fault where
  position : Nat
  bytes : Bytes
  reason : Utf8Reason
  deriving Repr, DecidableEq

/-- What is owed after a lead byte: the bits gathered so far, the number of continuation bytes and
the range that the first of them must lie in. -/
structure Utf8Lead where
  bits : Nat
  owed : Nat
  low : Nat
  high : Nat

/-- The lead bytes of well-formed sequences of more than one byte. -/
def utf8Lead? (b : Nat) : Option Utf8Lead :=
  if 0xC2 ≤ b && b ≤ 0xDF then some ⟨b - 0xC0, 1, 0x80, 0xBF⟩
  else if b = 0xE0 then some ⟨0, 2, 0xA0, 0xBF⟩
  else if b = 0xED then some ⟨0xD, 2, 0x80, 0x9F⟩
  else if 0xE1 ≤ b && b ≤ 0xEF then some ⟨b - 0xE0, 2, 0x80, 0xBF⟩
  else if b = 0xF0 then some ⟨0, 3, 0x90, 0xBF⟩
  else if 0xF1 ≤ b && b ≤ 0xF3 then some ⟨b - 0xF0, 3, 0x80, 0xBF⟩
  else if b = 0xF4 then some ⟨4, 3, 0x80, 0x8F⟩
  else none

/-- A decoder between two bytes: at the start of a character, or inside a sequence whose bytes so
far are kept in reverse. -/
inductive Utf8State where
  | start
  | inside (seen : Bytes) (lead : Utf8Lead)

/-- The text of the bytes that follow, when `position` is the index of the next byte. -/
def decodeUtf8From (position : Nat) : Utf8State → Bytes → Except Utf8Fault (List Char)
  | .start, [] => .ok []
  | .inside seen _, [] => .error ⟨position - seen.length, seen.reverse, .unexpectedEnd⟩
  | .start, b :: rest =>
    if b.toNat < 0x80 then (Char.ofNat b.toNat :: ·) <$> decodeUtf8From (position + 1) .start rest
    else
      match utf8Lead? b.toNat with
      | some lead => decodeUtf8From (position + 1) (.inside [b] lead) rest
      | none => .error ⟨position, [b], .invalidStart⟩
  | .inside seen lead, b :: rest =>
    if lead.low ≤ b.toNat && b.toNat ≤ lead.high then
      let bits := lead.bits * 64 + (b.toNat - 0x80)
      if lead.owed ≤ 1 then (Char.ofNat bits :: ·) <$> decodeUtf8From (position + 1) .start rest
      else decodeUtf8From (position + 1) (.inside (b :: seen) ⟨bits, lead.owed - 1, 0x80, 0xBF⟩) rest
    else .error ⟨position - seen.length, seen.reverse, .invalidContinuation⟩

/-- The text that some bytes encode. -/
def decodeUtf8 (bytes : Bytes) : Except Utf8Fault String :=
  String.ofList <$> decodeUtf8From 0 .start bytes

/-- The bytes that encode a text. -/
def encodeUtf8 (s : String) : Bytes := s.toUTF8.toList

/-- A byte as two hexadecimal digits. -/
def hexByte (b : UInt8) : String :=
  String.ofList [Nat.digitChar (b.toNat / 16), Nat.digitChar (b.toNat % 16)]

namespace Utf8Fault

/-- The wording of a fault. -/
def message (fault : Utf8Fault) : String :=
  let subject := match fault.bytes with
    | [b] => "byte 0x" ++ hexByte b ++ " in position " ++ showNat fault.position
    | bytes => "bytes in position " ++ showNat fault.position ++ "-" ++
        showNat (fault.position + bytes.length - 1)
  let reason := match fault.reason with
    | .invalidStart => "invalid start byte"
    | .invalidContinuation => "invalid continuation byte"
    | .unexpectedEnd => "unexpected end of data"
  "'utf-8' codec can't decode " ++ subject ++ ": " ++ reason

end Utf8Fault

end UnitFoundry.Text
