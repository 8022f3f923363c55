import Mathlib.Tactic.Common
import Mathlib.Tactic.IntervalCases
import UnitFoundry.Artifact.Serial

/-!
# Texts read back from their bytes

The bytes of a text are those of its characters, one after the other. The first byte of a character says how many
are to follow, and in which range the next of them is to lie: this keeps out overlong forms and surrogates, which no
character has. So the decoder reads every text back, and finds no surrogate to be replaced in it.

* `encodeUtf8_eq` — the bytes of a text, character by character;
* `decodeUtf8From_encoded` — one character is read back;
* `decodeUtf8_encodeUtf8` — **a text is read back from its bytes**;
* `withoutSurrogates_encodeUtf8` — **no text has surrogates**.
-/

namespace UnitFoundry.Text

variable {c : Char} {rest : Bytes} {position : Nat}

/-! ## Bytes -/

theorem toList_loop (b : ByteArray) (i : Nat) (read : Bytes) :
    ByteArray.toList.loop b i read = read.reverse ++ b.data.toList.drop i := by
  induction i, read using ByteArray.toList.loop.induct b with
  | case1 i read h ih =>
    have hi : i < b.data.toList.length := h
    rw [ByteArray.toList.loop, if_pos h, ih, List.drop_eq_getElem_cons hi]
    have hget : b.get! i = b.data.toList[i] := getElem!_pos b.data i h
    simp [hget]
  | case2 i read h =>
    have hi : b.data.toList.length ≤ i := Nat.le_of_not_lt h
    rw [ByteArray.toList.loop, if_neg h, List.drop_eq_nil_of_le hi, List.append_nil]

theorem encodeUtf8_eq (s : String) : encodeUtf8 s = s.toList.flatMap String.utf8EncodeChar := by
  rw [encodeUtf8, ByteArray.toList, toList_loop, List.reverse_nil, List.nil_append, List.drop_zero]
  conv_lhs => rw [← String.ofList_toList (s := s)]
  rw [String.toUTF8_eq_toByteArray, String.toByteArray_ofList, List.utf8Encode, List.toList_data_toByteArray]

/-! ## First bytes -/

theorem utf8Lead?_two {k : Nat} (hlow : 2 ≤ k) (hhigh : k < 32) :
    utf8Lead? (k + 0xC0) = some ⟨k, 1, 0x80, 0xBF⟩ := by
  interval_cases k <;> rfl

/-- Three bytes: the second byte keeps out overlong forms and surrogates. -/
theorem utf8Lead?_three {k : Nat} (hhigh : k < 16) : utf8Lead? (k + 0xE0) =
    some ⟨k, 2, if k = 0 then 0xA0 else 0x80, if k = 13 then 0x9F else 0xBF⟩ := by
  interval_cases k <;> rfl

/-- Four bytes: the second byte keeps out overlong forms and what is beyond the last character. -/
theorem utf8Lead?_four {k : Nat} (hhigh : k < 5) : utf8Lead? (k + 0xF0) =
    some ⟨k, 3, if k = 0 then 0x90 else 0x80, if k = 4 then 0x8F else 0xBF⟩ := by
  interval_cases k <;> rfl

/-! ## Characters -/

theorem decodeUtf8From_small {n : Nat} (hn : n < 0x80) :
    decodeUtf8From position .start (UInt8.ofNat n :: rest) =
      (Char.ofNat n :: ·) <$> decodeUtf8From (position + 1) .start rest := by
  have hbyte : (UInt8.ofNat n).toNat = n := by
    rw [UInt8.toNat_ofNat']
    omega
  rw [decodeUtf8From, hbyte, if_pos hn]

theorem decodeUtf8From_lead {n : Nat} {lead : Utf8Lead} (hlow : 0x80 ≤ n) (hn : n < 256)
    (hlead : utf8Lead? n = some lead) :
    decodeUtf8From position .start (UInt8.ofNat n :: rest) =
      decodeUtf8From (position + 1) (.inside [UInt8.ofNat n] lead) rest := by
  have hbyte : (UInt8.ofNat n).toNat = n := by
    rw [UInt8.toNat_ofNat']
    omega
  rw [decodeUtf8From, hbyte, if_neg (by omega), hlead]

/-- A byte that is owed is read. -/
theorem decodeUtf8From_owed {seen : Bytes} {bits owed low high n : Nat} (hn : n < 256) (hlow : low ≤ n)
    (hhigh : n ≤ high) :
    decodeUtf8From position (.inside seen ⟨bits, owed, low, high⟩) (UInt8.ofNat n :: rest) =
      if owed ≤ 1 then (Char.ofNat (bits * 64 + (n - 0x80)) :: ·) <$> decodeUtf8From (position + 1) .start rest
      else decodeUtf8From (position + 1)
        (.inside (UInt8.ofNat n :: seen) ⟨bits * 64 + (n - 0x80), owed - 1, 0x80, 0xBF⟩) rest := by
  have hbyte : (UInt8.ofNat n).toNat = n := by
    rw [UInt8.toNat_ofNat']
    omega
  rw [decodeUtf8From, hbyte, if_pos (by simp [hlow, hhigh])]

/-- Surrogates are no characters. -/
theorem toNat_le_or_ge (c : Char) : c.val.toNat < 0xD800 ∨ 0xDFFF < c.val.toNat ∧ c.val.toNat < 0x110000 := c.valid

/-- **A character is read back**: its first byte says how many are to follow and what the next one may be. -/
theorem decodeUtf8From_encoded (c : Char) (position : Nat) (rest : Bytes) :
    ∃ next, decodeUtf8From position .start (String.utf8EncodeChar c ++ rest) =
      (c :: ·) <$> decodeUtf8From next .start rest := by
  have hvalid := toNat_le_or_ge c
  have hchar : ∀ n, n = c.val.toNat → Char.ofNat n = c := by
    rintro _ rfl
    exact Char.ofNat_toNat c
  unfold String.utf8EncodeChar
  generalize c.val.toNat = v at hvalid hchar
  dsimp only
  split
  · refine ⟨position + 1, ?_⟩
    rw [List.cons_append, List.nil_append, decodeUtf8From_small (by omega), hchar v rfl]
  split
  · refine ⟨position + 2, ?_⟩
    rw [List.cons_append, List.cons_append, List.nil_append,
      decodeUtf8From_lead (by omega) (by omega) (utf8Lead?_two (by omega) (by omega)),
      decodeUtf8From_owed (by omega) (by omega) (by omega)]
    rw [if_pos (by omega), hchar _ (by omega)]
  split
  · refine ⟨position + 3, ?_⟩
    have hsecond : (if v / 4096 % 16 = 0 then 0xA0 else 0x80) ≤ v / 64 % 64 + 0x80 ∧
        v / 64 % 64 + 0x80 ≤ (if v / 4096 % 16 = 13 then 0x9F else 0xBF) := by
      constructor
      · split <;> omega
      · split <;> omega
    rw [List.cons_append, List.cons_append, List.cons_append, List.nil_append,
      decodeUtf8From_lead (by omega) (by omega) (utf8Lead?_three (by omega)),
      decodeUtf8From_owed (by omega) hsecond.1 hsecond.2]
    rw [if_neg (by omega), decodeUtf8From_owed (by omega) (by omega) (by omega)]
    rw [if_pos (by omega), hchar _ (by omega)]
  · refine ⟨position + 4, ?_⟩
    have hsecond : (if v / 262144 % 8 = 0 then 0x90 else 0x80) ≤ v / 4096 % 64 + 0x80 ∧
        v / 4096 % 64 + 0x80 ≤ (if v / 262144 % 8 = 4 then 0x8F else 0xBF) := by
      constructor
      · split <;> omega
      · split <;> omega
    rw [List.cons_append, List.cons_append, List.cons_append, List.cons_append, List.nil_append,
      decodeUtf8From_lead (by omega) (by omega) (utf8Lead?_four (by omega)),
      decodeUtf8From_owed (by omega) hsecond.1 hsecond.2]
    rw [if_neg (by omega), decodeUtf8From_owed (by omega) (by omega) (by omega)]
    rw [if_neg (by omega), decodeUtf8From_owed (by omega) (by omega) (by omega)]
    rw [if_pos (by omega), hchar _ (by omega)]

theorem decodeUtf8From_flatMap (s : List Char) (position : Nat) :
    decodeUtf8From position .start (s.flatMap String.utf8EncodeChar) = .ok s := by
  induction s generalizing position with
  | nil => rfl
  | cons c s ih =>
    obtain ⟨next, hnext⟩ := decodeUtf8From_encoded c position (s.flatMap String.utf8EncodeChar)
    rw [List.flatMap_cons, hnext, ih]
    rfl

/-- **A text is read back from its bytes.** -/
@[simp] theorem decodeUtf8_encodeUtf8 (s : String) : decodeUtf8 (encodeUtf8 s) = .ok s := by
  rw [decodeUtf8, encodeUtf8_eq, decodeUtf8From_flatMap]
  exact congrArg Except.ok String.ofList_toList

/-! ## Surrogates -/

/-- The first byte of a surrogate is not followed by a second one. -/
def Apart (b next : UInt8) : Prop := b = 0xED → next < 0xA0

/-- Where no two bytes begin a surrogate, nothing is replaced. -/
theorem withoutSurrogates_of_apart {b : Bytes} (h : b.IsChain Apart) : Artifact.withoutSurrogates b = b := by
  induction b using Artifact.withoutSurrogates.induct with
  | case1 a b c rest hfound ih =>
    simp only [Bool.and_eq_true, decide_eq_true_eq] at hfound
    obtain ⟨⟨⟨⟨hfirst, hsecond⟩, -⟩, -⟩, -⟩ := hfound
    exact absurd ((List.isChain_cons_cons.1 h).1 hfirst) (UInt8.not_lt.2 hsecond)
  | case2 a b c rest hfound ih =>
    rw [Artifact.withoutSurrogates, if_neg hfound, ih (List.isChain_cons_cons.1 h).2]
  | case3 rest hshort => rw [Artifact.withoutSurrogates.eq_2 rest hshort]

theorem isChain_cons_of_ne {n : Nat} (hn : n < 256) (hne : n ≠ 0xED) (h : rest.IsChain Apart) :
    (UInt8.ofNat n :: rest).IsChain Apart := by
  have hapart (next : UInt8) : Apart (UInt8.ofNat n) next := by
    intro heq
    have hn' : n % 256 = 0xED := by simpa using congrArg UInt8.toNat heq
    omega
  cases rest with
  | nil => exact .singleton _
  | cons next rest => exact List.isChain_cons_cons.2 ⟨hapart next, h⟩

/-- The bytes of a character do not begin a surrogate, nor does the last one of them. -/
theorem isChain_utf8EncodeChar (c : Char) (h : rest.IsChain Apart) :
    (String.utf8EncodeChar c ++ rest).IsChain Apart := by
  have hvalid := toNat_le_or_ge c
  unfold String.utf8EncodeChar
  generalize c.val.toNat = v at hvalid
  dsimp only
  split
  · exact isChain_cons_of_ne (by omega) (by omega) h
  split
  · exact isChain_cons_of_ne (by omega) (by omega) (isChain_cons_of_ne (by omega) (by omega) h)
  split
  · have htail := isChain_cons_of_ne (n := v / 64 % 64 + 0x80) (by omega) (by omega)
      (isChain_cons_of_ne (n := v % 64 + 0x80) (by omega) (by omega) h)
    by_cases hfirst : v / 4096 % 16 + 0xE0 = 0xED
    · -- surrogates are no characters
      have hsecond : v / 64 % 64 + 0x80 < 0xA0 := by omega
      refine List.isChain_cons_cons.2 ⟨fun _ => UInt8.lt_iff_toNat_lt.2 ?_, htail⟩
      rw [UInt8.toNat_ofNat', Nat.mod_eq_of_lt (by omega)]
      exact hsecond
    · exact isChain_cons_of_ne (by omega) hfirst htail
  · exact isChain_cons_of_ne (by omega) (by omega) <| isChain_cons_of_ne (by omega) (by omega) <|
      isChain_cons_of_ne (by omega) (by omega) <| isChain_cons_of_ne (by omega) (by omega) h

/-- **No text has surrogates.** -/
@[simp] theorem withoutSurrogates_encodeUtf8 (s : String) :
    Artifact.withoutSurrogates (encodeUtf8 s) = encodeUtf8 s := by
  refine withoutSurrogates_of_apart ?_
  rw [encodeUtf8_eq]
  generalize s.toList = chars
  induction chars with
  | nil => exact .nil
  | cons c chars ih =>
    rw [List.flatMap_cons]
    exact isChain_utf8EncodeChar c ih

end UnitFoundry.Text
