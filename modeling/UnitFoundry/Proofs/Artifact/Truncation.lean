import UnitFoundry.Proofs.Artifact.Format

/-!
# Artifacts that are cut short

Where an artifact is cut, be it in the header or in the payload, the reader runs out of bytes: what is read of an item
is the same as in the whole artifact up to the cut, and there the next part is missing. So no start of an artifact is
taken for another one, and neither are bytes with another magic number.

* `Breaks` — reading fails at the end of every start of the bytes;
* `breaks_encodeBytes`, `breaks_encodeText`, `breaks_encodeCode` — so it does for the parts of code;
* `Recovers` — what a payload has to keep to: code is read back, and no part of it is;
* `recovers_of_isStorable` — code that is not too long keeps to it;
* `decode_faithful` — **what an artifact says, and what happens to one that is cut or has a foreign magic number**.
-/

namespace UnitFoundry.Artifact

open UnitFoundry.Text

variable {α β : Type} {a : α} {b bytes start : Bytes} {c : Code} {depth : Nat}

/-! ## Readers that run out of bytes -/

/-- Reading fails for want of bytes wherever these are cut, whatever has been remembered. -/
def Breaks (read : Reading α) (b : Bytes) : Prop :=
  ∀ start remembered, start <+: b → start ≠ b →
    ∃ why, read { rest := start, remembered } = .error why ∧ why.kind = "EOFError"

namespace Breaks

theorem bind_of_error {read : Reading α} {r : Reader} {why : Raised} (h : read r = .error why)
    (next : α → Reading β) : (read >>= next) r = .error why := by
  show (read r >>= fun p => next p.1 p.2) = _
  rw [h]
  rfl

/-- The cut is in the first part, or after it in the second one. -/
theorem bind {read : Reading α} {next : α → Reading β} (hreads : Reads read b a) (h : Breaks read b)
    (hnext : Breaks (next a) bytes) : Breaks (read >>= next) (b ++ bytes) := by
  intro start remembered hstart hne
  by_cases hbefore : b <+: start
  · obtain ⟨rest, rfl⟩ := hbefore
    obtain ⟨between, hfirst⟩ := hreads rest remembered
    obtain ⟨why, hwhy, hkind⟩ := hnext rest between ((List.prefix_append_right_inj b).1 hstart)
      (fun heq => hne (heq ▸ rfl))
    refine ⟨why, ?_, hkind⟩
    show (read _ >>= fun p => next p.1 p.2) = _
    rw [hfirst]
    exact hwhy
  · have hinside : start <+: b :=
      (List.prefix_or_prefix_of_prefix hstart (List.prefix_append b bytes)).resolve_right hbefore
    obtain ⟨why, hwhy, hkind⟩ := h start remembered hinside (fun heq => hbefore (heq ▸ List.prefix_refl _))
    exact ⟨why, bind_of_error hwhy next, hkind⟩

/-- What is done without reading comes before the cut. -/
theorem bind_nil {read : Reading α} {next : α → Reading β} (hreads : Reads read [] a)
    (hnext : Breaks (next a) bytes) : Breaks (read >>= next) bytes :=
  bind hreads (fun _ _ hstart hne => absurd (List.prefix_nil.1 hstart) hne) hnext

/-- What comes after the bytes is not reached. -/
theorem bind_last {read : Reading α} (h : Breaks read b) (next : α → Reading β) : Breaks (read >>= next) b := by
  intro start remembered hstart hne
  obtain ⟨why, hwhy, hkind⟩ := h start remembered hstart hne
  exact ⟨why, bind_of_error hwhy next, hkind⟩

theorem get {next : Reader → Reading β} (h : ∀ r, Breaks (next r) b) : Breaks (MonadState.get >>= next) b :=
  fun start remembered hstart hne => h _ start remembered hstart hne

end Breaks

/-! ## Words -/

theorem breaks_readByte (byte : UInt8) : Breaks readByte [byte] := by
  intro start remembered hstart hne
  rcases List.prefix_cons_iff.1 hstart with rfl | ⟨rest, rfl, hrest⟩
  · exact ⟨noItem, rfl, rfl⟩
  · rw [List.prefix_nil.1 hrest] at hne
    exact absurd rfl hne

theorem breaks_readBytes (b : Bytes) : Breaks (readBytes b.length) b := by
  intro start remembered hstart hne
  have hshort : start.length < b.length :=
    lt_of_le_of_ne hstart.length_le fun hlength => hne (hstart.eq_of_length hlength)
  exact ⟨tooShort, by rw [readBytes, if_pos hshort], rfl⟩

theorem breaks_readWord (n : Int) : Breaks readWord (encodeWord n) := (breaks_readBytes (encodeWord n)).bind_last _

theorem breaks_readSize (what : String) (n : Int) : Breaks (readSize what) (encodeWord n) :=
  (breaks_readWord n).bind_last _

/-! ## Items -/

theorem breaks_encodeBytes (h : b.length < sizeLimit) : Breaks (readItem (depth + 1)) (encodeBytes b) := by
  show Breaks _ ([asciiByte 's'] ++ (encodeWord b.length ++ b))
  refine .bind (reads_readByte (asciiByte 's')) (breaks_readByte _) ?_
  exact .bind (reads_readSize "bytes object" h) (breaks_readSize _ _) ((breaks_readBytes b).bind_last _)

theorem breaks_encodeText {s : String} (h : (encodeUtf8 s).length < sizeLimit) :
    Breaks (readItem (depth + 1)) (encodeText s) := by
  show Breaks _ ([asciiByte 'u'] ++ (encodeWord (encodeUtf8 s).length ++ encodeUtf8 s))
  refine .bind (reads_readByte (asciiByte 'u')) (breaks_readByte _) ?_
  exact .bind (reads_readSize "string" h) (breaks_readSize _ _) ((breaks_readBytes (encodeUtf8 s)).bind_last _)

theorem breaks_emptySequence : Breaks (readItem (depth + 1)) emptySequence := by
  show Breaks _ ([asciiByte ')'] ++ [0])
  exact .bind (reads_readByte (asciiByte ')')) (breaks_readByte _) ((breaks_readByte 0).bind_last _)

/-! ## Code -/

theorem breaks_readWords_cons {n : Nat} {first : Int} (hlow : -2147483648 ≤ first) (hhigh : first < 2147483648)
    (h : Breaks (readWords n) b) : Breaks (readWords (n + 1)) (encodeWord first ++ b) :=
  .bind (reads_readWord hlow hhigh) (breaks_readWord first) (h.bind_last _)

theorem breaks_readParts_cons {read : Reading Item} {n : Nat} {item : Item} (hreads : Reads read b item)
    (hitem : Breaks read b) (hnull : item ≠ .null) (h : Breaks (readParts read n) bytes) :
    Breaks (readParts read (n + 1)) (b ++ bytes) := by
  refine .bind hreads hitem ?_
  have hrest : Breaks (do Pure.pure ((← readParts read n).map (item :: ·)) : Reading (Option (List Item))) bytes :=
    h.bind_last _
  cases item with
  | null => exact absurd rfl hnull
  | _ => exact hrest

theorem breaks_nil (read : Reading α) : Breaks read [] := fun _ _ hstart hne => absurd (List.prefix_nil.1 hstart) hne

theorem breaks_countsOf (c : Code) : Breaks (readWords 5) (countBytes c) := by
  have hlevel : -2147483648 ≤ c.optimize.level + 1 ∧ c.optimize.level + 1 < 2147483648 := by
    cases c.optimize <;> decide
  have hzero : (-2147483648 : Int) ≤ 0 ∧ (0 : Int) < 2147483648 := by decide
  exact breaks_readWords_cons hzero.1 hzero.2 <| breaks_readWords_cons hzero.1 hzero.2 <|
    breaks_readWords_cons hzero.1 hzero.2 <| breaks_readWords_cons hlevel.1 hlevel.2 <|
    breaks_readWords_cons hzero.1 hzero.2 (breaks_nil _)

theorem breaks_partsOf (h : IsStorable c) : Breaks (readParts (readItem (depth + 1)) 8) (partBytes c) := by
  have hmodule : (encodeUtf8 "<module>").length < sizeLimit := by
    rw [encodeUtf8_eq]
    decide
  have hempty : ([] : Bytes).length < sizeLimit := by decide
  have hbytes {n : Nat} {rest : Bytes} (hrest : Breaks (readParts (readItem (depth + 1)) n) rest) :
      Breaks (readParts (readItem (depth + 1)) (n + 1)) (encodeBytes [] ++ rest) :=
    breaks_readParts_cons (reads_encodeBytes hempty) (breaks_encodeBytes hempty) nofun hrest
  have hsequence {n : Nat} {rest : Bytes} (hrest : Breaks (readParts (readItem (depth + 1)) n) rest) :
      Breaks (readParts (readItem (depth + 1)) (n + 1)) (emptySequence ++ rest) :=
    breaks_readParts_cons reads_emptySequence breaks_emptySequence nofun hrest
  have htext {s : String} (hs : (encodeUtf8 s).length < sizeLimit) {n : Nat} {rest : Bytes}
      (hrest : Breaks (readParts (readItem (depth + 1)) n) rest) :
      Breaks (readParts (readItem (depth + 1)) (n + 1)) (encodeText s ++ rest) :=
    breaks_readParts_cons (reads_encodeText hs) (breaks_encodeText hs) nofun hrest
  exact hbytes <| hsequence <| hsequence <| hsequence <| hbytes <| htext h.file <| htext hmodule <|
    htext hmodule (breaks_nil _)

theorem breaks_tablesOf (h : IsStorable c) : Breaks (readParts (readItem (depth + 1)) 2) (tableBytes c) := by
  have hempty : ([] : Bytes).length < sizeLimit := by decide
  exact breaks_readParts_cons (reads_encodeBytes h.text) (breaks_encodeBytes h.text) nofun <|
    breaks_readParts_cons (reads_encodeBytes hempty) (breaks_encodeBytes hempty) nofun (breaks_nil _)

/-- **No start of the item of some code is an item.** -/
theorem breaks_encodeCode (h : IsStorable c) : Breaks (readItem (depth + 2)) (encodeCode c) := by
  have hline : (-2147483648 : Int) ≤ 1 ∧ (1 : Int) < 2147483648 := by decide
  rw [encodeCode_eq]
  refine .bind (reads_readByte (128 + asciiByte 'c')) (breaks_readByte _) ?_
  show Breaks (readCode (readItem (depth + 1)) true) _
  refine .get fun r => .bind_nil (.remember true none) ?_
  refine .bind (reads_countsOf c) (breaks_countsOf c) ?_
  refine .bind (reads_partsOf h) (breaks_partsOf h) ?_
  exact .bind (reads_readWord hline.1 hline.2) (breaks_readWord 1) ((breaks_tablesOf h).bind_last _)

/-! ## Payloads -/

/-- What the payload of some code has to keep to: the code is read back, and no start of the payload is read. -/
structure Recovers (c : Code) : Prop where
  whole : readPayload (encodeCode c) = .ok (.code c)
  cut : ∀ start, start <+: encodeCode c → start ≠ encodeCode c →
    ∃ why, readPayload start = .error why ∧ (why.kind = "EOFError" ∨ why.kind = "ValueError")

/-- Code that is not too long keeps to it. -/
theorem recovers_of_isStorable (h : IsStorable c) : Recovers c where
  whole := readPayload_encodeCode h
  cut start hstart hne := by
    have hbreaks : Breaks (readItem depthLimit) (encodeCode c) := breaks_encodeCode h
    obtain ⟨why, hwhy, hkind⟩ := hbreaks start [] hstart hne
    refine ⟨why, ?_, .inl hkind⟩
    rw [readPayload]
    have hrun : (readItem depthLimit).run { rest := start } = .error why := hwhy
    rw [hrun]
    rfl

/-! ## Artifacts -/

variable {name : String} {data : Bytes}

/-- The one error with which an artifact is refused; it names the unit. -/
def Refuses (name : String) (data : Bytes) : Prop :=
  ∃ e, decode name data = .error (.error e) ∧ e.kind = .artifactLoad ∧ e.unit = some name

theorem refuses_of_short (h : data.length < headerSize) : Refuses name data :=
  ⟨.truncated name data.length, by rw [decode, if_pos h], rfl, rfl⟩

theorem refuses_of_magic (h : data.take 4 ≠ magic) : Refuses name data := by
  by_cases hshort : data.length < headerSize
  · exact refuses_of_short hshort
  · exact ⟨.foreignMagic name, by rw [decode, if_neg hshort, if_pos h], rfl, rfl⟩

/-- A payload that cannot be read for one of the usual reasons. -/
theorem refuses_of_payload {why : Raised} (hread : readPayload (data.drop headerSize) = .error why)
    (hkind : why.kind = "EOFError" ∨ why.kind = "ValueError") : Refuses name data := by
  by_cases hshort : data.length < headerSize
  · exact refuses_of_short hshort
  by_cases hmagic : data.take 4 = magic
  · have hcorrupt : isCorruption why = true := by
      unfold isCorruption
      rcases hkind with hkind | hkind
      · rw [hkind]
        decide +kernel
      · rw [hkind]
        decide +kernel
    exact ⟨.corrupt name why, by rw [decode, if_neg hshort, if_neg (not_not_intro hmagic), hread]; simp [hcorrupt],
      rfl, rfl⟩
  · exact refuses_of_magic hmagic

/-- The words of a header, one after the other. -/
theorem words_header (c : Code) (sourceSize : Int) (modified : Rat) :
    (encode c sourceSize modified).take 4 = magic ∧
    decodeWord (((encode c sourceSize modified).drop 4).take 4) = 0 ∧
    (decodeWord (((encode c sourceSize modified).drop 8).take 4) : Int) = wholeSeconds modified % twoTo 32 ∧
    (decodeWord (((encode c sourceSize modified).drop 12).take 4) : Int) = sourceSize % twoTo 32 := by
  have hword (n : Int) : (wordOf n : Int) = n % twoTo 32 := by
    have htwo : ((twoTo 32 : Nat) : Int) = 4294967296 := rfl
    rw [wordOf, htwo]
    omega
  refine ⟨rfl, ?_, ?_, ?_⟩
  · show decodeWord (encodeWord 0) = 0
    decide +kernel
  · show (decodeWord (encodeWord (wholeSeconds modified)) : Int) = _
    rw [decodeWord_encodeWord, hword]
  · show (decodeWord (encodeWord sourceSize) : Int) = _
    rw [decodeWord_encodeWord, hword]

/-- A time without its fraction is the whole number next to it on the side of zero. -/
theorem wholeSeconds_spec (t : Rat) :
    (0 ≤ t → (wholeSeconds t : Rat) ≤ t ∧ t - 1 < wholeSeconds t) ∧
    (t < 0 → t ≤ wholeSeconds t ∧ (wholeSeconds t : Rat) < t + 1) := by
  refine ⟨fun ht => ?_, fun ht => ?_⟩
  · rw [wholeSeconds, if_neg (Rat.not_lt.2 ht)]
    exact ⟨Rat.floor_le t, Rat.lt_floor⟩
  · rw [wholeSeconds, if_pos ht]
    exact ⟨Rat.le_ceil, Rat.ceil_lt⟩

/-- A start of an artifact lacks a part of the header, or a part of the payload. -/
theorem refuses_of_cut (h : Recovers c) (name : String) {sourceSize : Int} {modified : Rat}
    (hstart : start <+: encode c sourceSize modified) (hne : start ≠ encode c sourceSize modified) :
    Refuses name start := by
  by_cases hshort : start.length < headerSize
  · exact refuses_of_short hshort
  have hheader : header sourceSize modified <+: start := by
    refine List.prefix_of_prefix_length_le (List.prefix_append _ (encodeCode c)) hstart ?_
    rw [length_header]
    exact not_lt.1 hshort
  obtain ⟨rest, rfl⟩ := hheader
  have hdrop : (header sourceSize modified ++ rest).drop headerSize = rest := by
    rw [← length_header sourceSize modified, List.drop_left]
  obtain ⟨why, hwhy, hkind⟩ := h.cut rest ((List.prefix_append_right_inj _).1 hstart)
    (fun heq => hne (by rw [encode, heq]))
  exact refuses_of_payload (hdrop.symm ▸ hwhy) hkind

/-- **What an artifact says, and which bytes are refused.** Whatever the size of the source and the time are, the code
comes back, and the words of the header are the magic number, no flags, the whole seconds and the size, the last two
modulo the size of a word. Every start of the artifact is refused, and so are its bytes with another magic number, by
the error that names the unit. This rests on payloads being read back and on no start of one being read, which is so
for all code that can be stored. -/
theorem decode_faithful (c : Code) (sourceSize : Int) (modified : Rat) (name : String) :
    (IsStorable c → Recovers c) ∧
    (Recovers c → decode name (encode c sourceSize modified) = .ok c) ∧
    ((encode c sourceSize modified).take 4 = magic ∧
      decodeWord (((encode c sourceSize modified).drop 4).take 4) = 0 ∧
      (decodeWord (((encode c sourceSize modified).drop 8).take 4) : Int) = wholeSeconds modified % twoTo 32 ∧
      (decodeWord (((encode c sourceSize modified).drop 12).take 4) : Int) = sourceSize % twoTo 32) ∧
    (Recovers c → ∀ start, start <+: encode c sourceSize modified → start ≠ encode c sourceSize modified →
      Refuses name start) ∧
    ∀ word : Bytes, word.length = 4 → word ≠ magic →
      Refuses name (word ++ (encode c sourceSize modified).drop 4) := by
  refine ⟨recovers_of_isStorable, fun h => decode_of_readPayload h.whole name sourceSize modified,
    words_header c sourceSize modified, fun h start hstart hne => refuses_of_cut h name hstart hne,
    fun word hlength hword => refuses_of_magic ?_⟩
  rw [← hlength, List.take_left]
  exact hword

/-! ### A small unit -/

/-- Code with one statement. -/
def shortCode : Code := { file := "vfs:///p/A.py", optimize := .inherited, text := "x = 1\n" }

theorem shortCode_isStorable : IsStorable shortCode where
  file := by
    rw [encodeUtf8_eq]
    decide
  text := by
    rw [encodeUtf8_eq]
    decide

/-- A size and a time below zero are read as words, and an artifact without its last byte is refused. -/
theorem shortCode_faithful :
    Recovers shortCode ∧ decode "p.A" (encode shortCode (-1) (-3 / 2)) = .ok shortCode ∧
    decodeWord (((encode shortCode (-1) (-3 / 2)).drop 8).take 4) = 4294967295 ∧
    decodeWord (((encode shortCode (-1) (-3 / 2)).drop 12).take 4) = 4294967295 ∧
    Refuses "p.A" (encode shortCode (-1) (-3 / 2)).dropLast ∧
    Refuses "p.A" ([0xA8, 0x0D, 0x0D, 0x0A] ++ (encode shortCode (-1) (-3 / 2)).drop 4) := by
  obtain ⟨hrecovers, hdecode, ⟨-, -, htime, hsize⟩, hcut, hmagic⟩ := decode_faithful shortCode (-1) (-3 / 2) "p.A"
  have h := hrecovers shortCode_isStorable
  have hword : ((4294967295 : Nat) : Int) = -1 % twoTo 32 := by decide +kernel
  have hseconds : wholeSeconds (-3 / 2) = -1 := by decide +kernel
  have hlonger : (encode shortCode (-1) (-3 / 2)).dropLast ≠ encode shortCode (-1) (-3 / 2) := by
    intro heq
    have hlength := congrArg List.length heq
    rw [List.length_dropLast, length_encode] at hlength
    omega
  exact ⟨h, hdecode h, by rw [hseconds, ← hword] at htime; exact Int.ofNat.inj htime,
    by rw [← hword] at hsize; exact Int.ofNat.inj hsize, hcut h _ (List.dropLast_prefix _) hlonger,
    hmagic [0xA8, 0x0D, 0x0D, 0x0A] rfl (by decide)⟩

end UnitFoundry.Artifact
