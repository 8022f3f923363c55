import UnitFoundry.Artifact.Format
import UnitFoundry.Proofs.Text.Utf8

/-!
# Code read back from its artifact

An artifact is written part by part: words, sizes before bytes, the items that make up the code. It is read in the
same order, and each part reads back what was written, whatever comes after it. Sizes are signed words, so what is
written must not be longer than these can say.

* `Reads` — reading ends where the bytes end, with a value;
* `reads_readWord`, `reads_encodeBytes`, `reads_encodeText`, `reads_emptySequence` — the parts are read back;
* `reads_encodeCode` — so is the code;
* `decode_encode` — **an artifact gives the code that it was made for**.
-/

namespace UnitFoundry.Artifact

open UnitFoundry.Text

variable {α β : Type} {a : α} {b bytes more : Bytes} {c : Code} {depth : Nat}

/-! ## Readers -/

/-- Reading gives a value and stops at the end of the bytes, whatever comes after them. -/
def Reads (read : Reading α) (b : Bytes) (a : α) : Prop :=
  ∀ more remembered, ∃ remembered',
    read { rest := b ++ more, remembered } = .ok (a, { rest := more, remembered := remembered' })

namespace Reads

theorem pure (a : α) : Reads (Pure.pure a) [] a := fun _ remembered => ⟨remembered, rfl⟩

theorem bind {read : Reading α} {next : α → Reading β} {result : β} (h : Reads read b a)
    (hnext : Reads (next a) bytes result) : Reads (read >>= next) (b ++ bytes) result := by
  intro more remembered
  obtain ⟨between, hfirst⟩ := h (bytes ++ more) remembered
  obtain ⟨after, hsecond⟩ := hnext more between
  refine ⟨after, ?_⟩
  rw [List.append_assoc]
  show (read _ >>= fun p => next p.1 p.2) = _
  rw [hfirst]
  exact hsecond

/-- What is done without reading comes before the bytes. -/
theorem bind_nil {read : Reading α} {next : α → Reading β} {result : β} (h : Reads read [] a)
    (hnext : Reads (next a) bytes result) : Reads (read >>= next) bytes result := h.bind hnext

/-- What is done without reading comes after the bytes. -/
theorem bind_last {read : Reading α} {next : α → Reading β} {result : β} (h : Reads read b a)
    (hnext : Reads (next a) [] result) : Reads (read >>= next) b result := by
  have hboth := h.bind hnext
  rwa [List.append_nil] at hboth

theorem get {next : Reader → Reading β} {result : β} (h : ∀ r, Reads (next r) bytes result) :
    Reads (MonadState.get >>= next) bytes result :=
  fun more remembered => h _ more remembered

theorem remember (asked : Bool) (item : Option Item) : Reads (Artifact.remember asked item) [] () := by
  intro more remembered
  cases asked with
  | true => exact ⟨_, rfl⟩
  | false => exact ⟨_, rfl⟩

theorem complete (asked : Bool) (place : Nat) (item : Item) : Reads (Artifact.complete asked place item) [] () := by
  intro more remembered
  cases asked with
  | true => exact ⟨_, rfl⟩
  | false => exact ⟨_, rfl⟩

theorem keep (asked : Bool) (item : Item) : Reads (Artifact.keep asked item) [] item :=
  (remember asked (some item)).bind_nil (.pure item)

end Reads

/-! ## Words -/

theorem wordOf_lt (n : Int) : wordOf n < 4294967296 := by
  have htwo : ((twoTo 32 : Nat) : Int) = 4294967296 := rfl
  rw [wordOf, htwo]
  omega

theorem decodeWord_encodeWord (n : Int) : decodeWord (encodeWord n) = wordOf n := by
  have hlt := wordOf_lt n
  have hparts : twoTo 8 = 256 ∧ twoTo 16 = 65536 ∧ twoTo 24 = 16777216 := ⟨rfl, rfl, rfl⟩
  simp only [encodeWord, decodeWord, UInt8.toNat_ofNat', hparts]
  omega

theorem signedWord_wordOf {n : Int} (hlow : -2147483648 ≤ n) (hhigh : n < 2147483648) :
    signedWord (wordOf n) = n := by
  have htwo : ((twoTo 32 : Nat) : Int) = 4294967296 ∧ twoTo 31 = 2147483648 := ⟨rfl, rfl⟩
  unfold signedWord wordOf
  rw [htwo.1, htwo.2]
  split <;> omega

theorem reads_readByte (byte : UInt8) : Reads readByte [byte] byte.toNat := fun _ remembered => ⟨remembered, rfl⟩

theorem reads_readBytes (b : Bytes) : Reads (readBytes b.length) b b := by
  intro more remembered
  refine ⟨remembered, ?_⟩
  rw [readBytes, if_neg (by simp)]
  simp

theorem reads_readWord {n : Int} (hlow : -2147483648 ≤ n) (hhigh : n < 2147483648) :
    Reads readWord (encodeWord n) n := by
  refine (reads_readBytes (encodeWord n)).bind_last ?_
  rw [decodeWord_encodeWord, signedWord_wordOf hlow hhigh]
  exact .pure n

/-- The number of bytes from which on a size cannot be read back. -/
def sizeLimit : Nat := twoTo 31

theorem reads_readSize (what : String) {n : Nat} (h : n < sizeLimit) : Reads (readSize what) (encodeWord n) n := by
  have hlimit : sizeLimit = 2147483648 := rfl
  refine (reads_readWord (n := (n : Int)) (by omega) (by omega)).bind_last ?_
  rw [if_neg (by omega), Int.toNat_natCast]
  exact .pure n

/-! ## Items -/

theorem reads_encodeBytes (h : b.length < sizeLimit) : Reads (readItem (depth + 1)) (encodeBytes b) (.bytes b) := by
  show Reads _ ([asciiByte 's'] ++ (encodeWord b.length ++ b)) _
  refine (reads_readByte (asciiByte 's')).bind ?_
  exact (reads_readSize "bytes object" h).bind <| (reads_readBytes b).bind_last (.keep false (.bytes b))

theorem reads_encodeText {s : String} (h : (encodeUtf8 s).length < sizeLimit) :
    Reads (readItem (depth + 1)) (encodeText s) (.text s) := by
  show Reads _ ([asciiByte 'u'] ++ (encodeWord (encodeUtf8 s).length ++ encodeUtf8 s)) _
  refine (reads_readByte (asciiByte 'u')).bind ?_
  refine (reads_readSize "string" h).bind <| (reads_readBytes (encodeUtf8 s)).bind_last ?_
  have hdecode : Reads (decodeText (withoutSurrogates (encodeUtf8 s))) [] s := by
    rw [withoutSurrogates_encodeUtf8, decodeText, decodeUtf8_encodeUtf8]
    exact .pure s
  exact hdecode.bind_nil (.keep false (.text s))

theorem reads_emptySequence : Reads (readItem (depth + 1)) emptySequence (.sequence []) := by
  show Reads _ ([asciiByte ')'] ++ [0]) _
  refine (reads_readByte (asciiByte ')')).bind ((reads_readByte 0).bind_last ?_)
  refine .get fun r => (Reads.remember false _).bind_nil ?_
  exact (Reads.pure ([] : List Item)).bind_nil <| (Reads.complete false _ _).bind_nil (.pure _)

/-! ## Code -/

theorem reads_readWords_cons {n : Nat} {first : Int} {words : List Int} (hlow : -2147483648 ≤ first)
    (hhigh : first < 2147483648) (h : Reads (readWords n) b words) :
    Reads (readWords (n + 1)) (encodeWord first ++ b) (first :: words) :=
  (reads_readWord hlow hhigh).bind (h.bind_last (.pure _))

theorem reads_readParts_cons {read : Reading Item} {n : Nat} {item : Item} {items : List Item}
    (hitem : Reads read b item) (hnull : item ≠ .null) (h : Reads (readParts read n) bytes (some items)) :
    Reads (readParts read (n + 1)) (b ++ bytes) (some (item :: items)) := by
  refine hitem.bind ?_
  have hrest : Reads (do Pure.pure ((← readParts read n).map (item :: ·)) : Reading (Option (List Item))) bytes
      (some (item :: items)) := h.bind_last (.pure _)
  cases item with
  | null => exact absurd rfl hnull
  | _ => exact hrest

/-- What the level of optimization is written as says which one it is. -/
theorem ofLevel_level (o : Optimization) : Optimization.ofLevel o.level = o := by cases o <;> rfl

/-- The code that can be read back: neither its text nor the name of its file is too long. -/
structure IsStorable (c : Code) : Prop where
  file : (encodeUtf8 c.file).length < sizeLimit
  text : (encodeUtf8 c.text).length < sizeLimit

/-- The counts of code: it has no arguments, and stands for a level of optimization. -/
def countsOf (c : Code) : List Int := [0, 0, 0, c.optimize.level + 1, 0]

/-- The parts of code before the number of its first line. -/
def partsOf (c : Code) : List Item :=
  [.bytes [], .sequence [], .sequence [], .sequence [], .bytes [], .text c.file, .text "<module>", .text "<module>"]

/-- The parts of code after it. -/
def tablesOf (c : Code) : List Item := [.bytes (encodeUtf8 c.text), .bytes []]

theorem codeOf_parts (c : Code) : codeOf (countsOf c) (partsOf c ++ tablesOf c) = .ok c := by
  have hlevel : ¬ c.optimize.level + 1 < 0 := by cases c.optimize <;> decide
  simp [codeOf, countsOf, partsOf, tablesOf, hlevel, ofLevel_level]
  rfl

/-- The bytes of the counts, of the parts, and of the last parts, in the order in which they are read. -/
def countBytes (c : Code) : Bytes :=
  encodeWord 0 ++ (encodeWord 0 ++ (encodeWord 0 ++ (encodeWord (c.optimize.level + 1) ++ (encodeWord 0 ++ []))))

@[inherit_doc countBytes]
def partBytes (c : Code) : Bytes :=
  encodeBytes [] ++ (emptySequence ++ (emptySequence ++ (emptySequence ++ (encodeBytes [] ++
    (encodeText c.file ++ (encodeText "<module>" ++ (encodeText "<module>" ++ [])))))))

@[inherit_doc countBytes]
def tableBytes (c : Code) : Bytes := encodeBytes (encodeUtf8 c.text) ++ (encodeBytes [] ++ [])

theorem encodeCode_eq (c : Code) : encodeCode c =
    [128 + asciiByte 'c'] ++ (countBytes c ++ (partBytes c ++ (encodeWord 1 ++ tableBytes c))) := by
  simp [encodeCode, countBytes, partBytes, tableBytes]

theorem reads_countsOf (c : Code) : Reads (readWords 5) (countBytes c) (countsOf c) := by
  have hlevel : -2147483648 ≤ c.optimize.level + 1 ∧ c.optimize.level + 1 < 2147483648 := by
    cases c.optimize <;> decide
  have hzero : (-2147483648 : Int) ≤ 0 ∧ (0 : Int) < 2147483648 := by decide
  exact reads_readWords_cons hzero.1 hzero.2 <| reads_readWords_cons hzero.1 hzero.2 <|
    reads_readWords_cons hzero.1 hzero.2 <| reads_readWords_cons hlevel.1 hlevel.2 <|
    reads_readWords_cons hzero.1 hzero.2 (.pure [])

theorem reads_partsOf (h : IsStorable c) :
    Reads (readParts (readItem (depth + 1)) 8) (partBytes c) (some (partsOf c)) := by
  have hmodule : (encodeUtf8 "<module>").length < sizeLimit := by
    rw [encodeUtf8_eq]
    decide
  have hempty : ([] : Bytes).length < sizeLimit := by decide
  exact reads_readParts_cons (reads_encodeBytes hempty) nofun <| reads_readParts_cons reads_emptySequence nofun <|
    reads_readParts_cons reads_emptySequence nofun <| reads_readParts_cons reads_emptySequence nofun <|
    reads_readParts_cons (reads_encodeBytes hempty) nofun <| reads_readParts_cons (reads_encodeText h.file) nofun <|
    reads_readParts_cons (reads_encodeText hmodule) nofun <|
    reads_readParts_cons (reads_encodeText hmodule) nofun (.pure (some []))

theorem reads_tablesOf (h : IsStorable c) :
    Reads (readParts (readItem (depth + 1)) 2) (tableBytes c) (some (tablesOf c)) := by
  have hempty : ([] : Bytes).length < sizeLimit := by decide
  exact reads_readParts_cons (reads_encodeBytes h.text) nofun <|
    reads_readParts_cons (reads_encodeBytes hempty) nofun (.pure (some []))

/-- **Code is read back from its item.** -/
theorem reads_encodeCode (h : IsStorable c) : Reads (readItem (depth + 2)) (encodeCode c) (.code c) := by
  have hline : (-2147483648 : Int) ≤ 1 ∧ (1 : Int) < 2147483648 := by decide
  have hcode : Reads (liftM (codeOf (countsOf c) (partsOf c ++ tablesOf c)) : Reading Code) [] c := by
    rw [codeOf_parts]
    exact .pure c
  rw [encodeCode_eq]
  refine (reads_readByte (128 + asciiByte 'c')).bind ?_
  show Reads (readCode (readItem (depth + 1)) true) _ _
  exact .get fun r => (Reads.remember true none).bind_nil <| (reads_countsOf c).bind <| (reads_partsOf h).bind <|
    (reads_readWord hline.1 hline.2).bind <| (reads_tablesOf h).bind_last <| hcode.bind_nil <|
    (Reads.complete true r.remembered.length (Item.code c)).bind_nil (Reads.pure (Item.code c))

theorem readPayload_encodeCode (h : IsStorable c) : readPayload (encodeCode c) = .ok (.code c) := by
  have hreads : Reads (readItem depthLimit) (encodeCode c) (.code c) := reads_encodeCode h
  obtain ⟨remembered, hitem⟩ := hreads [] []
  rw [List.append_nil] at hitem
  rw [readPayload]
  have hrun : (readItem depthLimit).run { rest := encodeCode c } = .ok (.code c, { rest := [], remembered }) := hitem
  rw [hrun]
  rfl

theorem length_header (sourceSize : Int) (modified : Rat) : (header sourceSize modified).length = headerSize := rfl

/-- What comes after the header is the payload. -/
theorem drop_encode (c : Code) (sourceSize : Int) (modified : Rat) :
    (encode c sourceSize modified).drop headerSize = encodeCode c := by
  rw [encode, ← length_header sourceSize modified, List.drop_left]

/-- An artifact is read as its payload is. -/
theorem decode_of_readPayload (hread : readPayload (encodeCode c) = .ok (.code c)) (name : String) (sourceSize : Int)
    (modified : Rat) : decode name (encode c sourceSize modified) = .ok c := by
  have hlength : ¬ (encode c sourceSize modified).length < headerSize := by
    rw [encode, List.length_append, length_header]
    omega
  have hmagic : (encode c sourceSize modified).take 4 = magic := rfl
  rw [decode, if_neg hlength, if_neg (not_not_intro hmagic), drop_encode, hread]

/-- **An artifact gives the code that it was made for**, whatever its header says of the source. -/
theorem decode_encode (h : IsStorable c) (name : String) (sourceSize : Int) (modified : Rat) :
    decode name (encode c sourceSize modified) = .ok c :=
  decode_of_readPayload (readPayload_encodeCode h) name sourceSize modified

/-! ## Sizes -/

theorem length_encodeBytes (b : Bytes) : (encodeBytes b).length = 5 + b.length := by
  simp [encodeBytes, encodeWord]
  omega

theorem length_encodeText (s : String) : (encodeText s).length = 5 + (encodeUtf8 s).length := by
  simp [encodeText, encodeWord]
  omega

/-- An artifact has little but the text and the name of its file. -/
theorem length_encode (c : Code) (sourceSize : Int) (modified : Rat) : (encode c sourceSize modified).length =
    headerSize + 82 + ((encodeUtf8 c.file).length + (encodeUtf8 c.text).length) := by
  have hmodule : (encodeUtf8 "<module>").length = 8 := by
    rw [encodeUtf8_eq]
    decide
  have hword (n : Int) : (encodeWord n).length = 4 := rfl
  have hempty : emptySequence.length = 2 := rfl
  rw [encode, List.length_append, length_header, encodeCode_eq]
  simp only [countBytes, partBytes, tableBytes, List.length_append, List.length_cons, List.length_nil, hword, hempty,
    length_encodeBytes, length_encodeText, hmodule]
  omega

end UnitFoundry.Artifact
