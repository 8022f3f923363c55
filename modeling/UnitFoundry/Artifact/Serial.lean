import UnitFoundry.Artifact.Code
import UnitFoundry.Artifact.Words
import UnitFoundry.Raised
import UnitFoundry.Text.Numeral

/-!
# The payload of an artifact

The payload is one item: a type byte and what belongs to that type. Bit 7 of a type byte asks that
the item be remembered, so that a later item may refer to it. Only code can be run; items of other
types can be read, so that it can be said what is wrong with a payload.

* `encodeCode` — the item of some code;
* `readItem` — one item;
* `readPayload` — the item at the start of a payload.
-/

namespace UnitFoundry.Artifact

open UnitFoundry.Text

/-- An item of a payload, as far as it matters what it is. -/
inductive Item where
  /-- The end of a mapping, which is no item of its own. -/
  | null
  | code (c : Code)
  | text (s : String)
  | bytes (b : Bytes)
  /-- A sequence that cannot change. -/
  | sequence (items : List Item)
  /-- Any other item, and the kind of what keeps it from being a key, if there is such a thing. -/
  | other (obstacle : Option String)
  deriving Repr

namespace Item

mutual

/-- The kind of what keeps an item from being a key. -/
def obstacle : Item → Option String
  | other kind => kind
  | sequence items => firstObstacle items
  | _ => none

/-- The kind of the first thing among items that keeps them from being keys. -/
def firstObstacle : List Item → Option String
  | [] => none
  | item :: items => item.obstacle.or (firstObstacle items)

end

/-- Whether an item is a text. -/
def isText : Item → Bool
  | text _ => true
  | _ => false

end Item

/-! ## Failures -/

/-- Nothing is left where an item begins. -/
def noItem : Raised := { kind := "EOFError", message := "EOF read where object expected" }

/-- The payload ends inside an item. -/
def tooShort : Raised := { kind := "EOFError", message := "marshal data too short" }

/-- The payload is no payload. -/
def badData (why : String) : Raised :=
  { kind := "ValueError", message := "bad marshal data (" ++ why ++ ")" }

/-- The end of a mapping stands where an item is due. -/
def nullIn (what : String) : Raised :=
  { kind := "TypeError", message := "NULL object in marshal data for " ++ what }

/-- Something of a kind that cannot be a key is used as one. -/
def noKey (kind : String) : Raised :=
  { kind := "TypeError", message := "unhashable type: '" ++ kind ++ "'" }

/-! ## Reading -/

/-- The bytes still to be read, and the items remembered so far, if they are complete. -/
structure Reader where
  rest : Bytes
  remembered : List (Option Item) := []

/-- Reading part of a payload. -/
abbrev Reading := StateT Reader (Except Raised)

/-- The next byte, where an item or its size begins. -/
def readByte : Reading Nat := fun r =>
  match r.rest with
  | [] => .error noItem
  | b :: rest => .ok (b.toNat, { r with rest })

/-- The next `n` bytes. -/
def readBytes (n : Nat) : Reading Bytes := fun r =>
  if r.rest.length < n then .error tooShort
  else .ok (r.rest.take n, { r with rest := r.rest.drop n })

/-- The next word, with a sign. -/
def readWord : Reading Int := do
  let b ← readBytes 4
  pure (signedWord (decodeWord b))

/-- The next word as the size of an item, which must not be negative. -/
def readSize (what : String) : Reading Nat := do
  let n ← readWord
  if n < 0 then throw (badData (what ++ " size out of range")) else pure n.toNat

/-- An item remembered at the end of those remembered so far, if that was asked for. -/
def remember (asked : Bool) (item : Option Item) : Reading Unit :=
  modify fun r => if asked then { r with remembered := r.remembered ++ [item] } else r

/-- An item that was remembered before it was complete. -/
def complete (asked : Bool) (place : Nat) (item : Item) : Reading Unit :=
  modify fun r => if asked then { r with remembered := r.remembered.set place (some item) } else r

/-- An item that is remembered if that was asked for. -/
def keep (asked : Bool) (item : Item) : Reading Item := do
  remember asked (some item)
  pure item

/-- Several items of a container; none of them may be the end of a mapping. -/
def readMany (read : Reading Item) (what : String) : Nat → Reading (List Item)
  | 0 => pure []
  | n + 1 => do
    match ← read with
    | .null => throw (nullIn what)
    | item => do pure (item :: (← readMany read what n))

/-- An item that is used as a key. -/
def useAsKey (item : Item) : Reading Unit :=
  match item.obstacle with
  | some kind => throw (noKey kind)
  | none => pure ()

/-- Several items of a set, which must be possible keys. -/
def readMembers (read : Reading Item) : Nat → Reading Unit
  | 0 => pure ()
  | n + 1 => do
    match ← read with
    | .null => throw (nullIn "set")
    | item => do
      useAsKey item
      readMembers read n

/-- The entries of a mapping up to its end; each takes at least two bytes. -/
def readPairs (read : Reading Item) : Nat → Reading Unit
  | 0 => throw noItem
  | n + 1 => do
    match ← read with
    | .null => pure ()
    | key =>
      match ← read with
      | .null => pure ()
      | _ => do
        useAsKey key
        readPairs read n

/-- The digits of a long number, fifteen bits in two bytes each. -/
def readDigits : Nat → Reading Unit
  | 0 => pure ()
  | n + 1 => do
    let b ← readBytes 2
    let digit := decodeWord b
    if twoTo 15 ≤ digit then throw (badData "digit out of range in long")
    else if n = 0 && digit = 0 then throw (badData "unnormalized long data")
    else readDigits n

/-- The text that some bytes encode, with a sign in the place of every fault; at most so many signs. -/
def decodeLoosely : Nat → Bytes → List Char
  | 0, _ => []
  | steps + 1, b =>
    match decodeUtf8 b with
    | .ok s => s.toList
    | .error fault =>
      let before := (decodeUtf8 (b.take fault.position)).toOption.getD ""
      before.toList ++ '\ufffd' :: decodeLoosely steps (b.drop (fault.position + fault.bytes.length))

/-- A floating-point number written in decimal, which a byte of zero ends. -/
def readDecimalReal : Reading Unit := do
  let n ← readByte
  let b := (← readBytes n).takeWhile (· != 0)
  if (realOf? (b.map fun c => Char.ofNat c.toNat)).isNone then
    let shown := String.ofList (decodeLoosely 200 (b.take 200))
    throw { kind := "ValueError", message := "could not convert string to float: '" ++ shown ++ "'" }

/-- The text that some bytes encode. -/
def decodeText (b : Bytes) : Reading String :=
  match decodeUtf8 b with
  | .ok s => pure s
  | .error fault => throw { kind := "UnicodeDecodeError", message := fault.message }

/-- Bytes in which the encodings of surrogates have given way to a character that can be decoded. -/
def withoutSurrogates : Bytes → Bytes
  | a :: b :: c :: rest =>
    if a = 0xED && 0xA0 ≤ b && b ≤ 0xBF && 0x80 ≤ c && c ≤ 0xBF then
      0xEF :: 0xBF :: 0xBD :: withoutSurrogates rest
    else a :: withoutSurrogates (b :: c :: rest)
  | rest => rest

/-- A sequence of items that cannot change. -/
def readSequence (read : Reading Item) (asked : Bool) (n : Nat) : Reading Item := do
  let place := (← get).remembered.length
  remember asked (some (.sequence []))
  let item := Item.sequence (← readMany read "tuple" n)
  complete asked place item
  pure item

/-! ## Code -/

/-- So many words. -/
def readWords : Nat → Reading (List Int)
  | 0 => pure []
  | n + 1 => do
    let word ← readWord
    pure (word :: (← readWords n))

/-- So many items, or nothing if one of them is the end of a mapping. -/
def readParts (read : Reading Item) : Nat → Reading (Option (List Item))
  | 0 => pure (some [])
  | n + 1 => do
    match ← read with
    | .null => pure none
    | item => do pure ((← readParts read n).map (item :: ·))

/-- The refusal of code with parts of the wrong kinds. -/
def wrongParts : Raised :=
  { kind := "SystemError", message := "../Objects/codeobject.c:250: bad argument to internal function" }

/-- The refusal of code with names that are no texts. -/
def wrongNames : Raised := { kind := "SystemError", message := "non-string found in code slot" }

/-- The refusal of code that cannot be run. -/
def unusable (why : String) : Raised := { kind := "ValueError", message := "code: " ++ why }

/-- The code with given counts and parts. There must be a variable for every argument. -/
def codeOf (counts : List Int) (parts : List Item) : Except Raised Code :=
  match counts, parts with
  | [arguments, positional, named, level, flags],
    [.bytes steps, .sequence _, .sequence names, .sequence slots, .bytes kinds, .text file, .text _,
      .text _, .bytes body, .bytes _] =>
    let own := (kinds.filter fun kind => kind &&& 0x20 != 0).length
    let extra : Nat := (flags.toNat / 4) % 2 + (flags.toNat / 8) % 2
    if arguments < positional || positional < 0 || named < 0 || level < 0 || flags < 0 ||
        slots.length ≠ kinds.length then
      .error wrongParts
    else if steps.length % 2 = 1 then .error (unusable "co_code is malformed")
    else if (own : Int) < arguments + named + extra then .error (unusable "co_varnames is too small")
    else if !(names ++ slots).all Item.isText then .error wrongNames
    else .ok { file, optimize := .ofLevel (level - 1), text := (decodeUtf8 body).toOption.getD "" }
  | _, _ => .error wrongParts

/-- The parts of code, after its type byte. -/
def readCode (read : Reading Item) (asked : Bool) : Reading Item := do
  let place := (← get).remembered.length
  remember asked none
  let counts ← readWords 5
  match ← readParts read 8 with
  | none => pure .null
  | some parts => do
    let _ ← readWord
    match ← readParts read 2 with
    | none => pure .null
    | some tables => do
      let code ← liftM (codeOf counts (parts ++ tables))
      complete asked place (.code code)
      pure (.code code)

/-! ## Items -/

/-- One item, nested at most `depth` deep. -/
def readItem : Nat → Reading Item
  | 0 => do
    let _ ← readByte
    throw { kind := "ValueError", message := "recursion limit exceeded" }
  | depth + 1 => do
    let byte ← readByte
    let asked := 128 ≤ byte
    match Char.ofNat (byte % 128) with
    | '0' => pure .null
    | 'N' | 'T' | 'F' | '.' | 'S' => pure (.other none)
    | 'i' => do
      let _ ← readWord
      keep asked (.other none)
    | 'I' => do
      let _ ← readBytes 8
      keep asked (.other none)
    | 'l' => do
      let n ← readWord
      if n = -(twoTo 31 : Int) then throw (badData "long size out of range")
      readDigits n.natAbs
      keep asked (.other none)
    | 'f' => do
      readDecimalReal
      keep asked (.other none)
    | 'g' => do
      let _ ← readBytes 8
      keep asked (.other none)
    | 'x' => do
      readDecimalReal
      readDecimalReal
      keep asked (.other none)
    | 'y' => do
      let _ ← readBytes 16
      keep asked (.other none)
    | 's' => do
      let n ← readSize "bytes object"
      let b ← readBytes n
      keep asked (.bytes b)
    | 'A' | 'a' => do
      let n ← readSize "string"
      let b ← readBytes n
      keep asked (.text (String.ofList (b.map fun c => Char.ofNat c.toNat)))
    | 'Z' | 'z' => do
      let n ← readByte
      let b ← readBytes n
      keep asked (.text (String.ofList (b.map fun c => Char.ofNat c.toNat)))
    | 't' | 'u' => do
      let n ← readSize "string"
      let b ← readBytes n
      let s ← decodeText (withoutSurrogates b)
      keep asked (.text s)
    | ')' => do
      let n ← readByte
      readSequence (readItem depth) asked n
    | '(' => do
      let n ← readSize "tuple"
      readSequence (readItem depth) asked n
    | '[' => do
      let n ← readSize "list"
      let item ← keep asked (.other "list")
      let _ ← readMany (readItem depth) "list" n
      pure item
    | '\x7b' => do
      let item ← keep asked (.other "dict")
      let r ← get
      readPairs (readItem depth) (r.rest.length + 1)
      pure item
    | '<' => do
      let n ← readSize "set"
      let item ← keep asked (.other "set")
      readMembers (readItem depth) n
      pure item
    | '>' => do
      let n ← readSize "set"
      let r ← get
      let place := r.remembered.length
      remember asked none
      readMembers (readItem depth) n
      complete asked place (.other none)
      pure (.other none)
    | 'c' => readCode (readItem depth) asked
    | 'r' => do
      let n ← readWord
      let r ← get
      if n < 0 then throw (badData "invalid reference")
      else
        match r.remembered[n.toNat]? with
        | some (some item) => pure item
        | _ => throw (badData "invalid reference")
    | _ => throw (badData "unknown type code")

/-- How deep items may be nested. -/
def depthLimit : Nat := 2000

/-- The item at the start of a payload; what follows it does not count. -/
def readPayload (payload : Bytes) : Except Raised Item := do
  let (item, _) ← (readItem depthLimit).run { rest := payload }
  match item with
  | .null => throw (nullIn "object")
  | item => pure item

/-! ## Writing -/

/-- The byte of an ASCII character. -/
def asciiByte (c : Char) : UInt8 := UInt8.ofNat c.toNat

/-- The item of some bytes. -/
def encodeBytes (b : Bytes) : Bytes := asciiByte 's' :: encodeWord b.length ++ b

/-- The item of a text. -/
def encodeText (s : String) : Bytes :=
  let b := encodeUtf8 s
  asciiByte 'u' :: encodeWord b.length ++ b

/-- The item of an empty sequence. -/
def emptySequence : Bytes := [asciiByte ')', 0]

/-- The item of some code, which asks to be remembered. -/
def encodeCode (c : Code) : Bytes :=
  (128 + asciiByte 'c') ::
    encodeWord 0 ++ encodeWord 0 ++ encodeWord 0 ++ encodeWord (c.optimize.level + 1) ++ encodeWord 0 ++
    encodeBytes [] ++ emptySequence ++ emptySequence ++ emptySequence ++ encodeBytes [] ++
    encodeText c.file ++ encodeText "<module>" ++ encodeText "<module>" ++ encodeWord 1 ++
    encodeBytes (encodeUtf8 c.text) ++ encodeBytes []

end UnitFoundry.Artifact
