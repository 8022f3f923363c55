import UnitFoundry.Proofs.Yaml.Reading

/-!
# Tokens that cannot be read

The readers of characters and of tokens refuse what breaks the rules. Only two of them find another fault: a number of
the version must be a number, and an escape must have the number of a character.

* `reads_directiveHere`, `reads_quotedScalar`, `reads_plainScalar`, `reads_blockScalar` — the parts of a line;
* `reads_readToken` — **every token is read, or it cannot be**;
* `reads_peek` — so is the next one, with all that has to be read ahead.
-/

namespace UnitFoundry.Yaml

open Text

/-! ## Single characters -/

@[grind ←]
theorem reads_refuse {α : Type} : Reads (refuse : Reading α) := .throw .rules

@[grind ←]
theorem reads_rest : Reads rest := Reads.get.bind fun _ => .pure _

@[grind ←]
theorem reads_next : Reads next? := reads_rest.bind fun _ => .pure _

@[grind ←]
theorem reads_pass (n : Nat) : Reads (pass n) := .modify _

@[grind ←]
theorem reads_passWhile (kind : Char → Bool) : Reads (passWhile kind) :=
  reads_rest.bind fun _ => (reads_pass _).bind fun _ => .pure _

@[grind ←]
theorem reads_stepsLeft : Reads stepsLeft := reads_rest.bind fun _ => .pure _

@[grind ←]
theorem reads_lineBreak : Reads lineBreak := by
  unfold lineBreak
  grind

@[grind ←]
theorem reads_blankLine : Reads blankLine := by
  unfold blankLine
  grind

/-! ## Names, tags and directives -/

@[grind ←]
theorem reads_anchorName : Reads anchorName := by
  -- step by step, for the signs that may follow a name do not matter here
  unfold anchorName
  refine (reads_pass 1).bind fun _ => (reads_passWhile _).bind fun name => reads_rest.bind fun here => ?_
  dsimp only
  split
  · exact reads_refuse
  · exact .pure _

@[grind ←]
theorem reads_escapedBytes (steps : Nat) : Reads (escapedBytes steps) := by
  induction steps with
  | zero => exact .pure _
  | succ steps ih =>
    unfold escapedBytes
    grind

@[grind ←]
theorem reads_tagChars (steps : Nat) : Reads (tagChars steps) := by
  induction steps with
  | zero => exact .pure _
  | succ steps ih =>
    unfold tagChars
    grind

@[grind ←]
theorem reads_tagText : Reads tagText := by
  unfold tagText
  grind

@[grind ←]
theorem reads_tagHandle : Reads tagHandle := by
  unfold tagHandle
  grind

@[grind ←]
theorem reads_tagHere : Reads tagHere := by
  unfold tagHere
  refine reads_rest.bind fun here => ?_
  dsimp only
  split
  · grind
  · split
    · grind
    · split
      · grind
      · grind

@[grind ←]
theorem reads_versionNumber : Reads versionNumber := by
  unfold versionNumber
  refine (reads_passWhile _).bind fun digits => ?_
  split
  · exact reads_refuse
  · split
    · exact .pure _
    · exact .throw (.value _)

@[grind ←]
theorem reads_directiveValue (name : String) : Reads (directiveValue name) := by
  unfold directiveValue
  dsimp only
  split
  · grind
  · split
    · grind
    · grind

@[grind ←]
theorem reads_directiveHere : Reads directiveHere := by
  unfold directiveHere
  grind

/-! ## Quoted scalars -/

@[grind ←]
theorem reads_emptyLines (steps : Nat) : Reads (emptyLines steps) := by
  induction steps with
  | zero => exact .pure _
  | succ steps ih =>
    unfold emptyLines
    grind

@[grind ←]
theorem reads_quotedBlank : Reads quotedBlank := by
  unfold quotedBlank
  grind

@[grind ←]
theorem reads_escaped : Reads escaped := by
  unfold escaped
  grind

@[grind ←]
theorem reads_quotedRest (quote : Char) (steps : Nat) : Reads (quotedRest quote steps) := by
  induction steps with
  | zero => exact reads_refuse
  | succ steps ih =>
    unfold quotedRest
    refine (reads_passWhile _).bind fun found => reads_rest.bind fun here => ?_
    cases here with
    | nil => grind
    | cons c after => grind

@[grind ←]
theorem reads_quotedScalar : Reads quotedScalar := by
  unfold quotedScalar
  grind

/-! ## Scalars without quotes -/

@[grind ←]
theorem reads_plainLines (steps : Nat) : Reads (plainLines steps) := by
  induction steps with
  | zero => exact .pure _
  | succ steps ih =>
    unfold plainLines
    grind

@[grind ←]
theorem reads_plainBlank : Reads plainBlank := by
  unfold plainBlank
  refine (reads_passWhile _).bind fun spaces => reads_lineBreak.bind fun first => ?_
  cases first with
  | nil => grind
  | cons c first => grind

@[grind ←]
theorem reads_plainRest (inFlow : Bool) (least steps : Nat) (blank : List Char) (fresh : Bool) :
    Reads (plainRest inFlow least steps blank fresh) := by
  induction steps generalizing blank fresh with
  | zero => exact .pure _
  | succ steps ih =>
    unfold plainRest
    grind

@[grind ←]
theorem reads_plainScalar (inFlow : Bool) (least : Nat) : Reads (plainScalar inFlow least) :=
  reads_stepsLeft.bind fun steps => (reads_plainRest inFlow least steps [] false).bind fun _ => .pure _

@[grind ←]
theorem reads_chomping : Reads chomping? := by
  unfold chomping?
  grind

@[grind ←]
theorem reads_increment : Reads increment? := by
  unfold increment?
  grind

@[grind ←]
theorem reads_blockHeader : Reads blockHeader := by
  unfold blockHeader
  refine reads_chomping.bind fun before => reads_increment.bind fun increment => ?_
  dsimp only
  split
  · refine reads_chomping.bind fun after => ?_
    grind
  · grind

@[grind ←]
theorem reads_blockBreaks (column steps : Nat) : Reads (blockBreaks column steps) := by
  induction steps with
  | zero => exact .pure _
  | succ steps ih =>
    unfold blockBreaks
    grind

@[grind ←]
theorem reads_blockStart (steps widest : Nat) : Reads (blockStart steps widest) := by
  induction steps generalizing widest with
  | zero => exact .pure _
  | succ steps ih =>
    unfold blockStart
    grind

@[grind ←]
theorem reads_blockLines (fold : Bool) (chomping : Chomping) (column steps : Nat) (breaks : List Char) :
    Reads (blockLines fold chomping column steps breaks) := by
  induction steps generalizing breaks with
  | zero => exact .pure _
  | succ steps ih =>
    unfold blockLines
    grind

@[grind ←]
theorem reads_blockScalar (fold : Bool) (least : Nat) : Reads (blockScalar fold least) := by
  unfold blockScalar
  refine (reads_pass 1).bind fun _ => reads_blockHeader.bind fun (chomping, increment) => ?_
  dsimp only
  cases increment with
  | some n => grind
  | none => grind

/-! ## Tokens -/

@[grind ←]
theorem reads_reading {α : Type} {read : Reading α} (h : Reads read) : Reads (reading read) := by
  intro s why t hread
  unfold reading at hread
  split at hread
  · cases hread
  · cases hread
    exact h _ _ _ ‹_›

@[grind ←]
theorem reads_dropStale : Reads dropStale := by
  unfold dropStale
  grind

@[grind ←]
theorem reads_dropCandidate : Reads dropCandidate := by
  unfold dropCandidate
  grind

@[grind ←]
theorem reads_addCandidate : Reads addCandidate := by
  unfold addCandidate
  grind

@[grind ←]
theorem reads_allowKey (allowed : Bool) : Reads (allowKey allowed) := .modify _

@[grind ←]
theorem reads_mark (width : Nat) (token : Token) : Reads (mark width token) :=
  (reads_reading (reads_pass width)).bind fun _ => .modify _

@[grind ←]
theorem reads_separator {token : Scanning Token} (h : Reads token) : Reads (separator token) :=
  (Reads.modify _).bind fun _ => reads_dropCandidate.bind fun _ => (reads_allowKey false).bind fun _ =>
    h.bind fun _ => .modify _

@[grind ←]
theorem reads_keyPart {token : Scanning Token} (h : Reads token) : Reads (keyPart token) :=
  reads_addCandidate.bind fun _ => (reads_allowKey false).bind fun _ => h.bind fun _ => .modify _

@[grind ←]
theorem reads_openFlow (token : Token) : Reads (openFlow token) :=
  reads_addCandidate.bind fun _ => (Reads.modify _).bind fun _ => (reads_allowKey true).bind fun _ =>
    reads_mark 1 token

@[grind ←]
theorem reads_closeFlow (token : Token) : Reads (closeFlow token) :=
  reads_dropCandidate.bind fun _ => (Reads.modify _).bind fun _ => (reads_allowKey false).bind fun _ =>
    reads_mark 1 token

@[grind ←]
theorem reads_flowComma : Reads flowComma :=
  (reads_allowKey true).bind fun _ => reads_dropCandidate.bind fun _ => reads_mark 1 .comma

@[grind ←]
theorem reads_beginBlock (token : Token) : Reads (beginBlock token) := by
  unfold beginBlock
  grind

@[grind ←]
theorem reads_blockDash : Reads blockDash :=
  (reads_beginBlock .blockSequence).bind fun _ => (reads_allowKey true).bind fun _ =>
    reads_dropCandidate.bind fun _ => reads_mark 1 .dash

@[grind ←]
theorem reads_keyMark : Reads keyMark := by
  unfold keyMark
  grind

@[grind ←]
theorem reads_valueMark : Reads valueMark := by
  unfold valueMark
  grind

@[grind ←]
theorem reads_blockText (fold : Bool) : Reads (blockText fold) := by
  unfold blockText
  grind

@[grind ←]
theorem reads_plainText : Reads plainText := by
  unfold plainText
  grind

@[grind ←]
theorem reads_passGap (steps : Nat) : Reads (passGap steps) := by
  induction steps with
  | zero => exact .pure _
  | succ steps ih =>
    unfold passGap
    grind

@[grind ←]
theorem reads_passOrderMark : Reads passOrderMark := by
  unfold passOrderMark
  grind

@[grind ←]
theorem reads_readToken (c : Char) (after : List Char) : Reads (readToken c after) := by
  unfold readToken
  refine Reads.get.bind fun s => ?_
  dsimp only
  repeat' refine .ite ?_ ?_
  all_goals grind

@[grind ←]
theorem reads_readOn : Reads readOn := by
  unfold readOn
  refine reads_passOrderMark.bind fun _ => (reads_reading reads_stepsLeft).bind fun steps => ?_
  grind

@[grind ←]
theorem reads_settle (steps : Nat) : Reads (settle steps) := by
  induction steps with
  | zero => exact .pure _
  | succ steps ih =>
    unfold settle
    grind

@[grind ←]
theorem reads_peek : Reads peek :=
  (reads_reading reads_stepsLeft).bind fun steps => (reads_settle (steps + 1)).bind fun _ =>
    Reads.get.bind fun _ => .pure _

@[grind ←]
theorem reads_take : Reads take := .modify _

end UnitFoundry.Yaml
