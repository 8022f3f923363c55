import UnitFoundry.Text.Split

/-!
# The words of a command line

A word that starts with a dash gives switches, any other word is an operand. A long switch stands
alone in its word, perhaps with its value after an equals sign; short switches may share a word, of
which the rest is the value of the first that takes one. A value that is not in the word is the next
word, whatever it looks like. The word of two dashes ends the switches.

* `Switch`, `Effect` — a switch and what it does to what has been read;
* `readWord` — one word that gives switches;
* `readWords` — a whole line: what it gives, and its operands.
-/

namespace UnitFoundry.CommandLine

open Text

/-- What a switch does to what has been read. -/
inductive Effect (α : Type) where
  | set (change : α → α)
  /-- The switch takes a value. -/
  | take (change : String → α → α)

/-- A switch and the ways to spell it. -/
structure Switch (α : Type) where
  spellings : List String
  effect : Effect α

/-- The effect of the switch with a given spelling. -/
def effect? (switches : List (Switch α)) (spelling : String) : Option (Effect α) :=
  (switches.find? fun s => s.spellings.contains spelling).map (·.effect)

/-- Whether a word gives switches. -/
def givesSwitches (word : String) : Bool := beginsWith word "-" && word != "-" && word != "--"

/-- What has been read after a long switch, and whether the next word was its value. -/
def readLong (switches : List (Switch α)) (read : α) (word : String) (next : Option String) :
    Option (α × Bool) :=
  let (spelling, given) := cutFirst '=' word.toList
  match effect? switches (String.ofList spelling) with
  | none => none
  | some (.set change) => if word.toList.contains '=' then none else some (change read, false)
  | some (.take change) =>
    if word.toList.contains '=' then some (change (String.ofList given) read, false)
    else next.map fun value => (change value read, true)

/-- What has been read after the short switches of a word, without its dash, and whether the next
word was the value of one. -/
def readShort (switches : List (Switch α)) (next : Option String) :
    α → List Char → Option (α × Bool)
  | read, [] => some (read, false)
  | read, letter :: rest =>
    match effect? switches (String.ofList ['-', letter]) with
    | none => none
    | some (.set change) => readShort switches next (change read) rest
    | some (.take change) =>
      if rest.isEmpty then next.map fun value => (change value read, true)
      else some (change (String.ofList rest) read, false)

/-- What has been read after a word that gives switches, and whether the next word was a value. -/
def readWord (switches : List (Switch α)) (read : α) (word : String) (next : Option String) :
    Option (α × Bool) :=
  if beginsWith word "--" then readLong switches read word next
  else readShort switches next read (word.toList.drop 1)

/-- What a line gives, and its operands; none if a switch is unknown or lacks its value. Unless
switches may follow operands, the first operand ends them. -/
def readWords (switches : List (Switch α)) (mixed : Bool) :
    α → List String → Option (α × List String)
  | read, [] => some (read, [])
  | read, word :: rest =>
    if word = "--" then some (read, rest)
    else if givesSwitches word then
      match readWord switches read word rest.head? with
      | none => none
      | some (read, false) => readWords switches mixed read rest
      | some (read, true) =>
        match rest with
        | [] => none
        | _ :: more => readWords switches mixed read more
    else if mixed then
      (readWords switches mixed read rest).map fun (read, operands) => (read, word :: operands)
    else some (read, word :: rest)

end UnitFoundry.CommandLine
