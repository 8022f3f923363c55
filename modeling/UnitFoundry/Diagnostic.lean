import UnitFoundry.Schema

/-!
# Diagnostics

One message that a backend reports about a source: its severity, an optional category such as
`SyntaxWarning`, and an optional place.

* `Diagnostic.toText` — the message as one line;
* `Diagnostic.ofEntries` — a diagnostic from loosely typed fields;
* `Diagnostic.fields` — its fields, without those that are not given.
-/

namespace UnitFoundry

open UnitFoundry.Text

/-- How severe a diagnostic is. -/
inductive DiagnosticKind where
  | error
  /-- A warning that no setting can silence. -/
  | mandatoryWarning
  | warning
  | note
  | other
  deriving Repr, DecidableEq

namespace DiagnosticKind

/-- The name of a kind. -/
def label : DiagnosticKind → String
  | error => "error"
  | mandatoryWarning => "mandatory_warning"
  | warning => "warning"
  | note => "note"
  | other => "other"

/-- All kinds, the gravest first. -/
def all : List DiagnosticKind := [error, mandatoryWarning, warning, note, other]

/-- The kind with a given name. -/
def ofLabel? (s : String) : Option DiagnosticKind := all.find? (·.label = s)

end DiagnosticKind

/-- One message about a source. -/
structure Diagnostic where
  kind : DiagnosticKind
  message : String
  category : Option String := none
  source : Option String := none
  line : Option Int := none
  column : Option Int := none
  deriving Repr, DecidableEq

namespace Diagnostic

/-- Whether a diagnostic is an error. -/
def isError (d : Diagnostic) : Bool := d.kind == .error

/-- Whether a diagnostic has the given category. -/
def hasCategory (category : String) (d : Diagnostic) : Bool := d.category == some category

/-- The place of a diagnostic; a column is given only after a line. -/
def place (d : Diagnostic) : String :=
  let source := match d.source with
    | some s => if s.isEmpty then "<unknown>" else s
    | none => "<unknown>"
  match d.line, d.column with
  | some line, some column => source ++ ":" ++ showInt line ++ ":" ++ showInt column
  | some line, none => source ++ ":" ++ showInt line
  | none, _ => source

/-- A diagnostic as one line of text. -/
def toText (d : Diagnostic) : String :=
  let category := match d.category with
    | some c => if c.isEmpty then "" else " [" ++ c ++ "]"
    | none => ""
  d.place ++ ": " ++ d.kind.label ++ category ++ ": " ++ d.message

/-- The fields of a diagnostic that are given. -/
def fields (d : Diagnostic) : List (String × Datum) :=
  [("kind", .text d.kind.label), ("message", .text d.message)] ++
    (d.category.map fun s => ("category", Datum.text s)).toList ++
    (d.source.map fun s => ("source", Datum.text s)).toList ++
    (d.line.map fun n => ("line", Datum.whole n)).toList ++
    (d.column.map fun n => ("column", Datum.whole n)).toList

/-- A kind of diagnostic. -/
def asKind (d : Datum) : Checked DiagnosticKind :=
  let labels := DiagnosticKind.all.map DiagnosticKind.label
  match d with
  | .text s =>
    match DiagnosticKind.ofLabel? s with
    | some kind => .ok kind
    | none => .fail (.notOneOf labels) d
  | d => .fail (.notOneOf labels) d

/-- The diagnostic with the given fields; other fields do not count. -/
def ofEntries (entries : List (String × Datum)) : Checked Diagnostic :=
  Diagnostic.mk
    <$> required entries "kind" asKind
    <*> required entries "message" asText
    <*> optional entries "category" none (orNull asText)
    <*> optional entries "source" none (orNull asText)
    <*> optional entries "line" none (orNull asWhole)
    <*> optional entries "column" none (orNull asWhole)

end Diagnostic

end UnitFoundry
