import UnitFoundry.Backend.Program

/-!
# Collecting diagnostics

A collector keeps every diagnostic that is reported to it and passes it on to its listeners. A
listener that fails is noted in the log and otherwise passed over.

* `Listener` — what a listener does with a diagnostic;
* `Collector.report` — the collector after a report, and the records it makes.
-/

namespace UnitFoundry

/-- A listener. -/
inductive Listener where
  /-- It keeps the texts of what it hears. -/
  | recorder (heard : List String)
  /-- It fails whatever it hears; this is its name in the log. -/
  | failing (name : String)
  /-- It writes what it hears to the log. -/
  | logging (verbose : Option Bool)
  deriving Repr, DecidableEq

namespace Listener

/-- A listener after a diagnostic, and the records it makes, at a level of the log. -/
def hear (level : Severity) (d : Diagnostic) : Listener → Listener × List Record
  | recorder heard => (recorder (heard ++ [d.toText]), [])
  | failing name =>
    (failing name,
      [{ severity := .error, channel := .diagnostics
         text := "Diagnostic listener " ++ name ++ " failed" }])
  | logging verbose => (logging verbose, (diagnosticRecord? verbose level d).toList)

end Listener

/-- The diagnostics reported so far and the listeners. -/
structure Collector where
  found : List Diagnostic := []
  listeners : List Listener := []
  deriving Repr

namespace Collector

/-- A collector after a report, and the records that the level lets through. -/
def report (level : Severity) (c : Collector) (d : Diagnostic) : Collector × List Record :=
  let heard := c.listeners.map (Listener.hear level d)
  ({ found := c.found ++ [d], listeners := heard.map (·.1) },
    (heard.flatMap (·.2)).foldl (record level) [])

/-- The errors among the diagnostics. -/
def errors (c : Collector) : List Diagnostic := c.found.filter Diagnostic.isError

/-- Whether an error was reported. -/
def hasErrors (c : Collector) : Bool := !c.errors.isEmpty

end Collector

end UnitFoundry
