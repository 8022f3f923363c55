import UnitFoundry.Backend.Installed
import UnitFoundry.Compiler
import UnitFoundry.Settings

/-!
# Setting up a compiler

A compiler needs a backend, a resource path, perhaps a side store, and a policy. What is asked for
may not be there, so setting up may fail.

* `Setup` — what is asked for;
* `Setup.run` — the setting up, which gives the backend;
* `ofSettings` — the setting up from settings.
-/

namespace UnitFoundry

/-- The backend that is asked for. -/
inductive BackendChoice where
  | given (b : Backend)
  /-- What the catalogue has under a specification. -/
  | named (spec : Option String)

/-- What is asked for. -/
structure Setup where
  backend : BackendChoice := .named (some "python")
  places : List Path := []
  /-- Whether the resource path was made before the compiler. -/
  placesFirst : Bool := false
  verbose : Option Bool := none
  change : Change := { lintRecovery := some false, warningsAsErrors := some true }

namespace Setup

/-- The resource path gets the places that are there; those that are missing are logged. -/
def openPlaces (places : List Path) : Action Unit := do
  let s ← get
  let settled := settle s.disk places
  settled.missing.forM fun place =>
    Action.logged .warning .resources ("Resource location does not exist: " ++ place.toString)
  match settled.failure with
  | some failure => throw failure
  | none => modify fun s => { s with resources := { places := settled.present } }

/-- The backend of a choice. -/
def choose : BackendChoice → Action Backend
  | .given b => pure b
  | .named spec => Catalogue.installed.load spec

/-- A compiler is set up. -/
def run (setup : Setup) : Action Backend := do
  if setup.placesFirst then openPlaces setup.places
  let b ← choose setup.backend
  if !setup.placesFirst then openPlaces setup.places
  modify fun s => { s with verbose := setup.verbose }
  Compiler.configure setup.change
  pure b

/-- A durable store in a directory becomes the side store. -/
def openStore (directory : Path) : Action Unit := do
  let s ← get
  match DurableStore.establish s.disk directory with
  | (disk, .ok store) => set { s with disk, sideStore := .durable store }
  | (disk, .error why) => do
    set { s with disk }
    throw (.raised why)

/-- A compiler is set up from settings, with another choice of a backend in place of theirs if there
is one. -/
def ofSettings (settings : Settings) (choice : Option BackendChoice) : Action Backend := do
  match settings.compileDirectory with
  | some directory => openStore directory
  | none => pure ()
  run
    { backend := choice.getD (.named (some settings.backend))
      places := settings.resourcePath
      verbose := if settings.verbose then some true else none
      change :=
        { target := settings.target.map (·.text), lintRecovery := some settings.lintRecovery
          warningsAsErrors := some settings.warningsAsErrors } }

end Setup

end UnitFoundry
