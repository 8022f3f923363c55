import UnitFoundry.Session

/-!
# Files in memory and around it

A backend finds its files in memory first and on the resource path second. Files in memory are the
sources put there and the artifacts of the active contexts.

* `putSource`, `resolve` — one file;
* `candidates` — all files below a package;
* `resource` — the bytes of a resource, compiled artifacts first.
-/

namespace UnitFoundry.Overlay

open Text

/-- A file is kept in memory, in place of what was at its canonical path. -/
def putSource (location : Location) (package relativeName : String) (file : File) : Action Unit :=
  modify fun s => { s with
    overlay := setEntry (UnitName.overlayUri location.label package relativeName) file s.overlay }

/-- The path of a file below a package. -/
def relativePath (package relativeName : String) : String :=
  "/".intercalate ([replaceIn '.' '/' package, relativeName].filter (!·.isEmpty))

/-- The file at a place, from memory or the resource path. -/
def resolve (location : Location) (package relativeName : String) : Action File := do
  let s ← get
  match lookupEntry (UnitName.overlayUri location.label package relativeName) s.overlay with
  | some file => pure file
  | none =>
    let path := relativePath package relativeName
    match ← ofExcept ((s.resources.find s.disk path).mapError Failure.raised) with
    | some file => pure file
    | none => throw (.error (.fileNotFound path location.label))

/-- Whether a unit lies in a package, or anywhere below it. -/
def inPackage (name package : String) (recurse : Bool) : Bool :=
  let parent := UnitName.package name
  parent = package || (recurse && (package.isEmpty || beginsWith parent (package ++ ".")))

/-- The files of some kinds that the overlay keeps at a location. -/
def overlayFiles (s : Session) (location : Location) (package : String) (kinds : List FileKind)
    (recurse : Bool) : List File :=
  let start := UnitName.uriScheme ++ ":///" ++ location.label ++ "/"
  ((s.overlay.filter fun (uri, _) => beginsWith uri start).map (·.2)).filter fun file =>
    kinds.contains file.kind && inPackage file.name package recurse

/-- The artifacts of the active contexts below a package. -/
def activeArtifacts (s : Session) (package : String) (recurse : Bool) : List File :=
  ((s.registry.contexts.filterMap (s.contexts[·]?)).filter fun c =>
    inPackage c.qualified package recurse).map (·.artifact)

/-- The files of some kinds below a package: from the overlay, from the active contexts if artifacts
of the class path are asked for, and from the resource path. -/
def candidatesIn (s : Session) (location : Location) (package : String) (kinds : List FileKind)
    (recurse : Bool) : Listing :=
  (s.resources.list s.disk package kinds recurse).after
    (overlayFiles s location package kinds recurse ++
      if location = .classPath && kinds.contains .artifact then activeArtifacts s package recurse
      else [])

/-- The files of some kinds below a package, as they are now. -/
def candidates (location : Location) (package : String) (kinds : List FileKind) (recurse : Bool) :
    Action Listing := do
  pure (candidatesIn (← get) location package kinds recurse)

/-- The bytes of the artifact of a context. -/
def artifactBytes (id : Script.ContextId) : Action Bytes := do ofExcept (← Action.context id).artifact.bytes

/-- The bytes of a file on the resource path. -/
def resourceBytes (path : String) : Action Bytes := do
  let s ← get
  match ← ofExcept ((s.resources.find s.disk path).mapError Failure.raised) with
  | some file => ofExcept file.bytes
  | none => throw (.error (.resourceNotFound path))

/-- The bytes of a resource: the artifact of an active context if the path names one, else the file
on the resource path. -/
def resource (path : String) : Action Bytes := do
  match (UnitName.ofArtifactPath? path).bind (← get).registry.find? with
  | some id => artifactBytes id
  | none => resourceBytes path

end UnitFoundry.Overlay
