import UnitFoundry.Backend.Catalogue

/-!
# The installed catalogue

One backend is built in. The entry points name two backends for trials, and three things that cannot
be used: an attribute and a module that are missing, and something that is no backend.

* `definitions` — what each name of the installed modules has to offer;
* `modules` — the names that each module has;
* `Catalogue.installed` — the catalogue in use.
-/

namespace UnitFoundry

open Text

namespace Installed

/-! ## Things that are no backends -/

/-- Something that cannot be made without its arguments. -/
def needsArguments (name : String) (arguments : List String) : Offer :=
  .failing (.exception "TypeError" (name ++ "() missing " ++ showNat arguments.length ++
    " required positional argument" ++ (if arguments.length = 1 then "" else "s") ++ ": " ++
    quoteInWords arguments))

/-- A class whose making takes arguments. -/
def needsFields (name : String) (arguments : List String) : Offer :=
  needsArguments (name ++ ".__init__") arguments

/-- An interface cannot be made at all. -/
def interface : Offer := .failing (.exception "TypeError" "Protocols cannot be instantiated")

/-- A record with required fields. -/
def record (name : String) (required : List String) : Offer :=
  .failing (.invalid name (required.map fun field => ⟨[.field field], .missing, .mapping []⟩))

/-- An enumeration is called with one of its values. -/
def enumeration : Offer := needsArguments "EnumType.__call__" ["value"]

/-- Something that refuses to be called. -/
def refusing (message : String) : Offer := .failing (.exception "TypeError" message)

/-- A class that is there to be derived from. -/
def abstractClass (name : String) (methods : List String) : Offer :=
  refusing ("Can't instantiate abstract class " ++ name ++ " with abstract method" ++
    (if methods.length = 1 then "" else "s") ++ " " ++ ", ".intercalate methods)

/-- A command, which leaves the program with a status. -/
def command (status : Nat) : Offer :=
  .failing (.raised { kind := "SystemExit", message := showNat status, argument := .whole status })

/-! ## Definitions -/

/-- What the names of the installed modules have to offer; a name that is not listed is something
that neither is nor makes a backend. -/
def definitions : List (String × Offer) :=
  [("PythonBackend", .backend .standard),
   ("RecordingBackend", .backend (.recording .standard)),
   ("ScriptedBackend", .backend (.fixed true [] none)),
   ("CompilerBackend", interface),
   ("FileManager", interface),
   ("DiagnosticListener", interface),
   ("ArtifactStoreProtocol", interface),
   ("FileKind", enumeration),
   ("Location", enumeration),
   ("Diagnostic", record "Diagnostic" ["kind", "message"]),
   ("CompilationUnit", record "CompilationUnit" ["logical_name", "canonical_name", "source_text"]),
   ("CompilerError", needsFields "CompilerError" ["message"]),
   ("BackendUnavailableError", needsFields "CompilerError" ["message"]),
   ("CompilationError", needsFields "CompilationError" ["message"]),
   ("ResourceNotFoundError", needsFields "ResourceNotFoundError" ["message"]),
   ("InternalInvariantError", needsFields "CompilerError" ["message"]),
   ("ArtifactLoadError", needsFields "CompilerError" ["message"]),
   ("ArtifactStateError", needsFields "CompilerError" ["message"]),
   ("VirtualFile", needsFields "VirtualFile" ["uri", "binary_name", "kind"]),
   ("LoadingContext", needsFields "LoadingContext" ["qualified_name", "registry", "shared"]),
   ("VirtualFileStore", needsFields "VirtualFileStore" ["registry", "shared"]),
   ("EmissionScope", needsFields "EmissionScope" ["store"]),
   ("DiskArtifactStore", needsFields "DiskArtifactStore" ["directory"]),
   ("strip_timestamp", needsArguments "strip_timestamp" ["name"]),
   ("split_qualified_name", needsArguments "split_qualified_name" ["name"]),
   ("canonical_path", needsArguments "canonical_path" ["relative_name"]),
   ("to_uri", needsArguments "to_uri" ["location", "package", "relative_name"]),
   ("binary_name_to_path", needsArguments "binary_name_to_path" ["binary_name", "extension"]),
   ("resource_name_to_binary_name", needsArguments "resource_name_to_binary_name" ["resource"]),
   ("open_resource", needsArguments "open_resource" ["registry", "shared", "name"]),
   ("dump_code", needsArguments "dump_code" ["code", "source_size"]),
   ("load_code", needsArguments "load_code" ["data", "name"]),
   ("load_backend", needsArguments "load_backend" ["spec"]),
   ("print_diagnostics", needsArguments "print_diagnostics" ["diagnostics"]),
   ("_ArtifactWriter", needsFields "_ArtifactWriter" ["owner"]),
   ("_environment_overrides", needsArguments "_environment_overrides" ["environ"]),
   ("_in_package", needsArguments "_in_package" ["binary_name", "package", "recurse"]),
   ("_instantiate", needsArguments "_instantiate" ["spec", "target"]),
   ("_load_entry_point", needsArguments "_load_entry_point" ["name"]),
   ("_load_import_path", needsArguments "_load_import_path" ["spec"]),
   ("_nest", needsArguments "_nest" ["name", "module"]),
   ("Enum", enumeration),
   ("Any", refusing "Any cannot be instantiated"),
   ("Literal", refusing "Cannot instantiate typing.Literal"),
   ("DiagnosticKind", refusing "Cannot instantiate typing.Literal"),
   ("CodeType", refusing "code expected at least 16 arguments, got 0"),
   ("Callable", abstractClass "Callable" ["__call__"]),
   ("Iterable", abstractClass "Iterable" ["__iter__"]),
   ("Iterator", abstractClass "Iterator" ["__next__"]),
   ("Mapping", abstractClass "Mapping" ["__getitem__", "__iter__", "__len__"]),
   ("Sequence", abstractClass "Sequence" ["__getitem__", "__len__"]),
   ("runtime_checkable", needsArguments "runtime_checkable" ["cls"]),
   ("field_validator", needsArguments "field_validator" ["field"]),
   ("BaseModel", .failing (.exception "PydanticUserError"
     "Pydantic models should inherit from BaseModel, BaseModel cannot be instantiated directly"))]

/-- What every module has. -/
def usual : List (String × Offer) :=
  let oneArgument := refusing "expected 1 argument, got 0"
  let noName := refusing "module() missing required argument 'name' (pos 1)"
  (["__annotations__", "__builtins__", "__cached__", "__dict__", "__dir__", "__doc__", "__file__",
    "__getstate__", "__hash__", "__init_subclass__", "__loader__", "__name__", "__package__",
    "__repr__", "__sizeof__", "__spec__", "__str__", "__subclasshook__"].map fun name =>
      (name, .other)) ++
  (["__delattr__", "__eq__", "__ge__", "__getattribute__", "__gt__", "__le__", "__lt__",
    "__ne__"].map fun name => (name, oneArgument)) ++
  [("__class__", noName),
   ("__init__", noName),
   ("__new__", refusing "module.__new__(): not enough arguments"),
   ("__format__", refusing "__format__() takes exactly one argument (0 given)"),
   ("__reduce__", refusing "cannot pickle 'module' object"),
   ("__reduce_ex__", refusing "__reduce_ex__() takes exactly one argument (0 given)"),
   ("__setattr__", refusing " expected 2 arguments, got 0")]

/-- The commands of the command line. -/
def commands : List (String × Offer) :=
  [("canonicalize", command 2), ("cli", command 2), ("compile_command", command 2),
   ("list_backends", command 0), ("main", command 2)]

/-- What given names have to offer. -/
def offers (names : List String) : List (String × Offer) :=
  names.map fun name => (name, (lookupEntry name definitions).getD .other)

/-- A module with the given names. -/
def having (place : String) (names : List String) : String × List (String × Offer) :=
  (place, offers names ++ usual)

/-- The modules that are installed, with their names. -/
def modules : List (String × List (String × Offer)) :=
  [having "livecompile"
     ["ArtifactLoadError", "ArtifactRegistry", "ArtifactStateError", "ArtifactStoreProtocol",
      "BackendUnavailableError", "CompilationError", "CompilationUnit", "CompileOptions",
      "CompilerBackend", "CompilerError", "CompilerSettings", "Diagnostic", "DiagnosticCollector",
      "DiskArtifactStore", "FileKind", "FileManager", "InternalInvariantError",
      "LINT_RECOVERABLE_CATEGORY", "LoadingContext", "Location", "LoggingDiagnosticListener",
      "PythonBackend", "ResourceNotFoundError", "ResourcePath", "RuntimeCompiler",
      "SharedContext", "VirtualFile", "VirtualFileStore", "__all__", "__path__", "__version__",
      "backends", "bytecode", "cli", "compiler", "config", "diagnostics", "errors",
      "file_manager", "files", "load_backend", "load_settings", "loading", "models", "naming",
      "resources", "store", "strip_timestamp", "testing"],
   having "livecompile.backends"
     ["BUILTIN_BACKENDS", "CompilerBackend", "ENTRY_POINT_GROUP", "FileManager", "PythonBackend",
      "__all__", "__path__", "available_backends", "load_backend", "loader", "protocol", "python"],
   having "livecompile.backends.loader"
     ["Any", "BUILTIN_BACKENDS", "BackendUnavailableError", "CompilerBackend",
      "ENTRY_POINT_GROUP", "PythonBackend", "_instantiate", "_load_entry_point",
      "_load_import_path", "available_backends", "importlib", "load_backend", "logger", "logging"],
   having "livecompile.backends.protocol"
     ["BinaryIO", "CompileOptions", "CompilerBackend", "DiagnosticListener", "FileKind",
      "FileManager", "Iterable", "Iterator", "Location", "Protocol", "Sequence", "VirtualFile",
      "runtime_checkable"],
   having "livecompile.backends.python"
     ["ARTIFACT_EXTENSION", "CompileOptions", "Diagnostic", "DiagnosticListener", "FileKind",
      "FileManager", "Location", "PythonBackend", "ResourceNotFoundError", "Sequence",
      "VirtualFile", "_WARNINGS_LOCK", "annotations", "ast", "dump_code", "importlib", "logger",
      "logging", "split_qualified_name", "strip_timestamp", "threading", "warnings"],
   having "livecompile.bytecode"
     ["ArtifactLoadError", "CodeType", "HEADER_SIZE", "annotations", "dump_code", "importlib",
      "load_code", "marshal", "time"],
   ("livecompile.cli", commands ++ offers
     ["CompilationError", "CompilerError", "Diagnostic", "KIND_COLORS", "Path", "RuntimeCompiler",
      "available_backends", "click", "load_settings", "logging", "print_diagnostics",
      "strip_timestamp", "sys"] ++ usual),
   having "livecompile.compiler"
     ["ArtifactLoadError", "ArtifactRegistry", "ArtifactStateError", "BinaryIO",
      "CompilationError", "CompilationUnit", "CompileOptions", "CompilerBackend",
      "DiagnosticCollector", "DiskArtifactStore", "InternalInvariantError", "Iterable",
      "LINT_RECOVERABLE_CATEGORY", "Location", "LoggingDiagnosticListener", "Path",
      "ResourceNotFoundError", "ResourcePath", "RuntimeCompiler", "SOURCE_EXTENSION",
      "SharedContext", "TYPE_CHECKING", "VirtualFile", "VirtualFileStore", "annotations",
      "current_version", "load_backend", "logger", "logging", "open_resource", "threading",
      "types"],
   having "livecompile.config"
     ["Any", "BaseModel", "CompileOptions", "CompilerSettings", "ENV_PREFIX", "Field", "Mapping",
      "Path", "_environment_overrides", "annotations", "field_validator", "load_settings", "os",
      "yaml"],
   having "livecompile.diagnostics"
     ["Diagnostic", "DiagnosticCollector", "DiagnosticListener", "Iterator",
      "LoggingDiagnosticListener", "Protocol", "annotations", "logger", "logging", "threading"],
   having "livecompile.errors"
     ["ArtifactLoadError", "ArtifactStateError", "BackendUnavailableError", "CompilationError",
      "CompilerError", "InternalInvariantError", "ResourceNotFoundError", "TYPE_CHECKING",
      "annotations"],
   having "livecompile.file_manager"
     ["ArtifactRegistry", "ArtifactStateError", "BinaryIO", "Callable", "EmissionScope",
      "FileKind", "Iterable", "Iterator", "LoadingContext", "Location", "ResourceNotFoundError",
      "SharedContext", "TYPE_CHECKING", "URI_SCHEME", "VirtualFile", "VirtualFileStore",
      "_in_package", "annotations", "logger", "logging", "split_qualified_name", "threading",
      "to_uri"],
   having "livecompile.files"
     ["ARTIFACT_EXTENSION", "ArtifactStateError", "Callable", "Enum", "FileKind", "Location",
      "SOURCE_EXTENSION", "URI_SCHEME", "VirtualFile", "_ArtifactWriter", "annotations",
      "binary_name_to_path", "io", "threading"],
   having "livecompile.loading"
     ["Any", "ArtifactLoadError", "ArtifactRegistry", "BinaryIO", "LoadingContext",
      "ResourceNotFoundError", "ResourcePath", "SharedContext", "TYPE_CHECKING", "VirtualFile",
      "_MATERIALIZE_LOCK", "_nest", "annotations", "builtins", "importlib", "load_code", "logger",
      "logging", "open_resource", "resource_name_to_binary_name", "split_qualified_name",
      "strip_timestamp", "threading", "types"],
   having "livecompile.models"
     ["Any", "BaseModel", "CompilationUnit", "CompileOptions", "ConfigDict", "Diagnostic",
      "DiagnosticKind", "Field", "LINT_RECOVERABLE_CATEGORY", "Literal", "_TARGET_VERSION",
      "current_version", "field_validator", "re", "split_qualified_name", "strip_timestamp", "sys"],
   having "livecompile.naming"
     ["ARTIFACT_EXTENSION", "SOURCE_EXTENSION", "URI_SCHEME", "_TIMESTAMP_SUFFIX", "annotations",
      "binary_name_to_path", "canonical_path", "re", "resource_name_to_binary_name",
      "split_qualified_name", "strip_timestamp", "to_uri"],
   having "livecompile.resources"
     ["FileKind", "Iterable", "Iterator", "Path", "ResourcePath", "VirtualFile", "annotations",
      "logger", "logging", "zipfile"],
   having "livecompile.store"
     ["ARTIFACT_EXTENSION", "ArtifactStoreProtocol", "DiskArtifactStore", "Path", "Protocol",
      "annotations", "binary_name_to_path", "contextlib", "logger", "logging", "tempfile"],
   having "livecompile.testing"
     ["Any", "CompileOptions", "Diagnostic", "DiagnosticListener", "FileKind", "FileManager",
      "Location", "PythonBackend", "RecordingBackend", "ScriptedBackend", "Sequence",
      "VirtualFile", "threading"]]

end Installed

/-- The catalogue in use. -/
def Catalogue.installed : Catalogue :=
  { builtin := [("python", .standard)]
    entryPoints :=
      [⟨"ep-recording", "livecompile.testing", "RecordingBackend"⟩,
       ⟨"ep-scripted", "livecompile.testing", "ScriptedBackend"⟩,
       ⟨"ep-broken", "livecompile.testing", "NoSuchBackend"⟩,
       ⟨"ep-missing", "no_such_pkg_livecompile", "Backend"⟩,
       ⟨"ep-notbackend", "livecompile.models", "current_version"⟩]
    modules := Installed.modules }

end UnitFoundry
