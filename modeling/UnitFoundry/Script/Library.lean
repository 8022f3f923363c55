import UnitFoundry.Script.Value
import UnitFoundry.Text.Split

/-!
# What libraries offer

The names that the modules besides units hold. Scripts can use a few of them; the others can be
imported and passed on.

* `entry?` — the value of a name of a library;
* `offered` — the names that a library offers to an import of all its names.
-/

namespace UnitFoundry.Script.Library

/-- Names with one kind. -/
def ofKind (kind : String) (names : String) : List (String × Value) :=
  (Text.pieces ' ' names).map fun name => (name, .thing kind name)

/-- The kind of functions that are not written as scripts. -/
def builtinKind : String := "builtin_function_or_method"

/-- The names of the JSON module. -/
def jsonEntries : List (String × Value) :=
  [("__version__", .text "2.0.9"), ("scanner", .thing "module" "json.scanner"),
   ("decoder", .thing "module" "json.decoder"), ("encoder", .thing "module" "json.encoder"),
   ("codecs", .thing "module" "codecs"), ("_default_encoder", .thing "JSONEncoder" ""),
   ("_default_decoder", .thing "JSONDecoder" ""), ("dumps", .dumps)] ++
  ofKind "type" "JSONDecoder JSONDecodeError JSONEncoder" ++
  ofKind "function" "dump detect_encoding load loads"

/-- The names of the mathematical module. -/
def mathEntries : List (String × Value) :=
  ofKind builtinKind
    ("acos acosh asin asinh atan atan2 atanh cbrt ceil copysign cos cosh degrees dist erf erfc exp " ++
     "exp2 expm1 fabs factorial floor fmod frexp fsum gamma gcd hypot isclose isfinite isinf isnan " ++
     "isqrt lcm ldexp lgamma log log1p log10 log2 modf pow radians remainder sin sinh sqrt tan tanh " ++
     "trunc prod perm comb nextafter ulp") ++
  ofKind "float" "pi e tau inf nan"

/-- The texts that stand for parts of paths. -/
def pathTexts : List (String × Value) :=
  [("curdir", .text "."), ("pardir", .text ".."), ("extsep", .text "."), ("sep", .text "/"),
   ("pathsep", .text ":"), ("defpath", .text "/bin:/usr/bin"), ("devnull", .text "/dev/null"),
   ("altsep", .none)]

/-- The names of the module of paths. -/
def pathEntries : List (String × Value) :=
  pathTexts ++
  [("os", .library .os), ("sys", .thing "module" "sys"), ("stat", .thing "module" "stat"),
   ("genericpath", .thing "module" "genericpath"), ("supports_unicode_filenames", .bool false),
   ("_varprog", .none), ("_varprogb", .none), ("_path_normpath", .thing builtinKind "_path_normpath")] ++
  ofKind "function"
    ("commonprefix exists getatime getctime getmtime getsize isdir isfile samefile sameopenfile " ++
     "samestat _get_sep normcase isabs join split splitext splitdrive basename dirname islink lexists " ++
     "ismount expanduser expandvars normpath abspath realpath _joinrealpath relpath commonpath")

/-- The names of the module of the operating system. -/
def osEntries : List (String × Value) :=
  pathTexts ++
  [("path", .library .path), ("name", .text "posix"), ("linesep", .text "\n"),
   ("abc", .thing "module" "abc"), ("sys", .thing "module" "sys"), ("st", .thing "module" "stat"),
   ("error", .exceptionType "OSError"), ("environ", .thing "_Environ" ""),
   ("environb", .thing "_Environ" ""), ("supports_bytes_environ", .bool true),
   ("F_OK", .whole 0), ("R_OK", .whole 4), ("W_OK", .whole 2), ("X_OK", .whole 1),
   ("SEEK_SET", .whole 0), ("SEEK_CUR", .whole 1), ("SEEK_END", .whole 2), ("EX_OK", .whole 0),
   ("O_RDONLY", .whole 0), ("O_WRONLY", .whole 1), ("O_RDWR", .whole 2)] ++
  ofKind "type"
    ("GenericAlias waitid_result stat_result statvfs_result sched_param terminal_size DirEntry " ++
     "times_result uname_result MutableMapping Mapping PathLike") ++
  ofKind "function"
    ("makedirs removedirs renames walk fwalk execl execle execlp execlpe execvp execvpe get_exec_path " ++
     "getenv getenvb fsencode fsdecode spawnv spawnve spawnvp spawnvpe spawnl spawnle spawnlp spawnlpe " ++
     "popen fdopen") ++
  ofKind builtinKind
    ("stat access chdir chmod chown getcwd getcwdb link listdir lstat mkdir nice readlink rename replace " ++
     "rmdir symlink system umask uname unlink remove utime times execv execve fork getegid geteuid getgid " ++
     "getgroups getpid getpgrp getppid getuid getlogin kill killpg wait waitpid open close dup dup2 lseek " ++
     "read write fstat isatty pipe truncate putenv unsetenv strerror fchdir fsync sync urandom " ++
     "get_terminal_size cpu_count scandir fspath abort")

/-- The names of a module besides those that all modules have. -/
def entries : Library → List (String × Value)
  | json => jsonEntries
  | os => osEntries
  | path => pathEntries
  | math => mathEntries
  | main => []

/-- The value of a name of a module. -/
def entry? (which : Library) (name : String) : Option Value :=
  match name with
  | "__name__" => some (.text which.name)
  | "__file__" => which.file?.map fun file => .text file
  | "__package__" => some (.text (if which.isPackage then which.name else ""))
  | name => which.entries.lookup name

/-- The names that a module lists as those it offers, if it has such a list. -/
def offered? : Library → Option (List String)
  | json => some ["dump", "dumps", "load", "loads", "JSONDecoder", "JSONDecodeError", "JSONEncoder"]
  | path =>
    some ((pathEntries.map (·.1)).filter fun name =>
      !(["os", "sys", "stat", "genericpath"].contains name) && !Text.beginsWith name "_")
  | os =>
    some ((osEntries.map (·.1)).filter fun name =>
      !(["abc", "sys", "st", "GenericAlias", "MutableMapping", "Mapping"].contains name))
  | _ => none

/-- The names that a module offers to an import of all its names. -/
def offered (which : Library) : List String := which.offered?.getD (which.entries.map (·.1))

end UnitFoundry.Script.Library
