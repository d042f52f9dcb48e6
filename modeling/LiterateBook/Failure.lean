import LiterateBook.Text.White

/-!
# Failures

Why an operation has no answer. A failure holds its cause; its code, wording and
advice are functions of that cause, so that the wording stands in one place.
-/

namespace LiterateBook

/-- Why the file system refuses a request. -/
inductive IoError where
  | notFound
  | alreadyExists
  | notDirectory
  | isDirectory
  | nameTooLong
  | tooManyLinks
  /-- A text was asked for, but the bytes are not UTF-8. -/
  | notText
  /-- A path holds a NUL character, which no name may hold. -/
  | nulInPath
  deriving DecidableEq

namespace IoError

/-- The wording of an I/O error, with the system's number for it where it has
one. -/
def message : IoError → String
  | .notFound => "No such file or directory (os error 2)"
  | .alreadyExists => "File exists (os error 17)"
  | .notDirectory => "Not a directory (os error 20)"
  | .isDirectory => "Is a directory (os error 21)"
  | .nameTooLong => "File name too long (os error 36)"
  | .tooManyLinks => "Too many levels of symbolic links (os error 40)"
  | .notText => "stream did not contain valid UTF-8"
  | .nulInPath => "file name contained an unexpected NUL byte"

end IoError

/-- Why an operation on sources, books or configurations fails. -/
inductive Failure where
  | io (error : IoError)
  | unresolvedInclude (path : Text) (reason : Text)
  | configParse
  | invalidPattern (pattern reason : Text)
  | sourceWalk (dir : Text) (error : IoError)
  | noSources (dir : Text)
  deriving DecidableEq

namespace Failure

/-- The code by which a failure is known. -/
def code : Failure → String
  | .io _ => "litmd::io_error"
  | .unresolvedInclude _ _ => "litmd::unresolved_include"
  | .configParse => "litmd::config_parse"
  | .invalidPattern _ _ => "litmd::invalid_pattern"
  | .sourceWalk _ _ => "litmd::source_walk"
  | .noSources _ => "litmd::no_sources"

/-- The wording of a failure. -/
def message : Failure → Text
  | .io error => error.message.toList
  | .unresolvedInclude path reason =>
    "failed to resolve include `".toList ++ path ++ "`: ".toList ++ reason
  | .configParse => "failed to parse config file: ".toList
  | .invalidPattern pattern reason =>
    "invalid source pattern `".toList ++ pattern ++ "`: ".toList ++ reason
  | .sourceWalk dir _ =>
    "failed to read source directory `".toList ++ dir ++ "`".toList
  | .noSources dir => "no source files found in `".toList ++ dir ++ "`".toList

/-- Advice on a failure, where there is any. -/
def help : Failure → Option String
  | .unresolvedInclude _ _ =>
    some "include paths are resolved relative to the directory of the including file"
  | .configParse =>
    some
      ("check that litmd.toml is valid TOML with [render], [parse] and/or [sources] " ++
      "sections")
  | .noSources _ =>
    some
      "source files are matched by the `[sources] patterns` globs, `*.kt` by default"
  | _ => none

/-- What lies behind a failure, where the failure's own wording does not say
it. -/
def cause : Failure → Option Text
  | .sourceWalk dir error =>
    some (dir ++ ": IO error for operation on ".toList ++ dir ++ ": ".toList ++
      error.message.toList)
  | _ => none

end Failure

end LiterateBook
