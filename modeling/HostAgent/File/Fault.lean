set_option autoImplicit false

/-! # Failed operations on files

Why the operating system refuses an operation on a file, or the start of a command, and the
text under which the refusal is reported. Refusals that the system itself pronounces carry its
number for them.
-/

namespace HostAgent

/-- Why an operation on a file is refused. -/
inductive FileFault
  | notFound
  | notDirectory
  | isDirectory
  | nameTooLong
  | tooManyLinks
  | notText
  | nulInPath
  | nulInArgument
deriving DecidableEq, Repr

namespace FileFault

/-- The wording of a refusal. -/
def message : FileFault → String
  | .notFound => "No such file or directory (os error 2)"
  | .notDirectory => "Not a directory (os error 20)"
  | .isDirectory => "Is a directory (os error 21)"
  | .nameTooLong => "File name too long (os error 36)"
  | .tooManyLinks => "Too many levels of symbolic links (os error 40)"
  | .notText => "stream did not contain valid UTF-8"
  | .nulInPath => "file name contained an unexpected NUL byte"
  | .nulInArgument => "nul byte found in provided data"

end FileFault

end HostAgent
