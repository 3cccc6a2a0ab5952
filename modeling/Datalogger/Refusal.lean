/-!
Why a system refuses to open a file or to launch a tool.
-/

namespace Datalogger

inductive Refusal where
  | notFound
  | notPermitted
  | notDirectory
  | isDirectory
  | nameTooLong
  /-- The content of the file is not UTF-8. -/
  | notText
  /-- No name of a file holds the character zero. -/
  | zeroInPath
  /-- No argument of a tool holds the character zero. -/
  | zeroInArgument
  deriving DecidableEq, Repr

def Refusal.message : Refusal → String
  | notFound => "No such file or directory (os error 2)"
  | notPermitted => "Permission denied (os error 13)"
  | notDirectory => "Not a directory (os error 20)"
  | isDirectory => "Is a directory (os error 21)"
  | nameTooLong => "File name too long (os error 36)"
  | notText => "stream did not contain valid UTF-8"
  | zeroInPath => "file name contained an unexpected NUL byte"
  | zeroInArgument => "nul byte found in provided data"

def holdsZero (text : String) : Bool :=
  text.toList.any (·.toNat = 0)

end Datalogger
