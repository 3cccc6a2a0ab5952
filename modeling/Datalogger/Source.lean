import Datalogger.Refusal

/-!
What is found at the path of a file that is to be read as text.
-/

namespace Datalogger

inductive Source where
  | absent (reason : String)
  /-- Something is there but it cannot be read as text. -/
  | unreadable (reason : String)
  | text (content : String)
  deriving DecidableEq, Repr

/-- What a refusal to open a file says of it: one that could not be found is absent. -/
def Source.refused (r : Refusal) : Source :=
  match r with
  | .isDirectory | .notPermitted | .notText => .unreadable r.message
  | _ => .absent r.message

def Source.text? : Source → Except String String
  | absent reason => .error reason
  | unreadable reason => .error reason
  | text content => .ok content

end Datalogger
