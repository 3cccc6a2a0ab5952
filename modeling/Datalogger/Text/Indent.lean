import Datalogger.Text.Blank
import Datalogger.Text.Lines

/-!
Indentation by steps of four spaces. Blank lines come out empty, so indented text never carries
white space at the end of an otherwise empty line.
-/

namespace Datalogger.Text

def margin (level : Nat) : List Char :=
  List.replicate (4 * level) ' '

def indentLine (level : Nat) (line : String) : String :=
  if isBlankText line then "" else String.ofList (margin level) ++ line

def indent (text : String) (level : Nat) : String :=
  joinLines ((lines text).map (indentLine level))

theorem indentLine_of_blank (level : Nat) {line : String} (h : isBlankText line = true) :
    indentLine level line = "" := by
  simp [indentLine, h]

theorem indentLine_of_not_blank (level : Nat) {line : String} (h : isBlankText line = false) :
    indentLine level line = String.ofList (margin level) ++ line := by
  simp [indentLine, h]

theorem margin_add (a b : Nat) : margin (a + b) = margin a ++ margin b := by
  simp [margin, Nat.mul_add, List.replicate_append_replicate]

end Datalogger.Text
