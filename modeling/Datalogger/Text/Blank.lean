/-!
Blank characters and trimming. A character is blank when it has the `White_Space` property;
trimming removes blank characters from the ends of a text and touches nothing between them.
-/

namespace Datalogger.Text

/-- The 25 characters with the `White_Space` property. -/
def isBlank (c : Char) : Bool :=
  let n := c.toNat
  (0x09 ≤ n && n ≤ 0x0D) || n == 0x20 || n == 0x85 || n == 0xA0 || n == 0x1680 ||
    (0x2000 ≤ n && n ≤ 0x200A) || n == 0x2028 || n == 0x2029 || n == 0x202F || n == 0x205F ||
    n == 0x3000

def dropBlankEnd (cs : List Char) : List Char :=
  (cs.reverse.dropWhile isBlank).reverse

def trimEnd (s : String) : String :=
  String.ofList (dropBlankEnd s.toList)

def trim (s : String) : String :=
  String.ofList (dropBlankEnd (s.toList.dropWhile isBlank))

/-- No character other than blank ones, so also the empty text. -/
def isBlankText (s : String) : Bool :=
  s.toList.all isBlank

@[simp] theorem toList_trimEnd (s : String) : (trimEnd s).toList = dropBlankEnd s.toList := by
  simp [trimEnd]

@[simp] theorem toList_trim (s : String) :
    (trim s).toList = dropBlankEnd (s.toList.dropWhile isBlank) := by
  simp [trim]

theorem dropBlankEnd_append_of_blank (cs : List Char) {bs : List Char}
    (h : bs.all isBlank = true) : dropBlankEnd (cs ++ bs) = dropBlankEnd cs := by
  have hb : ∀ c ∈ bs.reverse, isBlank c = true := by simpa using h
  rw [dropBlankEnd, dropBlankEnd, List.reverse_append, List.dropWhile_append_of_pos hb]

/-- Every character that core takes for white space is blank. -/
theorem isBlank_of_isWhitespace {c : Char} (h : c.isWhitespace = true) : isBlank c = true := by
  simp only [Char.isWhitespace, Bool.or_eq_true, decide_eq_true_eq] at h
  rcases h with ((rfl | rfl) | rfl) | rfl <;> decide

end Datalogger.Text
