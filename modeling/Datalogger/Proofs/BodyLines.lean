import Datalogger.Body
import Datalogger.Proofs.Text.LineBreaks

/-!
Bodies that are taken apart into lines again. The text of a body does not tell an entry of several lines
from several entries, an empty entry at the end from none, or a carriage return at the end of an entry from
a part of the line break; every other body comes back as it was.
-/

namespace Datalogger.Body

open Text (joinLines lines)

theorem ofLines_text_eq_iff {b : Body} :
    ofLines b.text = b ↔ lines (joinLines b.entries) = b.entries := by
  cases b
  simp [ofLines, text]

theorem isEmpty_ofLines_iff {s : String} : (ofLines s).isEmpty = true ↔ s = "" := by
  rw [isEmpty, ofLines, List.isEmpty_iff, Text.lines_eq_nil_iff]

/-- A body is the one with the lines of its text as entries exactly if it has no entries, or no entry
contains a line feed, only the last one may end in a carriage return, and the last one is not empty. The
body with these lines as entries is empty exactly if the text is, which is the text of no entries and of a
single empty one. -/
theorem resplitting_outcome (b : Body) :
    (ofLines b.text = b ↔
      b.isEmpty = true ∨
        (∀ e ∈ b.entries, '\n' ∉ e.toList) ∧
          (∀ e ∈ b.entries.dropLast, e.toList.getLast? ≠ some '\r') ∧
          b.entries.getLast? ≠ some "") ∧
    ((ofLines b.text).isEmpty = true ↔ b.text = "") ∧
    (b.text = "" ↔ b.entries = [] ∨ b.entries = [""]) := by
  refine ⟨?_, isEmpty_ofLines_iff, Text.joinLines_eq_empty_iff⟩
  rw [ofLines_text_eq_iff, Text.lines_joinLines_eq_iff, isEmpty, List.isEmpty_iff]

/-- A carriage return before a break goes with it, one at the end of the text stays. -/
example : (ofLines (text ⟨["x = 1\r", "", "y = 2\r"]⟩)).entries = ["x = 1", "", "y = 2\r"] := by
  decide +kernel

end Datalogger.Body
