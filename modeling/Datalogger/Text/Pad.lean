/-!
Padding to a column width, counted in Unicode scalar values.
-/

namespace Datalogger.Text

/-- Fills up with spaces on the right; a text that is long enough stays as it is. -/
def padEnd (width : Nat) (s : String) : String :=
  s ++ String.ofList (List.replicate (width - s.length) ' ')

end Datalogger.Text
