/-!
ASCII letter case. Identifiers and wire roles are compared after `fold`; only the letters `A` to
`Z` have a lower case here.
-/

namespace Datalogger.Text

def fold (s : String) : String :=
  s.map Char.toLower

def raise (s : String) : String :=
  s.map Char.toUpper

/-- Equal up to the case of ASCII letters. -/
def sameFolded (a b : String) : Bool :=
  fold a == fold b

theorem sameFolded_iff {a b : String} : sameFolded a b = true ↔ fold a = fold b := by
  simp [sameFolded]

@[simp] theorem fold_append (a b : String) : fold (a ++ b) = fold a ++ fold b := by
  apply String.ext
  simp [fold]

end Datalogger.Text
