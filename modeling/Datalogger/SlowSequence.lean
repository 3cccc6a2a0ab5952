import Datalogger.Cadence
import Datalogger.Data.IndexedList
import Datalogger.Text.Indent

/-!
Slow sequences: background routines with a cadence of their own. Contributions with the same id are
grouped into one sequence that keeps the cadence of the first.
-/

namespace Datalogger

open Text (joinLines indent)

structure SlowSequence (α : Type) where
  id : String
  scan : Scan
  lines : List α
  deriving DecidableEq, Repr

namespace SlowSequence

def logic (s : SlowSequence String) : String :=
  joinLines s.lines

def text (s : SlowSequence String) : String :=
  let body := indent s.logic 1
  joinLines (["SlowSequence '" ++ s.id, s.scan.text] ++ (if body = "" then [] else [body]) ++
    ["NextScan"])

/-- The other body follows this one; the cadence stays. -/
def absorb (s other : SlowSequence α) : SlowSequence α :=
  { s with lines := s.lines ++ other.lines }

abbrev Grouping (α : Type) := IndexedList (SlowSequence α) SlowSequence.id

/-- Adds a sequence at the end, or its body to the sequence of its id. -/
def place (s : SlowSequence α) (g : Grouping α) : Grouping α :=
  match found : g.index.get? s.id with
  | none => g.append s found
  | some i => g.modify i (·.absorb s) fun _ => rfl

/-- One more sequence: a place of its own behind the others, or its lines behind those of the first with
its id. -/
theorem items_place (s : SlowSequence α) (g : Grouping α) :
    (s.id ∉ g.items.map SlowSequence.id ∧ (place s g).items = g.items ++ [s]) ∨
    ∃ front first back, g.items = front ++ first :: back ∧ first.id = s.id ∧
      (place s g).items = front ++ first.absorb s :: back := by
  unfold place
  split
  · rename_i unknown
    refine .inl ⟨?_, rfl⟩
    simpa using IndexedList.get?_eq_none_iff.1 unknown
  · rename_i i found
    obtain ⟨front, back, split, named, _, changed⟩ := IndexedList.exists_split found
    exact .inr ⟨front, _, back, split, named, changed _ _⟩

def group (contributions : List (SlowSequence α)) : List (SlowSequence α) :=
  (contributions.foldl (fun g s => place s g) (.empty : Grouping α)).items

end SlowSequence

end Datalogger
