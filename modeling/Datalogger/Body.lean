import Datalogger.Text.Indent

/-!
Block bodies: entries, each of which may span several lines. A body is shown as its entries one below
the other and stands inside its block one step to the right.
-/

namespace Datalogger

open Text (joinLines lines indent)

structure Body where
  entries : List String
  deriving DecidableEq, Repr

namespace Body

def isEmpty (b : Body) : Bool :=
  b.entries.isEmpty

def text (b : Body) : String :=
  joinLines b.entries

def ofLines (text : String) : Body :=
  ⟨lines text⟩

/-- The body as it stands in a block: nothing at all when it has no entries. -/
def inset (b : Body) : List String :=
  if b.isEmpty then [] else [indent b.text 1]

theorem inset_of_ne_nil {entries : List String} (h : entries ≠ []) :
    inset ⟨entries⟩ = [indent (joinLines entries) 1] := by
  cases entries with
  | nil => exact absurd rfl h
  | cons => rfl

end Body

end Datalogger
