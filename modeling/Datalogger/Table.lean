import Datalogger.Cadence
import Datalogger.Instruction
import Datalogger.Text.Lines

/-!
Data tables: a name, settings, and output items that may label their columns. The items are texts, or
pieces that become texts once the names of an instrument are known.
-/

namespace Datalogger

open Text (joinLines)

/-- Output to the memory card. A stop ring of zero is a ring buffer, one stops when full. -/
structure CardOut where
  stopRing : Nat
  size : Int
  deriving DecidableEq, Repr

def CardOut.standard : CardOut := ⟨0, -1⟩

def CardOut.text (c : CardOut) : String :=
  "CardOut(" ++ natText c.stopRing ++ "," ++ intText c.size ++ ")"

structure TableSettings where
  trigger : String
  size : Int
  interval : DataInterval
  /-- `none` keeps the table off the memory card. -/
  cardOut : Option CardOut
  deriving DecidableEq, Repr

namespace TableSettings

def standard : TableSettings := ⟨"True", -1, .standard, some .standard⟩

def cardText (c : Option CardOut) : String :=
  c.elim "no CardOut" CardOut.text

/-- One entry for each attribute that differs. -/
def differences (a b : TableSettings) : List String :=
  (if a.trigger = b.trigger then [] else ["trigger " ++ a.trigger ++ " vs " ++ b.trigger]) ++
  (if a.size = b.size then [] else ["size " ++ intText a.size ++ " vs " ++ intText b.size]) ++
  (if a.interval = b.interval then [] else [a.interval.text ++ " vs " ++ b.interval.text]) ++
  (if a.cardOut = b.cardOut then [] else [cardText a.cardOut ++ " vs " ++ cardText b.cardOut])

def difference (a b : TableSettings) : Option String :=
  match a.differences b with
  | [] => none
  | ds => some (", ".intercalate ds)

theorem difference_eq_none_iff {a b : TableSettings} : a.difference b = none ↔ a = b := by
  obtain ⟨t, s, i, c⟩ := a
  obtain ⟨t', s', i', c'⟩ := b
  have h : difference ⟨t, s, i, c⟩ ⟨t', s', i', c'⟩ = none ↔
      differences ⟨t, s, i, c⟩ ⟨t', s', i', c'⟩ = [] := by
    unfold difference
    split <;> simp_all
  rw [h]
  simp only [differences, List.append_eq_nil_iff, TableSettings.mk.injEq]
  by_cases t = t' <;> by_cases s = s' <;> by_cases i = i' <;> by_cases c = c' <;> simp_all

end TableSettings

structure TableItem (α : Type) where
  output : α
  fields : List α
  deriving DecidableEq, Repr

structure Table (α : Type) where
  name : String
  settings : TableSettings
  items : List (TableItem α)
  deriving DecidableEq, Repr

/-- An output item, with labels for its columns in quotes if it has any. -/
def TableItem.text (i : TableItem String) : String :=
  if i.fields = [] then i.output
  else i.output ++ ":FieldNames(" ++ Instruction.quoted (",".intercalate i.fields) ++ ")"

def TableItem.mapM {α β ε : Type} (f : α → Except ε β) (i : TableItem α) :
    Except ε (TableItem β) := do
  let output ← f i.output
  return ⟨output, ← i.fields.mapM f⟩

namespace Table

/-- A table with the standard settings and no items. -/
def named (name : String) : Table α := ⟨name, .standard, []⟩

def withItems (t : Table α) (items : List (TableItem α)) : Table α :=
  { t with items := t.items ++ items }

def withInterval (t : Table α) (interval : DataInterval) : Table α :=
  { t with settings := { t.settings with interval } }

def offCard (t : Table α) : Table α :=
  { t with settings := { t.settings with cardOut := none } }

def callStatement (t : Table α) : String :=
  "CallTable " ++ t.name

def step (line : String) : String :=
  "    " ++ line

def head (t : Table α) : String :=
  "DataTable(" ++ t.name ++ "," ++ t.settings.trigger ++ "," ++ intText t.settings.size ++ ")"

def lines (t : Table String) : List String :=
  t.head :: step t.settings.interval.text :: (t.settings.cardOut.map (step ·.text)).toList ++
    [""] ++ t.items.map (step ·.text) ++ ["EndTable"]

def text (t : Table String) : String :=
  joinLines t.lines

def mapM {β ε : Type} (f : α → Except ε β) (t : Table α) : Except ε (Table β) := do
  return ⟨t.name, t.settings, ← t.items.mapM (TableItem.mapM f)⟩

end Table

end Datalogger
