import Datalogger.Data.IndexedList
import Datalogger.Error
import Datalogger.Table
import Datalogger.Text.Fold

/-!
Merging the tables of a program. Tables whose names agree, ignoring case, become one table at the
place of the first of them; their settings must be equal, and their items follow each other in the
order in which they were contributed.
-/

namespace Datalogger

open Text (fold)

namespace Table

structure Placed where
  table : Table String
  owner : String
  deriving DecidableEq, Repr

def Placed.extend (items : List (TableItem String)) (p : Placed) : Placed :=
  { p with table := { p.table with items := p.table.items ++ items } }

theorem Placed.fold_name_extend (items : List (TableItem String)) (p : Placed) :
    fold (p.extend items).table.name = fold p.table.name := rfl

abbrev Merging := IndexedList Placed fun p => fold p.table.name

/-- Adds a table at the end, or its items to the table of its name. -/
def place (owner : String) (t : Table String) (m : Merging) : Except Error Merging :=
  match found : m.index.get? (fold t.name) with
  | none => .ok (m.append ⟨t, owner⟩ found)
  | some i =>
    let seed := m.element found
    match seed.table.settings.difference t.settings with
    | some detail => .error (.tableConflict seed.table.name seed.owner owner detail)
    | none => .ok (m.modify i (.extend t.items) (Placed.fold_name_extend t.items))

def placeAll : List (String × Table String) → Merging → Except Error Merging
  | [], m => .ok m
  | (owner, t) :: rest, m =>
    match place owner t m with
    | .error e => .error e
    | .ok m => placeAll rest m

def contributed (contributions : List (String × List (Table String))) :
    List (String × Table String) :=
  contributions.flatMap fun (owner, tables) => tables.map (owner, ·)

def merge (contributions : List (String × List (Table String))) :
    Except Error (List (Table String)) :=
  match placeAll (contributed contributions) .empty with
  | .error e => .error e
  | .ok m => .ok (m.items.map Placed.table)

end Table

end Datalogger
