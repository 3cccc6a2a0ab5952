import Datalogger.Proofs.Passages
import Datalogger.Table

/-!
Tables and the calls of them, read off the lines of a program. A table is defined where a line starts
with `DataTable(` and called where one starts with `CallTable `; the base scan is the first one.
-/

namespace Datalogger

def after? (front line : String) : Option (List Char) :=
  front.toList.isPrefixOf? (content line)

def tableName? (line : String) : Option String :=
  (after? "DataTable(" line).map fun rest => String.ofList (rest.takeWhile (· != ','))

def calledName? (line : String) : Option String :=
  (after? "CallTable " line).map String.ofList

def opensScan (line : String) : Bool :=
  (after? "Scan(" line).isSome

def endsScan (line : String) : Bool :=
  content line == "NextScan".toList

/-- The lines between the first scan statement and the end of that scan. -/
def baseScan (ls : List String) : List String :=
  ((ls.dropWhile fun l => !opensScan l).drop 1).takeWhile fun l => !endsScan l

def definedTables (ls : List String) : List String :=
  ls.filterMap tableName?

def calledTables (ls : List String) : List String :=
  (baseScan ls).filterMap calledName?

theorem definedTables_append (a b : List String) :
    definedTables (a ++ b) = definedTables a ++ definedTables b :=
  List.filterMap_append

theorem definedTables_eq_nil {ls : List String} (none : ∀ l ∈ ls, tableName? l = none) :
    definedTables ls = [] :=
  List.filterMap_eq_nil_iff.2 none

theorem baseScan_eq {front inside rest : List String} {head last : String}
    (before : ∀ l ∈ front, opensScan l = false) (opens : opensScan head = true)
    (within : ∀ l ∈ inside, endsScan l = false) (ends : endsScan last = true) :
    baseScan (front ++ head :: (inside ++ last :: rest)) = inside := by
  have skip : ∀ l ∈ front, (!opensScan l) = true := by
    intro l member
    simp [before l member]
  have keep : ∀ l ∈ inside, (!endsScan l) = true := by
    intro l member
    simp [within l member]
  rw [baseScan, List.dropWhile_append_of_pos skip, List.dropWhile_cons_of_neg (by simp [opens]),
    List.drop_one, List.tail_cons, List.takeWhile_append_of_pos keep,
    List.takeWhile_cons_of_neg (by simp [ends]), List.append_nil]

theorem after_eq_none {front line : String} (h : ¬ front.toList <+: content line) :
    after? front line = none := by
  unfold after?
  cases found : front.toList.isPrefixOf? (content line) with
  | none => rfl
  | some rest => exact absurd ⟨rest, List.isPrefixOf?_eq_some_iff_append_eq.1 found⟩ h

namespace Ordinary

variable {l : String}

theorem tableName_eq (h : Ordinary l) : tableName? l = none := by
  rw [tableName?, after_eq_none (h _ (by decide)), Option.map_none]

theorem calledName_eq (h : Ordinary l) : calledName? l = none := by
  rw [calledName?, after_eq_none (h _ (by decide)), Option.map_none]

theorem opensScan_eq (h : Ordinary l) : opensScan l = false := by
  rw [opensScan, after_eq_none (h _ (by decide)), Option.isSome_none]

theorem endsScan_eq (h : Ordinary l) : endsScan l = false := by
  unfold endsScan
  rw [beq_eq_false_iff_ne]
  intro same
  exact h "NextScan" (by decide) (same ▸ List.prefix_rfl)

end Ordinary

theorem after_atDepth {front : String} (visible : StartsVisibly front) (depth : Nat)
    (rest : String) : after? front (Statement.atDepth depth (front ++ rest)) = some rest.toList := by
  rw [after?, (visible.append rest).content_atDepth, String.toList_append,
    List.isPrefixOf?_eq_some_iff_append_eq]

theorem calledName_callStatement (t : Table String) (depth : Nat) :
    calledName? (Statement.atDepth depth t.callStatement) = some t.name := by
  have visible : StartsVisibly "CallTable " := StartsVisibly.of_test (by decide)
  rw [calledName?, Table.callStatement, after_atDepth visible, Option.map_some, String.ofList_toList]

theorem Scan.exists_text (s : Scan) : ∃ rest, s.text = "Scan(" ++ rest := by
  refine ⟨natText s.interval ++ "," ++ s.unit.text ++ "," ++ natText s.buffer ++ "," ++
    natText s.count ++ ")", ?_⟩
  simp only [text, String.append_assoc]

theorem opensScan_text (s : Scan) (depth : Nat) :
    opensScan (Statement.atDepth depth s.text) = true := by
  have visible : StartsVisibly "Scan(" := StartsVisibly.of_test (by decide)
  obtain ⟨rest, same⟩ := s.exists_text
  rw [opensScan, same, after_atDepth visible, Option.isSome_some]

end Datalogger
