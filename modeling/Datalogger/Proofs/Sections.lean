import Datalogger.Document
import Datalogger.Proofs.Instance
import Datalogger.Proofs.TableCalls

/-!
The sections of a document in front of its body: comments, declarations, directives, tables and
functions. Each is a passage of its own, and only the tables define a table.
-/

namespace Datalogger

open Text (OneLine isBlank joinLines)

theorem Stemmed.plainText {t : String} (h : Stemmed .singleLine t) : PlainText t := by
  obtain ⟨one, stem, rest, clear, rfl⟩ := h
  exact plainText_of_tells clear one

theorem Stemmed.append {L : TextLaw} {a b : String} (ha : Stemmed L a) (hb : L.holds b) :
    Stemmed L (a ++ b) := by
  obtain ⟨holds, stem, rest, clear, rfl⟩ := ha
  exact ⟨L.append holds hb, stem, rest ++ b, clear, String.append_assoc⟩

theorem plainText_comment {t : String} (h : OneLine t) : PlainText ("'" ++ t) :=
  plainText_of_tells (by decide) (Text.oneLine_append.2 ⟨by decide, h⟩)

theorem plainText_head {v : Variable} {rest : String} (h : OneLine rest) :
    PlainText (v.kind.keyword ++ " " ++ rest) := by
  cases v.kind <;>
    exact plainText_of_tells (by decide) (Text.oneLine_append.2 ⟨by decide, h⟩)

theorem Document.systemLine_eq (p : Parts) : systemLine p =
    "'" ++ (p.descriptor.category ++ ": " ++ p.descriptor.manufacturer ++ " " ++ p.descriptor.model ++
      if p.id = p.descriptor.typeId then "" else " (" ++ p.id ++ ")") := by
  simp [systemLine, String.append_assoc]

theorem Document.wiringBlock_eq {p : Parts} (wired : p.wiring.isEmpty = false) : wiringBlock p =
    joinLines (("'Wiring: " ++ (p.id ++ (" (" ++ (p.descriptor.manufacturer ++ " " ++
      p.descriptor.model ++ ")")))) ::
        (p.wiring.wires.map Wire.diagramLine ++ (p.wiring.note.map ("'" ++ ·)).toList)) := by
  have filled : p.wiring.wires ≠ [] := by
    intro none
    simp [Wiring.isEmpty, none] at wired
  rw [← List.singleton_append, Text.joinLines_append (by simp) (by simp [filled])]
  simp [wiringBlock, Wiring.diagram, joinLines, String.append_assoc]

theorem Parts.Drawn.oneLine_system {p : Parts} (h : p.Drawn) : OneLine (p.descriptor.category ++ ": " ++
    p.descriptor.manufacturer ++ " " ++ p.descriptor.model) := by
  have descriptor := h.descriptor
  simp only [List.forall_mem_cons] at descriptor
  obtain ⟨_, manufacturer, model, category, _⟩ := descriptor
  have colon : OneLine ": " := by decide
  have space : OneLine " " := by decide
  simp only [Text.oneLine_append]
  exact ⟨⟨⟨⟨category, colon⟩, manufacturer⟩, space⟩, model⟩

theorem Parts.Drawn.oneLine_type {p : Parts} (h : p.Drawn) :
    OneLine (" (" ++ (p.descriptor.manufacturer ++ " " ++ p.descriptor.model ++ ")")) := by
  have descriptor := h.descriptor
  simp only [List.forall_mem_cons] at descriptor
  obtain ⟨_, manufacturer, model, _⟩ := descriptor
  have opened : OneLine " (" := by decide
  have space : OneLine " " := by decide
  have close : OneLine ")" := by decide
  simp [opened, manufacturer, space, model, close]

theorem plainText_systemLine {p : Parts} (h : p.Legible) : PlainText (Document.systemLine p) := by
  have label : OneLine (if p.id = p.descriptor.typeId then "" else " (" ++ p.id ++ ")") := by
    split
    · exact Text.oneLine_empty
    · have front : OneLine " (" := by decide
      have close : OneLine ")" := by decide
      simp [front, h.id, close]
  rw [Document.systemLine_eq]
  exact plainText_comment (Text.oneLine_append.2 ⟨h.oneLine_system, label⟩)

theorem dropBlankEnd_cons {c : Char} (visible : isBlank c = false) (cs : List Char) :
    Text.dropBlankEnd (c :: cs) = c :: Text.dropBlankEnd cs := by
  have stop : [c].dropWhile isBlank = [c] := List.dropWhile_cons_of_neg (by simp [visible])
  rw [Text.dropBlankEnd, List.reverse_cons, List.dropWhile_append, stop]
  split
  · rename_i empty
    simp [Text.dropBlankEnd, List.isEmpty_iff.1 empty]
  · simp [Text.dropBlankEnd]

/-- Only blanks at the end are trimmed, so the apostrophe stays. -/
theorem exists_diagramLine_eq (w : Wire) : ∃ rest, w.diagramLine = "'" ++ rest := by
  refine ⟨Text.trimEnd (Text.padEnd 8 (w.role ++ ":") ++ " " ++
    Text.padEnd 8 (w.terminal.elim "--" Terminal.label) ++ " " ++ w.description), ?_⟩
  apply String.ext
  simp only [Wire.diagramLine, Text.toList_trimEnd, String.toList_append, List.append_assoc]
  exact dropBlankEnd_cons (by decide) _

theorem Parts.Drawn.exists_comment {p : Parts} (h : p.Drawn) {l : String}
    (member : l ∈ p.wiring.wires.map Wire.diagramLine ++ (p.wiring.note.map ("'" ++ ·)).toList) :
    ∃ t, OneLine t ∧ l = "'" ++ t := by
  rcases List.mem_append.1 member with wire | note
  · obtain ⟨w, hw, rfl⟩ := List.mem_map.1 wire
    obtain ⟨role, description⟩ := h.wires w hw
    obtain ⟨rest, same⟩ := exists_diagramLine_eq w
    have one := oneLine_diagramLine role description
    rw [same] at one
    exact ⟨rest, (Text.oneLine_append.1 one).2, same⟩
  · obtain ⟨t, ht, rfl⟩ := Option.map_eq_some_iff.1 (Option.mem_toList.1 note)
    exact ⟨t, h.note t ht, rfl⟩

theorem routine_header {d : Document} (name : OneLine d.name)
    (station : ∀ t ∈ d.options.station, OneLine t) :
    ∃ ls, Routine ls ∧ d.header = joinLines ls := by
  refine ⟨_, routine_of_plain (by simp) ?_, rfl⟩
  intro l member
  simp only [List.mem_append, List.mem_cons, List.not_mem_nil, or_false] at member
  rcases member with (rfl | rfl) | member
  · exact plainText_of_tells (by decide) (Text.oneLine_append.2 ⟨by decide, name⟩)
  · exact plainText_of_tells (by decide) (Text.oneLine_append.2 ⟨by decide, oneLine_date _⟩)
  · obtain ⟨t, ht, rfl⟩ := Option.map_eq_some_iff.1 (Option.mem_toList.1 member)
    exact plainText_of_tells (by decide) (Text.oneLine_append.2 ⟨by decide, station t ht⟩)

theorem routine_systemConfiguration {d : Document} (legible : ∀ p ∈ d.instruments, p.Legible) :
    ∃ ls, Routine ls ∧ d.systemConfiguration = joinLines ls := by
  refine ⟨_, routine_of_plain (by simp) ?_, rfl⟩
  intro l member
  rcases List.mem_cons.1 member with rfl | member
  · exact plainText_comment (t := "System Configuration") (by decide)
  · obtain ⟨p, hp, rfl⟩ := List.mem_map.1 member
    exact plainText_systemLine (legible p hp)

theorem routine_wiringBlock {p : Parts} (legible : p.Legible) (wired : p.wiring.isEmpty = false) :
    ∃ ls, Routine ls ∧ Document.wiringBlock p = joinLines ls := by
  refine ⟨_, routine_of_plain (by simp) (List.forall_mem_cons.2 ⟨?title, ?diagram⟩),
    Document.wiringBlock_eq wired⟩
  case title =>
    have named := Text.oneLine_append.2 ⟨legible.id, legible.oneLine_type⟩
    exact plainText_of_tells (by decide) (Text.oneLine_append.2 ⟨by decide, named⟩)
  case diagram =>
    intro l member
    obtain ⟨t, one, rfl⟩ := legible.exists_comment member
    exact plainText_comment one

theorem oneLine_typeClause (v : Variable) : OneLine v.typeClause := by
  have front : OneLine " As " := by decide
  unfold Variable.typeClause
  cases v.dataType with
  | none => exact Text.oneLine_empty
  | some t =>
    refine Text.oneLine_append.2 ⟨front, ?_⟩
    cases t with
    | string length =>
      cases length with
      | none => decide
      | some n => exact Text.oneLine_append.2 ⟨by decide, oneLine_natText n⟩
    | _ => decide

theorem oneLine_unitsClause {v : Variable} (name : Word v.effectiveName)
    (units : ∀ t ∈ v.units, OneLine t) : OneLine v.unitsClause := by
  have front : OneLine " : Units " := by decide
  have equals : OneLine " = " := by decide
  unfold Variable.unitsClause
  cases given : v.units with
  | none => exact Text.oneLine_empty
  | some t => simp [front, name.oneLine, equals, units t given]

theorem plainText_declaration {v : Variable} (name : Word v.effectiveName)
    (value : ∀ t ∈ v.value, OneLine t) (units : ∀ t ∈ v.units, OneLine t) :
    PlainText v.declaration := by
  have equals : OneLine " = " := by decide
  have clause : OneLine (v.value.elim "" (" = " ++ ·)) := by
    cases given : v.value with
    | none => exact Text.oneLine_empty
    | some t => exact Text.oneLine_append.2 ⟨equals, value t given⟩
  have rest : OneLine (v.effectiveName ++ (v.typeClause ++ (v.value.elim "" (" = " ++ ·) ++
      v.unitsClause))) := by
    simp [name.oneLine, oneLine_typeClause, clause, oneLine_unitsClause name units]
  simpa [Variable.declaration, String.append_assoc] using plainText_head (v := v) rest

theorem plainText_registerHead {r : Register} (name : Word r.name) : PlainText r.head := by
  have front : OneLine "(" := by decide
  have close : OneLine ")" := by decide
  have rest : OneLine (r.name ++ ("(" ++ (natText r.dimension ++ (")" ++ r.base.typeClause)))) := by
    simp [name.oneLine, front, oneLine_natText, close, oneLine_typeClause]
  simpa [Register.head, String.append_assoc] using plainText_head (v := r.base) rest

theorem plainText_aliasLine {r : Register} (base : Word r.name) (index : Nat) {v : Variable}
    (name : Word v.effectiveName) (units : ∀ t ∈ v.units, OneLine t) :
    PlainText (r.aliasLine index v) := by
  have front : OneLine "Alias " := by decide
  have inner : OneLine "(" := by decide
  have close : OneLine ")" := by decide
  have equals : OneLine " = " := by decide
  have whole : PlainText ("Alias " ++ (r.element (natText index) ++ " = " ++ v.effectiveName ++
      v.unitsClause)) := by
    refine plainText_of_tells (by decide) ?_
    simp [Register.element, front, base.oneLine, inner, oneLine_natText, close, equals,
      name.oneLine, oneLine_unitsClause name units]
  simpa [Register.aliasLine, String.append_assoc] using whole

theorem plainText_declarations {d : Declaration} (names : ∀ v ∈ d.vars, Word v.effectiveName)
    (values : ∀ v ∈ d.vars, (∀ t ∈ v.value, OneLine t) ∧ ∀ t ∈ v.units, OneLine t) :
    ∀ l ∈ d.lines, PlainText l := by
  intro l member
  cases d with
  | scalar v =>
    have own : v ∈ (Declaration.scalar v).vars := by simp [Declaration.vars]
    cases only : v.fieldOnly with
    | true => simp [Declaration.lines, only] at member
    | false =>
      obtain rfl : l = v.declaration := by simpa [Declaration.lines, only] using member
      exact plainText_declaration (names v own) (values v own).1 (values v own).2
  | register r =>
    have base : r.base ∈ (Declaration.register r).vars := by simp [Declaration.vars, Register.vars]
    have word : Word r.name := by
      have effective := names r.base base
      simpa [Variable.effectiveName, r.base_isBase.rename, Register.name] using effective
    rcases List.mem_cons.1 member with rfl | member
    · exact plainText_registerHead word
    · obtain ⟨a, ha, rfl⟩ := List.mem_map.1 member
      have own : a.2 ∈ (Declaration.register r).vars :=
        List.mem_cons_of_mem _ (List.mem_map_of_mem ha)
      exact plainText_aliasLine word a.1 (names a.2 own) (values a.2 own).2

theorem plainText_of_mem_declarations {d : Document} (legible : ∀ p ∈ d.instruments, p.Legible) :
    ∀ l ∈ d.declarations, PlainText l := by
  intro l member
  obtain ⟨p, hp, line⟩ := List.mem_flatMap.1 member
  obtain ⟨declaration, hd, line⟩ := List.mem_flatMap.1 line
  have within : ∀ v ∈ declaration.vars, v ∈ p.vars.vars := fun v hv =>
    List.mem_flatMap.2 ⟨declaration, hd, hv⟩
  exact plainText_declarations (fun v hv => (legible p hp).names v (within v hv))
    (fun v hv => (legible p hp).values v (within v hv)) l line

theorem routine_directives (d : Document) : Routine d.directives := by
  refine routine_of_plain (by simp [Document.directives]) ?_
  have mode : PlainText d.options.mode.directive := by
    cases d.options.mode
    · exact PlainText.of_tells (by decide) (by decide)
    · exact PlainText.of_tells (by decide) (by decide)
  intro l member
  rcases List.mem_append.1 member with preserve | last
  · split at preserve
    · rw [List.mem_singleton.1 preserve]
      exact PlainText.of_tells (by decide) (by decide)
    · cases preserve
  · rw [List.mem_singleton.1 last]
    exact mode

namespace PlainTable

variable {t : Table String}

def inner (t : Table String) : List String :=
  (t.settings.interval.text :: (t.settings.cardOut.map CardOut.text).toList).map
      (Statement.atDepth 1) ++ [""] ++
    (t.items.map TableItem.text).map (Statement.atDepth 1)

theorem lines_eq (t : Table String) :
    t.lines = Statement.atDepth 0 t.head :: inner t ++ [Statement.atDepth 0 "EndTable"] := by
  have step : ∀ l, Table.step l = Statement.atDepth 1 l := fun _ => rfl
  cases card : t.settings.cardOut <;>
    simp [Table.lines, inner, step, card, Function.comp_def]

theorem plainText_item {i : TableItem String} (output : Stemmed .singleLine i.output)
    (fields : ∀ f ∈ i.fields, OneLine f) : PlainText i.text := by
  unfold TableItem.text
  split
  · exact output.plainText
  · have front : OneLine ":FieldNames(" := by decide
    have quote : OneLine "\"" := by decide
    have close : OneLine ")" := by decide
    have labels : OneLine (",".intercalate i.fields) := Text.oneLine_intercalate (by decide) fields
    have rest : OneLine (":FieldNames(" ++ (Instruction.quoted (",".intercalate i.fields) ++ ")")) := by
      simp [Instruction.quoted, front, quote, labels, close]
    simpa [String.append_assoc] using (output.append rest).plainText

theorem passage_inner (h : PlainTable .singleLine t) : Passage Ordinary 1 (inner t) := by
  have settings : ∀ l ∈ t.settings.interval.text :: (t.settings.cardOut.map CardOut.text).toList,
      PlainText l := by
    intro l member
    rcases List.mem_cons.1 member with rfl | member
    · have one := oneLine_interval t.settings.interval
      unfold DataInterval.text at one ⊢
      simp only [String.append_assoc] at one ⊢
      exact plainText_of_tells (by decide) one
    · obtain ⟨c, _, rfl⟩ := Option.map_eq_some_iff.1 (Option.mem_toList.1 member)
      have one := oneLine_cardOut c
      unfold CardOut.text at one ⊢
      simp only [String.append_assoc] at one ⊢
      exact plainText_of_tells (by decide) one
  have items : ∀ l ∈ t.items.map TableItem.text, PlainText l := by
    intro l member
    obtain ⟨i, hi, rfl⟩ := List.mem_map.1 member
    exact plainText_item (h.outputs i hi) (h.fields i hi)
  have blank : Passage Ordinary 1 [""] := .blank ordinary_empty
  exact ((Passage.plain settings).append blank).append (.plain items)

theorem trigger_eq (h : PlainTable .singleLine t) : t.settings.trigger = "True" := by
  rw [h.settings, houseSettings]
  split
  · rfl
  · split <;> rfl

def headRest (t : Table String) : String :=
  t.name ++ ("," ++ ("True" ++ ("," ++ (intText t.settings.size ++ ")"))))

theorem head_eq (h : PlainTable .singleLine t) : t.head = "DataTable(" ++ headRest t := by
  simp only [Table.head, headRest, h.trigger_eq, String.append_assoc]

theorem startsVisibly_head (h : PlainTable .singleLine t) : StartsVisibly t.head := by
  have visible : StartsVisibly "DataTable(" := StartsVisibly.of_test (by decide)
  rw [h.head_eq]
  exact visible.append _

theorem oneLine_head (h : PlainTable .singleLine t) : OneLine t.head := by
  have front : OneLine "DataTable(" := by decide
  have comma : OneLine "," := by decide
  have trigger : OneLine "True" := by decide
  have close : OneLine ")" := by decide
  rw [h.head_eq, headRest]
  simp [front, h.name.oneLine, comma, trigger, oneLine_intText, close]

theorem role_head (h : PlainTable .singleLine t) : role t.head.toList = .opens .table := by
  have found : Keyword.table[0]? = some ⟨"DataTable(", fun _ => some (.opens .table)⟩ := rfl
  have read := @role_append 0 _ (headRest t) _ found (by decide) rfl
  rwa [h.head_eq]

theorem opensScan_head (h : PlainTable .singleLine t) : opensScan t.head = false := by
  have chars := h.startsVisibly_head.content_atDepth 0
  rw [atDepth_zero] at chars
  have other : ¬ "Scan(".toList <+: content t.head := by
    rw [chars, h.head_eq]
    exact not_prefix_of_parted (by decide) (headRest t)
  rw [opensScan, after_eq_none other, Option.isSome_none]

theorem tableName_head (h : PlainTable .singleLine t) : tableName? t.head = some t.name := by
  have visible : StartsVisibly "DataTable(" := StartsVisibly.of_test (by decide)
  have word : ∀ c ∈ t.name.toList, (c != ',') = true := by
    intro c member
    have comma : c ≠ ',' := isWordChar_ne (h.name.chars c member) (by decide)
    simp [comma]
  have found := after_atDepth visible 0 (headRest t)
  rw [atDepth_zero, ← h.head_eq] at found
  rw [tableName?, found, Option.map_some, headRest, String.toList_append,
    takeWhile_name word (by simp), String.ofList_toList]

theorem passage_lines (h : PlainTable .singleLine t) :
    Passage (fun l => opensScan l = false) 0 t.lines := by
  rw [lines_eq]
  refine .block h.startsVisibly_head h.role_head (StartsVisibly.of_test (by decide)) (by decide)
    h.oneLine_head (by decide) ?_ (by decide) (h.passage_inner.imp fun _ plain => plain.opensScan_eq)
  rw [atDepth_zero]
  exact h.opensScan_head

theorem definedTables_lines (h : PlainTable .singleLine t) : definedTables t.lines = [t.name] := by
  have none : definedTables (inner t) = [] :=
    definedTables_eq_nil fun l member => (h.passage_inner.every l member).tableName_eq
  have last : definedTables [Statement.atDepth 0 "EndTable"] = [] := by decide
  have head : definedTables [t.head] = [t.name] := by simp [definedTables, h.tableName_head]
  rw [lines_eq, atDepth_zero, ← List.singleton_append, List.append_assoc, definedTables_append,
    definedTables_append, head, none, last]
  rfl

end PlainTable

end Datalogger
