import Datalogger.Proofs.Sections

/-!
The body of a program: one scan that runs the logic and calls the tables, and the slow sequences behind
it. Written out line by line it is one block, whatever the number and the order of the instruments that
contribute to it.
-/

namespace Datalogger

open Text (OneLine Spells joinLines indent)

theorem Statement.texts_append (a b : List (Statement String)) : texts (a ++ b) = texts a ++ texts b := by
  induction a with
  | nil => rfl
  | cons s a ih => rw [List.cons_append, texts, texts, ih, List.cons_append]

theorem PlainBody.append {L : TextLaw} {a b : List (Statement String)} (ha : PlainBody L a)
    (hb : PlainBody L b) : PlainBody L (a ++ b) := by
  refine ⟨?_, ?_⟩
  · simp [ha.nonempty]
  · rw [Statement.everyIn_iff]
    exact List.forall_mem_append.2
      ⟨Statement.everyIn_iff.1 ha.every, Statement.everyIn_iff.1 hb.every⟩

namespace PlainBody

variable {body : List (Statement String)}

theorem plainLines (h : PlainBody .singleLine body) :
    Statement.EveryIn PlainText OneLine Word body :=
  h.every.imp (fun _ stemmed => stemmed.plainText) (fun _ part => part) fun _ name => name

theorem passage (h : PlainBody .singleLine body) (depth : Nat) :
    Passage Ordinary depth (Statement.bodyLinesAt depth body) :=
  .statements h.plainLines

theorem bodyLinesAt_ne_nil (h : PlainBody .singleLine body) (depth : Nat) :
    Statement.bodyLinesAt depth body ≠ [] := by
  cases body with
  | nil => exact absurd rfl h.nonempty
  | cons s rest => simp [Statement.bodyLinesAt, Statement.linesAt_ne_nil]

theorem lineTexts (h : PlainBody .singleLine body) :
    Statement.EveryIn Statement.LineText OneLine OneLine body :=
  h.plainLines.imp (fun _ plain => plain.lineText) (fun _ part => part) fun _ name => name.oneLine

/-- Indenting the finished texts gives the lines at their depth. -/
theorem indent_texts (h : PlainBody .singleLine body) (depth : Nat) :
    indent (joinLines (Statement.texts body)) depth =
      joinLines (Statement.bodyLinesAt depth body) := by
  have spells := Statement.texts_spells h.lineTexts
  have deeper := Statement.bodyLinesAt_add depth 0 body
  rw [spells.joinLines_eq, Statement.indent_lineTexts fun l member =>
    Statement.lineText_of_mem_bodyLinesAt h.lineTexts member]
  rw [← deeper, Nat.add_zero]

end PlainBody

theorem LogicText.exists_passage {t : String} (h : LogicText .singleLine t) (depth : Nat) :
    ∃ ls, (ls ≠ [] ∧ Passage Ordinary depth ls) ∧ indent t depth = joinLines ls := by
  obtain ⟨body, plain, rfl⟩ := h
  exact ⟨_, ⟨plain.bodyLinesAt_ne_nil depth, plain.passage depth⟩, plain.indent_texts depth⟩

theorem exists_groups {P : List String → Prop} {texts : List String}
    (each : ∀ t ∈ texts, ∃ ls, P ls ∧ t = joinLines ls) :
    ∃ groups : List (List String), texts = groups.map joinLines ∧ ∀ g ∈ groups, P g := by
  induction texts with
  | nil => exact ⟨[], rfl, by simp⟩
  | cons t texts ih =>
    obtain ⟨ls, first, same⟩ := each t List.mem_cons_self
    obtain ⟨groups, rest, all⟩ := ih fun x member => each x (List.mem_cons_of_mem t member)
    exact ⟨ls :: groups, by rw [List.map_cons, same, rest], List.forall_mem_cons.2 ⟨first, all⟩⟩

theorem exists_spelled {P : String → Prop} {depth : Nat} {texts : List String}
    (each : ∀ t ∈ texts, ∃ ls, (ls ≠ [] ∧ Passage P depth ls) ∧ t = joinLines ls) :
    ∃ ls, Passage P depth ls ∧ Spells texts ls := by
  obtain ⟨groups, rfl, all⟩ := exists_groups each
  refine ⟨groups.flatMap id, .flatMap fun g member => (all g member).2, groups, ?_, rfl, ?_⟩
  · exact fun g member => (all g member).1
  · rw [List.flatMap_id]

namespace PlainSequence

variable {L : TextLaw}

theorem absorb {s other : SlowSequence String} (hs : PlainSequence L s)
    (ho : PlainSequence L other) : PlainSequence L (s.absorb other) := by
  obtain ⟨body, plain, same⟩ := hs.logic
  obtain ⟨more, plain', same'⟩ := ho.logic
  refine ⟨hs.id, body ++ more, plain.append plain', ?_⟩
  rw [SlowSequence.absorb, same, same', Statement.texts_append]

theorem place {s : SlowSequence String} {g : SlowSequence.Grouping String}
    (hs : PlainSequence L s) (hg : ∀ x ∈ g.items, PlainSequence L x) :
    ∀ x ∈ (s.place g).items, PlainSequence L x := by
  intro x member
  rcases SlowSequence.items_place s g with ⟨_, placed⟩ | ⟨front, first, back, split, _, placed⟩
  · rw [placed] at member
    rcases List.mem_append.1 member with member | member
    · exact hg x member
    · rw [List.mem_singleton.1 member]
      exact hs
  · rw [placed] at member
    rw [split] at hg
    rcases List.mem_append.1 member with member | member
    · exact hg x (List.mem_append_left _ member)
    · rcases List.mem_cons.1 member with rfl | member
      · exact (hg first (by simp)).absorb hs
      · exact hg x (List.mem_append_right _ (List.mem_cons_of_mem _ member))

theorem foldl_place {contributions : List (SlowSequence String)} {g : SlowSequence.Grouping String}
    (hc : ∀ s ∈ contributions, PlainSequence L s) (hg : ∀ x ∈ g.items, PlainSequence L x) :
    ∀ x ∈ (contributions.foldl (fun g s => s.place g) g).items, PlainSequence L x := by
  induction contributions generalizing g with
  | nil => exact hg
  | cons s rest ih =>
    have first := hc s List.mem_cons_self
    exact ih (fun x member => hc x (List.mem_cons_of_mem s member)) (first.place hg)

theorem group {contributions : List (SlowSequence String)}
    (hc : ∀ s ∈ contributions, PlainSequence L s) :
    ∀ x ∈ SlowSequence.group contributions, PlainSequence L x :=
  foldl_place hc (by simp [IndexedList.empty])

end PlainSequence

def Untabled (line : String) : Prop :=
  tableName? line = none

theorem untabled_atDepth {t : String} (visible : StartsVisibly t)
    (apart : ¬ "DataTable(".toList <+: t.toList) (depth : Nat) :
    Untabled (Statement.atDepth depth t) := by
  rw [Untabled, tableName?, after_eq_none (by rwa [visible.content_atDepth]), Option.map_none]

theorem startsVisibly_scan (s : Scan) : StartsVisibly s.text := by
  have front : StartsVisibly "Scan(" := StartsVisibly.of_test (by decide)
  obtain ⟨rest, same⟩ := s.exists_text
  rw [same]
  exact front.append rest

theorem role_scan (s : Scan) : role s.text.toList = .opens .scan := by
  have found : Keyword.table[6]? = some ⟨"Scan(", fun _ => some (.opens .scan)⟩ := rfl
  obtain ⟨rest, same⟩ := s.exists_text
  have read := @role_append 6 _ rest _ found (by decide) rfl
  rwa [same]

theorem untabled_scan (s : Scan) (depth : Nat) : Untabled (Statement.atDepth depth s.text) :=
  by
  obtain ⟨rest, same⟩ := s.exists_text
  refine untabled_atDepth (startsVisibly_scan s) ?_ depth
  rw [same]
  exact not_prefix_of_parted (by decide) rest

theorem passage_scan {depth : Nat} (s : Scan) {body : List String}
    (inner : Passage Untabled (depth + 1) body) :
    Passage Untabled depth
      (Statement.atDepth depth s.text :: body ++ [Statement.atDepth depth "NextScan"]) := by
  have starts : StartsVisibly "NextScan" := StartsVisibly.of_test (by decide)
  exact .block (startsVisibly_scan s) (role_scan s) starts (by decide) (oneLine_scan s) (by decide)
    (untabled_scan s depth) (untabled_atDepth starts (by decide) depth) inner

theorem Passage.untabled {depth : Nat} {ls : List String} (h : Passage Ordinary depth ls) :
    Passage Untabled depth ls :=
  h.imp fun _ ordinary => ordinary.tableName_eq

theorem PlainSequence.exists_passage {s : SlowSequence String} (h : PlainSequence .singleLine s) :
    ∃ ls, (ls ≠ [] ∧ Passage Untabled 1 ls) ∧ indent s.text 1 = joinLines ls := by
  obtain ⟨body, plain, same⟩ := h.logic
  have title : PlainText ("SlowSequence '" ++ s.id) :=
    plainText_of_tells (by decide) (Text.oneLine_append.2 ⟨by decide, h.id⟩)
  have inner : ∀ l ∈ Statement.bodyLinesAt 1 body, Statement.LineText l := fun l member =>
    Statement.lineText_of_mem_bodyLinesAt plain.lineTexts member
  have filled : joinLines (Statement.bodyLinesAt 1 body) ≠ "" :=
    Statement.joinLines_ne_empty inner (plain.bodyLinesAt_ne_nil 1)
  have text : s.text = joinLines (["SlowSequence '" ++ s.id, s.scan.text] ++
      Statement.bodyLinesAt 1 body ++ ["NextScan"]) := by
    have spells : Spells [joinLines (Statement.bodyLinesAt 1 body)] (Statement.bodyLinesAt 1 body) :=
      .single (plain.bodyLinesAt_ne_nil 1)
    have whole := (((Spells.line s.scan.text).cons ("SlowSequence '" ++ s.id)).append spells).append
      (.line "NextScan")
    rw [SlowSequence.text, SlowSequence.logic, same, plain.indent_texts, if_neg filled]
    exact whole.joinLines_eq
  have every : ∀ l ∈ ["SlowSequence '" ++ s.id, s.scan.text] ++ Statement.bodyLinesAt 1 body ++
      ["NextScan"], Statement.LineText l := by
    intro l member
    simp only [List.mem_append, List.mem_cons, List.not_mem_nil, or_false] at member
    rcases member with ((rfl | rfl) | member) | rfl
    · exact title.lineText
    · exact (startsVisibly_scan s.scan).lineText (oneLine_scan s.scan)
    · exact inner l member
    · exact ⟨by decide, by decide⟩
  have deeper : (Statement.bodyLinesAt 1 body).map (Statement.atDepth 1) =
      Statement.bodyLinesAt 2 body := (Statement.bodyLinesAt_add 1 1 body).symm
  have first : Passage Ordinary 1 (["SlowSequence '" ++ s.id].map (Statement.atDepth 1)) :=
    .plain (by simpa using title)
  refine ⟨_, ⟨?_, first.untabled.append (passage_scan s.scan (plain.passage 2).untabled)⟩, ?_⟩
  · simp
  · rw [text, Statement.indent_lineTexts every]
    simp only [List.map_append, List.map_cons, List.map_nil, deeper]
    rfl

/-- The lines of a body: one block, with calls of the given tables in its first scan. -/
structure BodyLines (names : List String) (ls : List String) : Prop where
  passage : Passage Untabled 0 ls
  last : ls.getLast? = some "EndProg"
  calls : ∀ front : List String, (∀ l ∈ front, opensScan l = false) →
    calledTables (front ++ ls) = names

def callLines (tables : List (Table String)) : List String :=
  (tables.map Table.callStatement).map (Statement.atDepth 2)

section Calls

variable {tables : List (Table String)} (plain : ∀ t ∈ tables, PlainTable .singleLine t)

theorem startsVisibly_call (t : Table String) : StartsVisibly t.callStatement :=
  (StartsVisibly.of_test (by decide) : StartsVisibly "CallTable ").append t.name

include plain in
theorem lineText_call : ∀ t ∈ tables, Statement.LineText t.callStatement := by
  intro t ht
  have front : OneLine "CallTable " := by decide
  exact (startsVisibly_call t).lineText (Text.oneLine_append.2 ⟨front, (plain t ht).name.oneLine⟩)

include plain in
theorem passage_callLines : Passage Untabled 2 (callLines tables) := by
  refine .level ?_ ?_ ?_ ?_
  · exact List.forall_mem_map.2 fun t ht => (lineText_call plain t ht).oneLine
  · exact List.forall_mem_map.2 fun t _ => startsVisibly_call t
  · refine List.forall_mem_map.2 fun t _ => ?_
    have clear : (Keyword.table.all fun k => parted k.word "CallTable ") = true := by decide
    exact role_eq_plain fun k member =>
      not_prefix_of_parted (List.all_eq_true.1 clear k member) t.name
  · refine List.forall_mem_map.2 fun t _ => untabled_atDepth (startsVisibly_call t) ?_ 2
    simp [Table.callStatement]

include plain in
theorem indent_calls : (tables.map fun t => indent t.callStatement 2) = callLines tables := by
  rw [callLines, List.map_map]
  exact List.map_congr_left fun t ht => Statement.indent_lineText (lineText_call plain t ht) 2

theorem endsScan_call (t : Table String) (depth : Nat) :
    endsScan (Statement.atDepth depth t.callStatement) = false := by
  rw [endsScan, (startsVisibly_call t).content_atDepth]
  simp [Table.callStatement]

theorem filterMap_callLines (tables : List (Table String)) :
    (callLines tables).filterMap calledName? = tables.map Table.name := by
  rw [callLines, List.map_map, List.filterMap_map]
  induction tables with
  | nil => rfl
  | cons t tables ih =>
    have called : (calledName? ∘ Statement.atDepth 2 ∘ Table.callStatement) t = some t.name :=
      calledName_callStatement t 2
    rw [List.filterMap_cons_some called, List.map_cons, ih]

end Calls

/-- Where the logic around the calls is ordinary, only they call tables, and the scan ends behind them. -/
theorem calledTables_body {before inside after later : List String} (tables : List (Table String))
    (s : Scan) (hb : ∀ l ∈ before, Ordinary l) (hi : ∀ l ∈ inside, Ordinary l)
    (ha : ∀ l ∈ after, Ordinary l) {front : List String} (hf : ∀ l ∈ front, opensScan l = false) :
    calledTables (front ++ ("BeginProg" :: (before ++ (Statement.atDepth 1 s.text ::
      (inside ++ callLines tables ++ after) ++ [Statement.atDepth 1 "NextScan"]) ++ later) ++
      ["EndProg"])) = tables.map Table.name := by
  have split : front ++ ("BeginProg" :: (before ++ (Statement.atDepth 1 s.text ::
      (inside ++ callLines tables ++ after) ++ [Statement.atDepth 1 "NextScan"]) ++ later) ++
      ["EndProg"]) = (front ++ "BeginProg" :: before) ++ Statement.atDepth 1 s.text ::
        ((inside ++ callLines tables ++ after) ++ Statement.atDepth 1 "NextScan" ::
          (later ++ ["EndProg"])) := by
    simp [List.append_assoc]
  have outside : ∀ l ∈ front ++ "BeginProg" :: before, opensScan l = false := by
    refine List.forall_mem_append.2 ⟨hf, List.forall_mem_cons.2 ⟨by decide, ?_⟩⟩
    exact fun l member => (hb l member).opensScan_eq
  have within : ∀ l ∈ inside ++ callLines tables ++ after, endsScan l = false := by
    refine List.forall_mem_append.2 ⟨List.forall_mem_append.2 ⟨?_, ?_⟩, ?_⟩
    · exact fun l member => (hi l member).endsScan_eq
    · refine List.forall_mem_map.2 (List.forall_mem_map.2 fun t _ => endsScan_call t 2)
    · exact fun l member => (ha l member).endsScan_eq
  have silent : ∀ {ls : List String}, (∀ l ∈ ls, Ordinary l) → ls.filterMap calledName? = [] :=
    fun h => List.filterMap_eq_nil_iff.2 fun l member => (h l member).calledName_eq
  rw [calledTables, split, baseScan_eq outside (opensScan_text s 1) within (by decide),
    List.filterMap_append, List.filterMap_append, silent hi, silent ha, filterMap_callLines,
    List.nil_append, List.append_nil]

structure Document.Plain (d : Document) : Prop where
  name : OneLine d.name
  station : ∀ t ∈ d.options.station, OneLine t
  instruments : ∀ p ∈ d.instruments, p.Legible
  tables : ∀ t ∈ d.tables, PlainTable .singleLine t
  distinct : (d.tables.map fun t => Text.fold t.name).Nodup
  preScan : ∀ t ∈ d.preScan, LogicText .singleLine t
  program : ∀ t ∈ d.program, LogicText .singleLine t
  postScan : ∀ t ∈ d.postScan, LogicText .singleLine t
  sequences : ∀ s ∈ d.sequences, PlainSequence .singleLine s
  functions : ∀ f ∈ d.functions, ∃ ls, Routine ls ∧ f = joinLines ls

theorem spells_indented {texts : List String} (plain : ∀ t ∈ texts, LogicText .singleLine t)
    (depth : Nat) :
    ∃ ls, Passage Ordinary depth ls ∧ Spells (texts.map (indent · depth)) ls := by
  refine exists_spelled (List.forall_mem_map.2 fun t ht => ?_)
  exact (plain t ht).exists_passage depth

theorem spells_sequences {sequences : List (SlowSequence String)}
    (plain : ∀ s ∈ sequences, PlainSequence .singleLine s) :
    ∃ ls, Passage Untabled 1 ls ∧
      Spells (sequences.flatMap fun s => ["", indent s.text 1]) ls := by
  refine exists_spelled fun t member => ?_
  obtain ⟨s, hs, ht⟩ := List.mem_flatMap.1 member
  rcases List.mem_cons.1 ht with empty | one
  · have blank : Passage Ordinary 1 [""] := .blank ordinary_empty
    rw [empty]
    exact ⟨[""], ⟨List.cons_ne_nil "" [], blank.untabled⟩, String.intercalate_singleton.symm⟩
  · rw [List.mem_singleton.1 one]
    exact (plain s hs).exists_passage

theorem Document.Plain.exists_bodyLines {d : Document} (plain : d.Plain) :
    ∃ ls, BodyLines (d.tables.map Table.name) ls ∧ joinLines d.bodyParts = joinLines ls := by
  obtain ⟨before, hb, spellsBefore⟩ := spells_indented plain.preScan 1
  obtain ⟨inside, hi, spellsInside⟩ := spells_indented plain.program 2
  obtain ⟨after, ha, spellsAfter⟩ := spells_indented plain.postScan 2
  obtain ⟨later, hl, spellsLater⟩ := spells_sequences plain.sequences
  have scan : Passage Untabled 1 (Statement.atDepth 1 d.options.scan.text ::
      (inside ++ callLines d.tables ++ after) ++ [Statement.atDepth 1 "NextScan"]) :=
    passage_scan _ ((hi.untabled.append (passage_callLines plain.tables)).append ha.untabled)
  have starts : StartsVisibly "BeginProg" := StartsVisibly.of_test (by decide)
  have ends : StartsVisibly "EndProg" := StartsVisibly.of_test (by decide)
  have opens : role "BeginProg".toList = .opens .program := by decide
  have closes : role "EndProg".toList = .closes .program := by decide
  have whole : Passage Untabled 0 (Statement.atDepth 0 "BeginProg" ::
      (before ++ (Statement.atDepth 1 d.options.scan.text ::
        (inside ++ callLines d.tables ++ after) ++ [Statement.atDepth 1 "NextScan"]) ++ later) ++
      [Statement.atDepth 0 "EndProg"]) :=
    .block starts opens ends closes (by decide) (by decide)
      (untabled_atDepth starts (by decide) 0) (untabled_atDepth ends (by decide) 0)
      ((hb.untabled.append scan).append hl)
  rw [atDepth_zero, atDepth_zero] at whole
  refine ⟨_, ⟨whole, List.getLast?_concat, ?_⟩, ?_⟩
  · intro front hf
    exact calledTables_body d.tables d.options.scan hb.every hi.every ha.every hf
  · have first := Statement.indent_lineText
      ((startsVisibly_scan d.options.scan).lineText (oneLine_scan _)) 1
    have last := Statement.indent_lineText (t := "NextScan") ⟨by decide, by decide⟩ 1
    have spells := (((((((Spells.line "BeginProg").append spellsBefore).append
      (.line (Statement.atDepth 1 d.options.scan.text))).append spellsInside).append
      (.refl (callLines d.tables))).append spellsAfter).append
      (.line (Statement.atDepth 1 "NextScan"))).append spellsLater |>.append (.line "EndProg")
    have same := spells.joinLines_eq
    rw [Document.bodyParts, indent_calls plain.tables, first, last, same]
    simp [List.append_assoc]

end Datalogger
