import Datalogger.Proofs.ProgramBody
import Datalogger.Proofs.Progress

/-!
The text of an assembled program, read line by line. Its blocks close in the order in which they were
opened, every line stands at the depth of its block, and the first scan calls all tables that the program
defines, in their order.
-/

namespace Datalogger

open Instruments Assembly
open Text (OneLine fold joinLines)

/-- A program that the logger can take apart into blocks, tables and calls of them. -/
structure WellNested (ls : List String) : Prop where
  /-- No line is refused, and all blocks are closed in the end. -/
  nested : readLines [] ls = some []
  last : ls.getLast? = some "EndProg"
  calls : calledTables ls = definedTables ls
  distinct : ((definedTables ls).map fold).Nodup

def paragraphs (sections : List (List String)) : List String :=
  sections.flatMap (· ++ [""])

theorem paragraphs_append (a b : List (List String)) :
    paragraphs (a ++ b) = paragraphs a ++ paragraphs b :=
  List.flatMap_append

theorem intercalate_concat (sections : List (List String)) (last : List String) :
    [""].intercalate (sections ++ [last]) = paragraphs sections ++ last := by
  induction sections with
  | nil => simp [paragraphs]
  | cons g sections ih =>
    have tail : ∃ h rest, sections ++ [last] = h :: rest := by
      cases sections with
      | nil => exact ⟨last, [], rfl⟩
      | cons h rest => exact ⟨h, rest ++ [last], rfl⟩
    obtain ⟨h, rest, same⟩ := tail
    rw [List.cons_append, same, List.intercalate_cons_cons, ← same, ih]
    simp [paragraphs, List.append_assoc]

structure Front (names : List String) (ls : List String) : Prop where
  nonempty : ls ≠ []
  passage : Passage (fun l => opensScan l = false) 0 ls
  tables : definedTables ls = names

theorem Routine.front {ls : List String} (h : Routine ls) : Front [] ls where
  nonempty := h.nonempty
  passage := h.toPassage.imp fun _ ordinary => ordinary.opensScan_eq
  tables := definedTables_eq_nil fun l member => (h.every l member).tableName_eq

theorem PlainTable.front {t : Table String} (h : PlainTable .singleLine t) :
    Front [t.name] t.lines :=
  ⟨by simp [Table.lines], h.passage_lines, h.definedTables_lines⟩

structure Fronts (names : List String) (sections : List (List String)) : Prop where
  nonempty : ∀ g ∈ sections, g ≠ []
  passage : Passage (fun l => opensScan l = false) 0 (paragraphs sections)
  tables : definedTables (paragraphs sections) = names

namespace Fronts

theorem nil : Fronts [] [] :=
  ⟨by simp, .nil, rfl⟩

theorem single {names : List String} {ls : List String} (h : Front names ls) : Fronts names [ls] := by
  have blank : Passage (fun l => opensScan l = false) 0 [""] := .blank (by decide)
  have last : definedTables [""] = [] := by decide
  refine ⟨by simpa using h.nonempty, ?_, ?_⟩
  · simpa [paragraphs] using h.passage.append blank
  · simpa [paragraphs, definedTables_append, last] using h.tables

theorem append {names more : List String} {a b : List (List String)} (ha : Fronts names a)
    (hb : Fronts more b) : Fronts (names ++ more) (a ++ b) where
  nonempty := List.forall_mem_append.2 ⟨ha.nonempty, hb.nonempty⟩
  passage := by
    rw [paragraphs_append]
    exact ha.passage.append hb.passage
  tables := by
    rw [paragraphs_append, definedTables_append, ha.tables, hb.tables]

theorem routines {sections : List (List String)} (h : ∀ g ∈ sections, Routine g) :
    Fronts [] sections := by
  induction sections with
  | nil => exact nil
  | cons g sections ih =>
    have first := h g List.mem_cons_self
    exact (single first.front).append (ih fun x member => h x (List.mem_cons_of_mem g member))

theorem ofTables {ts : List (Table String)} (h : ∀ t ∈ ts, PlainTable .singleLine t) :
    Fronts (ts.map Table.name) (ts.map Table.lines) := by
  induction ts with
  | nil => exact nil
  | cons t ts ih =>
    have first := h t List.mem_cons_self
    exact (single first.front).append (ih fun x member => h x (List.mem_cons_of_mem t member))

end Fronts

namespace Document.Plain

variable {d : Document}

theorem exists_comments (plain : d.Plain) :
    ∃ sections : List (List String),
      d.commentSections = sections.map joinLines ∧ ∀ g ∈ sections, Routine g := by
  refine exists_groups fun t member => ?_
  rcases List.mem_append.1 member with title | wiring
  · rcases List.mem_cons.1 title with rfl | system
    · exact routine_header plain.name plain.station
    · rw [List.mem_singleton.1 system]
      exact routine_systemConfiguration plain.instruments
  · obtain ⟨p, hp, rfl⟩ := List.mem_map.1 wiring
    obtain ⟨present, wired⟩ := List.mem_filter.1 hp
    exact routine_wiringBlock (plain.instruments p present) (by simpa using wired)

theorem exists_declarations (plain : d.Plain) :
    ∃ sections : List (List String),
      (if d.declarations = [] then [] else [joinLines d.declarations]) = sections.map joinLines ∧
        ∀ g ∈ sections, Routine g := by
  by_cases none : d.declarations = []
  · exact ⟨[], if_pos none, by simp⟩
  · refine ⟨[d.declarations], if_neg none, ?_⟩
    simpa using routine_of_plain none (plainText_of_mem_declarations plain.instruments)

theorem exists_fronts (plain : d.Plain) :
    ∃ sections, Fronts (d.tables.map Table.name) sections ∧
      d.commentSections ++ d.codeSections = sections.map joinLines ++ [joinLines d.bodyParts] := by
  obtain ⟨comments, sameComments, hc⟩ := plain.exists_comments
  obtain ⟨declarations, sameDeclarations, hd⟩ := plain.exists_declarations
  obtain ⟨functions, sameFunctions, hf⟩ := exists_groups plain.functions
  have fronts := ((((Fronts.routines hc).append (.routines hd)).append
    (.single (routine_directives d).front)).append (.ofTables plain.tables)).append (.routines hf)
  refine ⟨_, by simpa using fronts, ?_⟩
  have text : d.tables.map Table.text = (d.tables.map Table.lines).map joinLines := by
    rw [List.map_map]
    rfl
  rw [codeSections, sameComments, sameDeclarations, sameFunctions, text]
  simp

theorem wellNested (plain : d.Plain) : WellNested (Text.lines d.text) := by
  obtain ⟨sections, fronts, written⟩ := plain.exists_fronts
  obtain ⟨body, lines, same⟩ := plain.exists_bodyLines
  have filled : body ≠ [] := by
    rintro rfl
    cases lines.last
  have text : d.text = joinLines (paragraphs sections ++ body) ++ "\n" := by
    have groups : sections.map joinLines ++ [joinLines body] =
        (sections ++ [body]).map joinLines := by simp
    have nonempty : ∀ g ∈ sections ++ [body], g ≠ [] :=
      List.forall_mem_append.2 ⟨fronts.nonempty, by simpa using filled⟩
    rw [Document.text, written, same, groups, Text.intercalate_paragraphs nonempty,
      intercalate_concat]
  have read : Text.lines d.text = paragraphs sections ++ body := by
    rw [text]
    refine Text.lines_joinLines_append_newline ?_ (by simp [filled])
    exact List.forall_mem_append.2 ⟨fronts.passage.oneLine, lines.passage.oneLine⟩
  have defined : definedTables (paragraphs sections ++ body) = d.tables.map Table.name := by
    rw [definedTables_append, fronts.tables, definedTables_eq_nil lines.passage.every,
      List.append_nil]
  rw [read]
  refine ⟨?_, ?_, ?_, ?_⟩
  · exact (fronts.passage.balanced.append lines.passage.balanced) [] rfl
  · rw [List.getLast?_append, lines.last]
    rfl
  · rw [defined]
    exact lines.calls _ fronts.passage.every
  · rw [defined, List.map_map]
    exact plain.distinct

end Document.Plain

structure ProgramRequest.SingleLine (r : ProgramRequest) : Prop where
  name : OneLine r.name
  station : ∀ t ∈ r.options.station, OneLine t
  settings : ∀ i ∈ r.instruments, i.settings.SingleLine

theorem plain_of_reached {request : ProgramRequest} (single : request.SingleLine) {s : Stages}
    (reached : s.Reached builtin request) : (s.document request).Plain := by
  have fits : ∀ r ∈ request.instruments, ∀ D o, Describes D o r.settings → D.Fits .singleLine o :=
    fun r member _ _ describes => describes.singleLine (single.settings r member)
  obtain ⟨contributions, tables, run, plain, plainTables⟩ :=
    exists_reached fits reached.built reached.unique reached.resolved
  have sameContributions : contributions = s.contributions :=
    Except.ok.inj (run.collected.symm.trans reached.collected)
  subst sameContributions
  have sameTables : tables = s.tables := Except.ok.inj (run.merged.symm.trans reached.merged)
  subst sameTables
  refine ⟨single.name, single.station, ?_, plainTables, Table.nodup_merge reached.merged, ?_, ?_, ?_,
    .group ?_, ?_⟩
  · intro p member
    obtain ⟨i, hi, rfl⟩ := List.mem_map.1 member
    obtain ⟨position, present⟩ := List.mem_iff_getElem?.1 hi
    obtain ⟨r, requested, described⟩ := described_at reached.built present
    obtain ⟨D, o, p, describes, made, rfl⟩ := described.exists_design
    refine describes.legible.parts made (single.settings r (List.mem_of_getElem? requested)) ?_
    intro v hv
    exact (ensureUnique_eq_ok_iff.1 reached.unique).1 v
      (mem_allVariables.2 ⟨_, List.mem_map_of_mem hi, hv⟩)
  · intro t member
    obtain ⟨c, hc, given⟩ := List.mem_filterMap.1 member
    exact (plain c hc).preScan t given
  · intro t member
    obtain ⟨c, hc, given⟩ := List.mem_filterMap.1 member
    exact (plain c hc).program t given
  · intro t member
    obtain ⟨c, hc, given⟩ := List.mem_filterMap.1 member
    exact (plain c hc).postScan t given
  · intro x member
    obtain ⟨c, hc, given⟩ := List.mem_filterMap.1 member
    exact (plain c hc).slowSequence x given
  · intro f member
    obtain ⟨c, hc, fs, given, inside⟩ := mem_collectFunctions.1 member
    exact (plain c hc).functions fs given f inside

/-- Whatever instruments a request names and in whatever order, its program is well nested. -/
theorem wellNested_of_assemble {request : ProgramRequest} {d : Document} (single : request.SingleLine)
    (made : assemble builtin request = .ok d) : WellNested (Text.lines d.text) := by
  obtain ⟨s, reached, rfl⟩ := assemble_eq_ok_iff.1 made
  exact (plain_of_reached single reached).wellNested

/-! A charge controller brings a function, a loop inside a choice and a slow sequence; two soil probes share
a slow sequence and two tables. -/

namespace ProgramText

def probe (symbol : Char) (h : symbol.isAlphanum = true) (elevation : Int) : InstrumentSettings :=
  { InstrumentSettings.standard with
    elevation := some elevation
    address := some ⟨symbol, h⟩
    nameInclusion := .elevation }

def controller : InstrumentSettings :=
  { InstrumentSettings.standard with
    label := some "charge"
    params := Dict.empty.insert "modbus_host" (.str "10.0.0.7") }

def garden : ProgramRequest where
  name := "Garden"
  options := ⟨.sequential, true, .standard, ⟨2024, 1, 1⟩, some "South"⟩
  instruments :=
    [⟨"Acclima_TDR310N", probe '1' rfl (-10), .empty⟩, ⟨"ProStar_EMC1", controller, .empty⟩,
      ⟨"Acclima_TDR310N", probe '2' rfl (-30), .empty⟩]

theorem singleLine_probe (symbol : Char) (h : symbol.isAlphanum = true) (elevation : Int) :
    (probe symbol h elevation).SingleLine :=
  ⟨by rintro _ ⟨⟩, by rintro _ _ ⟨⟩⟩

theorem singleLine_controller : controller.SingleLine := by
  constructor
  · rintro _ ⟨⟩
    decide
  · intro name t given
    have host : (if name = "modbus_host" then some (Json.str "10.0.0.7") else none) =
        some (.str t) := by
      rw [← given]
      exact (Dict.get?_insert .empty "modbus_host" name (Json.str "10.0.0.7")).symm
    split at host
    · cases host
      decide
    · cases host

end ProgramText

open ProgramText in
theorem garden_wellNested :
    garden.SingleLine ∧
      ∃ d, assemble builtin garden = .ok d ∧ WellNested (Text.lines d.text) := by
  have single : garden.SingleLine := by
    refine ⟨by decide, by rintro _ ⟨⟩; decide, ?_⟩
    simp only [garden, List.forall_mem_cons]
    exact ⟨singleLine_probe _ _ _, singleLine_controller, singleLine_probe _ _ _, by simp⟩
  have made : ∃ d, assemble builtin garden = .ok d ∧ true = true :=
    Outcome.exists_ok_of_all (by decide +kernel)
  obtain ⟨d, made, _⟩ := made
  exact ⟨single, d, made, wellNested_of_assemble single made⟩

end Datalogger
