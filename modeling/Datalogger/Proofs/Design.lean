import Datalogger.Assembly
import Datalogger.Outline
import Datalogger.Proofs.Passages
import Datalogger.Proofs.SingleLines
import Datalogger.Proofs.Wiring

/-!
Designs: what all instances of an instrument type have in common. An outline fits a design if it only
refers to what the design has, and then it can be filled for every instance: no lookup fails.
-/

namespace Datalogger

open Text (OneLine fold joinLines)

/-- A requirement on texts that single lines meet and joined texts keep. -/
structure TextLaw where
  holds : String → Prop
  of_oneLine : ∀ {s}, OneLine s → holds s
  append : ∀ {a b}, holds a → holds b → holds (a ++ b)

def TextLaw.anything : TextLaw := ⟨fun _ => True, fun _ => trivial, fun _ _ => trivial⟩

def TextLaw.singleLine : TextLaw := ⟨OneLine, id, fun ha hb => Text.oneLine_append.2 ⟨ha, hb⟩⟩

structure Design where
  descriptor : Descriptor
  wiring : Wiring
  declarations : List Declaration
  dependencies : List Dependency

/-- The first text of a template that is known before it is filled. -/
def Template.stem : Template → String
  | .text s :: _ => s
  | .var name :: _ => name
  | .register name :: _ => name
  | _ => ""

def houseSettings (folded : String) : TableSettings :=
  if folded = "statusreport" then { TableSettings.standard with interval := ⟨0, 120, .minutes, 10⟩ }
  else if folded = "soils" then { TableSettings.standard with cardOut := none }
  else .standard

namespace Design

def build (D : Design) (outline : Outline) (s : InstrumentSettings) : Except Error Instrument :=
  Instrument.build D.descriptor s D.wiring D.declarations D.dependencies outline

def vars (D : Design) : List Variable :=
  D.declarations.flatMap Declaration.vars

def names (D : Design) : List String :=
  D.vars.map Variable.name

def registerNames (D : Design) : List String :=
  (D.declarations.filterMap Declaration.register?).map Register.name

section Outlines

variable (D : Design) (L : TextLaw)

def Knows : Piece → Prop
  | .text s => L.holds s
  | .var name => name ∈ D.names
  | .register name => name ∈ D.registerNames
  | .terminal role => D.wiring.connected role = true
  | .dependency name => name ∈ D.dependencies.map Dependency.name

def Part (t : Template) : Prop :=
  ∀ p ∈ t, D.Knows L p

structure Line (t : Template) : Prop where
  part : D.Part L t
  stem : tells t.stem = true

def Counter (t : Template) : Prop :=
  ∃ name ∈ D.names, t = Template.var name

structure Logic (body : List (Statement Template)) : Prop where
  nonempty : body ≠ []
  every : Statement.EveryIn (D.Line L) (D.Part L) D.Counter body

structure FitsTable (t : Table Template) : Prop where
  name : Word t.name
  settings : t.settings = houseSettings (fold t.name)
  outputs : ∀ i ∈ t.items, D.Line L i.output
  fields : ∀ i ∈ t.items, ∀ f ∈ i.fields, D.Part L f

structure Fits (o : Outline) : Prop where
  tables : ∀ ts ∈ o.tables, ∀ t ∈ ts, D.FitsTable L t
  preScan : ∀ body ∈ o.preScan, D.Logic L body
  program : ∀ body ∈ o.program, D.Logic L body
  postScan : ∀ body ∈ o.postScan, D.Logic L body
  slowSequence : ∀ s ∈ o.slowSequence, OneLine s.id ∧ D.Logic L s.lines
  functions : ∀ fs ∈ o.functions, ∀ f ∈ fs, ∃ ls, Routine ls ∧ f = [.text (joinLines ls)]

end Outlines

/-- An instance and its view of other instruments, in which everything that the design has is a word. -/
structure Serves (D : Design) (p : Parts) (d : Deps) : Prop where
  var : ∀ name ∈ D.names, ∃ suffix, p.var name = .ok (name ++ suffix) ∧ Word (name ++ suffix)
  register : ∀ name ∈ D.registerNames, ∃ r, p.register name = .ok r ∧ r.name = name ∧ Word name
  terminal : ∀ role, D.wiring.connected role = true → ∃ t, p.terminal role = .ok t
  dependency : ∀ name ∈ D.dependencies.map Dependency.name, ∃ t, d.name name = .ok t ∧ Word t

end Design

def Stemmed (L : TextLaw) (t : String) : Prop :=
  L.holds t ∧ ∃ stem rest, tells stem = true ∧ t = stem ++ rest

structure PlainBody (L : TextLaw) (body : List (Statement String)) : Prop where
  nonempty : body ≠ []
  every : Statement.EveryIn (Stemmed L) L.holds Word body

structure PlainTable (L : TextLaw) (t : Table String) : Prop where
  name : Word t.name
  settings : t.settings = houseSettings (fold t.name)
  outputs : ∀ i ∈ t.items, Stemmed L i.output
  fields : ∀ i ∈ t.items, ∀ f ∈ i.fields, L.holds f

def LogicText (L : TextLaw) (t : String) : Prop :=
  ∃ body, PlainBody L body ∧ t = joinLines (Statement.texts body)

structure PlainSequence (L : TextLaw) (s : SlowSequence String) : Prop where
  id : OneLine s.id
  logic : ∃ body, PlainBody L body ∧ s.lines = Statement.texts body

structure PlainContribution (L : TextLaw) (c : Contribution) : Prop where
  tables : ∀ ts ∈ c.tables, ∀ t ∈ ts, PlainTable L t
  preScan : ∀ t ∈ c.preScan, LogicText L t
  program : ∀ t ∈ c.program, LogicText L t
  postScan : ∀ t ∈ c.postScan, LogicText L t
  slowSequence : ∀ s ∈ c.slowSequence, PlainSequence L s
  functions : ∀ fs ∈ c.functions, ∀ f ∈ fs, ∃ ls, Routine ls ∧ f = joinLines ls

namespace Design

variable {D : Design} {L : TextLaw} {p : Parts} {d : Deps}

theorem Serves.fill_piece (serves : D.Serves p d) {piece : Piece} (known : D.Knows L piece) :
    ∃ u, piece.fill p d = .ok u ∧ L.holds u := by
  cases piece with
  | text s => exact ⟨s, rfl, known⟩
  | var name =>
    obtain ⟨suffix, found, word⟩ := serves.var name known
    exact ⟨_, found, L.of_oneLine word.oneLine⟩
  | register name =>
    obtain ⟨r, found, same, word⟩ := serves.register name known
    refine ⟨name, ?_, L.of_oneLine word.oneLine⟩
    rw [Piece.fill, found, ← same]
    rfl
  | terminal role =>
    obtain ⟨t, found⟩ := serves.terminal role known
    refine ⟨t.code, ?_, L.of_oneLine (oneLine_code t)⟩
    rw [Piece.fill, found]
    rfl
  | dependency name =>
    obtain ⟨t, found, word⟩ := serves.dependency name known
    exact ⟨t, found, L.of_oneLine word.oneLine⟩

theorem Serves.fill_part (serves : D.Serves p d) {t : Template} (part : D.Part L t) :
    ∃ u, Template.fill p d t = .ok u ∧ L.holds u := by
  induction t with
  | nil => exact ⟨"", rfl, L.of_oneLine Text.oneLine_empty⟩
  | cons piece rest ih =>
    obtain ⟨front, filled, hf⟩ := serves.fill_piece (part piece List.mem_cons_self)
    obtain ⟨back, later, hb⟩ := ih fun q member => part q (List.mem_cons_of_mem piece member)
    refine ⟨front ++ back, ?_, L.append hf hb⟩
    rw [Template.fill, Outcome.bind_eq_ok_iff]
    exact ⟨front, filled, Outcome.bind_eq_ok_iff.2 ⟨back, later, rfl⟩⟩

theorem Serves.stem_prefix (serves : D.Serves p d) {t : Template} (part : D.Part L t) {u : String}
    (filled : Template.fill p d t = .ok u) : ∃ rest, u = t.stem ++ rest := by
  cases t with
  | nil => exact ⟨u, by simp [Template.stem]⟩
  | cons piece rest =>
    obtain ⟨front, first, filled⟩ := Outcome.bind_eq_ok_iff.1 filled
    obtain ⟨back, _, same⟩ := Outcome.bind_eq_ok_iff.1 filled
    cases same
    have known := part piece List.mem_cons_self
    cases piece with
    | text s =>
      cases first
      exact ⟨back, rfl⟩
    | var name =>
      obtain ⟨suffix, found, _⟩ := serves.var name known
      rw [Piece.fill, found] at first
      cases first
      exact ⟨suffix ++ back, by rw [Template.stem, String.append_assoc]⟩
    | register name =>
      obtain ⟨r, found, same, _⟩ := serves.register name known
      rw [Piece.fill, found] at first
      cases first
      exact ⟨back, by rw [Template.stem, same]⟩
    | terminal role => exact ⟨front ++ back, by simp [Template.stem]⟩
    | dependency name => exact ⟨front ++ back, by simp [Template.stem]⟩

theorem Serves.fill_line (serves : D.Serves p d) {t : Template} (line : D.Line L t) :
    ∃ u, Template.fill p d t = .ok u ∧ Stemmed L u := by
  obtain ⟨u, filled, holds⟩ := serves.fill_part line.part
  obtain ⟨rest, same⟩ := serves.stem_prefix line.part filled
  exact ⟨u, filled, holds, t.stem, rest, line.stem, same⟩

theorem Serves.fill_counter (serves : D.Serves p d) {t : Template} (counter : D.Counter t) :
    ∃ u, Template.fill p d t = .ok u ∧ Word u := by
  obtain ⟨name, member, rfl⟩ := counter
  obtain ⟨suffix, found, word⟩ := serves.var name member
  refine ⟨name ++ suffix, ?_, word⟩
  rw [Template.var, Template.fill, Outcome.bind_eq_ok_iff]
  exact ⟨_, found, by simp [Template.fill, bind, Except.bind, pure, Except.pure]⟩

theorem Serves.fill_body (serves : D.Serves p d) {body : List (Statement Template)}
    (logic : D.Logic L body) :
    ∃ filled, body.mapM (Statement.mapM (Template.fill p d)) = .ok filled ∧ PlainBody L filled := by
  have each : ∀ s ∈ body, ∃ s', s.mapM (Template.fill p d) = .ok s' ∧
      s'.Every (Stemmed L) L.holds Word := fun s member =>
    Statement.mapM_every (fun _ => serves.fill_line) (fun _ => serves.fill_part)
      (fun _ => serves.fill_counter) s (Statement.everyIn_iff.1 logic.every s member)
  obtain ⟨filled, made, every⟩ := Outcome.mapM_ok_of_forall each
  refine ⟨filled, made, ?_, Statement.everyIn_iff.2 every⟩
  rintro rfl
  have same := (Outcome.mapM_eq_ok_iff.1 made).length_eq
  exact logic.nonempty (List.eq_nil_of_length_eq_zero same)

theorem Serves.fill_item (serves : D.Serves p d) {i : TableItem Template} (output : D.Line L i.output)
    (fields : ∀ f ∈ i.fields, D.Part L f) :
    ∃ i', i.mapM (Template.fill p d) = .ok i' ∧ Stemmed L i'.output ∧ ∀ f ∈ i'.fields, L.holds f := by
  obtain ⟨u, filled, stemmed⟩ := serves.fill_line output
  obtain ⟨labels, made, holds⟩ := Outcome.mapM_ok_of_forall fun f member =>
    serves.fill_part (fields f member)
  refine ⟨⟨u, labels⟩, ?_, stemmed, holds⟩
  rw [TableItem.mapM, Outcome.bind_eq_ok_iff]
  exact ⟨u, filled, Outcome.bind_eq_ok_iff.2 ⟨labels, made, rfl⟩⟩

theorem Serves.fill_table (serves : D.Serves p d) {t : Table Template} (fits : D.FitsTable L t) :
    ∃ t', t.mapM (Template.fill p d) = .ok t' ∧ PlainTable L t' := by
  obtain ⟨items, made, plain⟩ := Outcome.mapM_ok_of_forall fun i member =>
    serves.fill_item (fits.outputs i member) (fits.fields i member)
  refine ⟨⟨t.name, t.settings, items⟩, ?_, fits.name, fits.settings, fun i member =>
    (plain i member).1, fun i member => (plain i member).2⟩
  rw [Table.mapM, Outcome.bind_eq_ok_iff]
  exact ⟨items, made, rfl⟩

theorem Serves.fill_logic (serves : D.Serves p d) {body : List (Statement Template)}
    (logic : D.Logic L body) : ∃ t, fillLogic p d body = .ok t ∧ LogicText L t := by
  obtain ⟨filled, made, plain⟩ := serves.fill_body logic
  exact ⟨_, Outcome.map_eq_ok_iff.2 ⟨filled, made, rfl⟩, filled, plain, rfl⟩

theorem Serves.fill_sequence (serves : D.Serves p d) {s : SlowSequence (Statement Template)}
    (id : OneLine s.id) (logic : D.Logic L s.lines) :
    ∃ s', fillSequence p d s = .ok s' ∧ PlainSequence L s' := by
  obtain ⟨filled, made, plain⟩ := serves.fill_body logic
  exact ⟨_, Outcome.map_eq_ok_iff.2 ⟨filled, made, rfl⟩, id, filled, plain, rfl⟩

theorem Serves.fill_function (_ : D.Serves p d) {t : Template}
    (fits : ∃ ls, Routine ls ∧ t = [.text (joinLines ls)]) :
    ∃ u, Template.fill p d t = .ok u ∧ ∃ ls, Routine ls ∧ u = joinLines ls := by
  obtain ⟨ls, routine, rfl⟩ := fits
  refine ⟨joinLines ls, ?_, ls, routine, rfl⟩
  simp [Template.fill, Piece.fill, bind, Except.bind, pure, Except.pure]

/-- Every facet of an instance whose outline fits succeeds. -/
theorem Serves.contribution (serves : D.Serves p d) {o : Outline} (fits : D.Fits L o) :
    ∃ c, (Instrument.ofOutline p o).contribution d = .ok c ∧ PlainContribution L c := by
  obtain ⟨tables, tablesOk, plainTables⟩ := Outcome.option_mapM_ok_of_forall
    (f := List.mapM (Table.mapM (Template.fill p d))) fun ts (same : o.tables = some ts) =>
      Outcome.mapM_ok_of_forall fun t member => serves.fill_table (fits.tables ts same t member)
  obtain ⟨preScan, preScanOk, plainPreScan⟩ := Outcome.option_mapM_ok_of_forall
    fun body (same : o.preScan = some body) => serves.fill_logic (fits.preScan body same)
  obtain ⟨program, programOk, plainProgram⟩ := Outcome.option_mapM_ok_of_forall
    fun body (same : o.program = some body) => serves.fill_logic (fits.program body same)
  obtain ⟨postScan, postScanOk, plainPostScan⟩ := Outcome.option_mapM_ok_of_forall
    fun body (same : o.postScan = some body) => serves.fill_logic (fits.postScan body same)
  obtain ⟨sequence, sequenceOk, plainSequence⟩ := Outcome.option_mapM_ok_of_forall
    fun s (same : o.slowSequence = some s) =>
      serves.fill_sequence (fits.slowSequence s same).1 (fits.slowSequence s same).2
  obtain ⟨functions, functionsOk, plainFunctions⟩ := Outcome.option_mapM_ok_of_forall
    (f := List.mapM (Template.fill p d)) fun fs (same : o.functions = some fs) =>
      Outcome.mapM_ok_of_forall fun t member => serves.fill_function (fits.functions fs same t member)
  refine ⟨⟨p.id, tables, sequence, preScan, program, postScan, functions⟩, ?_, plainTables,
    plainPreScan, plainProgram, plainPostScan, plainSequence, plainFunctions⟩
  simp [Instrument.contribution, Instrument.ofOutline, tablesOk, preScanOk, programOk, postScanOk,
    sequenceOk, functionsOk, Instrument.id, bind, Except.bind, pure, Except.pure]

end Design

end Datalogger
