import Datalogger.Instruments.Conventions
import Datalogger.Proofs.Instance

/-!
Which outlines fit, shape by shape: a call fits if its arguments do, an assignment if its target is a
name of the design and its value fits. What remains for an instrument type are facts about its own names.
-/

namespace Datalogger

open Text (OneLine)

variable {D : Design} {L : TextLaw}

namespace Design

@[simp] theorem part_nil : D.Part L [] := by simp [Part]

@[simp] theorem part_cons {p : Piece} {t : Template} :
    D.Part L (p :: t) ↔ D.Knows L p ∧ D.Part L t := by
  simp [Part]

@[simp] theorem part_append {s t : Template} :
    D.Part L (s ++ t) ↔ D.Part L s ∧ D.Part L t := by
  simp only [Part, List.forall_mem_append]

@[simp] theorem knows_text {s : String} : D.Knows L (.text s) ↔ L.holds s := Iff.rfl

@[simp] theorem part_var {name : String} : D.Part L (Template.var name) ↔ name ∈ D.names := by
  simp [Template.var, Knows]

@[simp] theorem part_register {name : String} :
    D.Part L (Template.register name) ↔ name ∈ D.registerNames := by
  simp [Template.register, Knows]

@[simp] theorem part_terminal {role : String} :
    D.Part L (Template.terminal role) ↔ D.wiring.connected role = true := by
  simp [Template.terminal, Knows]

@[simp] theorem part_dependency {name : String} :
    D.Part L (Template.dependency name) ↔ name ∈ D.dependencies.map Dependency.name := by
  simp [Template.dependency, Knows]

theorem part_intercalate {args : List Template} :
    D.Part L ([Piece.text ","].intercalate args) ↔ ∀ a ∈ args, D.Part L a := by
  have comma : L.holds "," := L.of_oneLine (by decide)
  induction args with
  | nil => simp
  | cons a args ih =>
    cases args with
    | nil => simp
    | cons b args =>
      rw [List.intercalate_cons_cons, part_append, part_append, List.forall_mem_cons]
      simp [comma, ih]

@[simp] theorem part_ofInstruction {i : Instruction Template} :
    D.Part L (Template.ofInstruction i) ↔ L.holds (i.name ++ "(") ∧ ∀ a ∈ i.args, D.Part L a := by
  have close : L.holds ")" := L.of_oneLine (by decide)
  simp [Template.ofInstruction, part_intercalate, close]

@[simp] theorem part_call {name : String} {args : List Template} :
    D.Part L (Template.call name args) ↔ L.holds (name ++ "(") ∧ ∀ a ∈ args, D.Part L a :=
  part_ofInstruction

@[simp] theorem part_quoted {t : Template} : D.Part L (Template.quoted t) ↔ D.Part L t := by
  have mark : L.holds "\"" := L.of_oneLine (by decide)
  simp [Template.quoted, mark]

@[simp] theorem part_quotedText {s : String} :
    D.Part L (Template.quotedText s) ↔ L.holds (Instruction.quoted s) := by
  simp [Template.quotedText]

theorem line_iff {t : Template} : D.Line L t ↔ D.Part L t ∧ tells t.stem = true :=
  ⟨fun h => ⟨h.part, h.stem⟩, fun h => ⟨h.1, h.2⟩⟩

@[simp] theorem line_ofInstruction {i : Instruction Template} :
    D.Line L (Template.ofInstruction i) ↔
      (L.holds (i.name ++ "(") ∧ ∀ a ∈ i.args, D.Part L a) ∧ tells (i.name ++ "(") = true := by
  rw [line_iff, part_ofInstruction]
  rfl

@[simp] theorem line_call {name : String} {args : List Template} :
    D.Line L (Template.call name args) ↔
      (L.holds (name ++ "(") ∧ ∀ a ∈ args, D.Part L a) ∧ tells (name ++ "(") = true :=
  line_ofInstruction

@[simp] theorem knows_var {name : String} : D.Knows L (.var name) ↔ name ∈ D.names := Iff.rfl

@[simp] theorem counter_var {name : String} :
    D.Counter (Template.var name) ↔ name ∈ D.names := by
  constructor
  · rintro ⟨other, member, same⟩
    cases same
    exact member
  · intro member
    exact ⟨name, member, rfl⟩

@[simp] theorem logic_iff {body : List (Statement Template)} :
    D.Logic L body ↔ body ≠ [] ∧ ∀ s ∈ body, s.Every (D.Line L) (D.Part L) D.Counter := by
  rw [← Statement.everyIn_iff]
  exact ⟨fun h => ⟨h.nonempty, h.every⟩, fun h => ⟨h.1, h.2⟩⟩

theorem fitsTable_withItems {t : Table Template} {items : List (TableItem Template)}
    (empty : t.items = []) (name : Word t.name)
    (settings : t.settings = houseSettings (Text.fold t.name)) :
    D.FitsTable L (t.withItems items) ↔
      ∀ i ∈ items, D.Line L i.output ∧ ∀ f ∈ i.fields, D.Part L f := by
  have same : (t.withItems items).items = items := by simp [Table.withItems, empty]
  constructor
  · intro fits i member
    rw [← same] at member
    exact ⟨fits.outputs i member, fits.fields i member⟩
  · intro each
    refine ⟨name, settings, fun i member => ?_, fun i member => ?_⟩
    · exact (each i (same ▸ member)).1
    · exact (each i (same ▸ member)).2

end Design

theorem oneLine_quoted {s : String} (h : OneLine s) : OneLine (Instruction.quoted s) := by
  rw [Instruction.quoted, Text.oneLine_append, Text.oneLine_append]
  exact ⟨⟨by decide, h⟩, by decide⟩

namespace Instruments

@[simp] theorem fitsTable_fiveMinutes {items : List (TableItem Template)} :
    D.FitsTable L (fiveMinutes.withItems items) ↔
      ∀ i ∈ items, D.Line L i.output ∧ ∀ f ∈ i.fields, D.Part L f :=
  Design.fitsTable_withItems rfl (.of_test (by decide) (by decide)) (by cbv)

@[simp] theorem fitsTable_statusReport {items : List (TableItem Template)} :
    D.FitsTable L (statusReport.withItems items) ↔
      ∀ i ∈ items, D.Line L i.output ∧ ∀ f ∈ i.fields, D.Part L f :=
  Design.fitsTable_withItems rfl (.of_test (by decide) (by decide)) (by cbv)

@[simp] theorem output_labelled {i : Instruction Template} {fields : List Template} :
    (labelled i fields).output = Template.ofInstruction i := rfl

@[simp] theorem fields_labelled {i : Instruction Template} {fields : List Template} :
    (labelled i fields).fields = fields := rfl

@[simp] theorem output_unlabelled {i : Instruction Template} :
    (unlabelled i).output = Template.ofInstruction i := rfl

@[simp] theorem fields_unlabelled {i : Instruction Template} : (unlabelled i).fields = [] := rfl

theorem oneLine_address (address : Sdi12Address) : OneLine address.text := fun c member =>
  ⟨isWordChar_ne (address.text_chars c member) (by decide),
    isWordChar_ne (address.text_chars c member) (by decide)⟩

@[simp] theorem part_poll {destination line : Template} {address : Sdi12Address} {command : String} :
    D.Part L (poll destination line address command) ↔
      D.Part L destination ∧ D.Part L line ∧ L.holds (Instruction.quoted command) := by
  have name : L.holds "SDI12Recorder(" := L.of_oneLine (by decide)
  have digits : L.holds "1" ∧ L.holds "0" ∧ L.holds "-1" :=
    ⟨L.of_oneLine (by decide), L.of_oneLine (by decide), L.of_oneLine (by decide)⟩
  have at_ : L.holds (Instruction.quoted address.text) :=
    L.of_oneLine (oneLine_quoted (oneLine_address address))
  simp [poll, name, digits, at_]

@[simp] theorem line_poll {destination line : Template} {address : Sdi12Address} {command : String} :
    D.Line L (poll destination line address command) ↔
      D.Part L destination ∧ D.Part L line ∧ L.holds (Instruction.quoted command) := by
  have clear : tells (poll destination line address command).stem = true := by
    change tells "SDI12Recorder(" = true
    decide
  rw [Design.line_iff, part_poll]
  simp [clear]

@[simp] theorem every_assign {name : String} {value : Template} :
    (assign (Template.var name) value).Every (D.Line L) (D.Part L) D.Counter ↔
      (name ∈ D.names ∧ tells name = true) ∧ D.Part L value := by
  have equals : L.holds " = " := L.of_oneLine (by decide)
  rw [assign, Statement.Every, Design.line_iff]
  simp only [Template.var, List.cons_append, List.nil_append, Design.part_cons, Design.knows_var,
    Design.knows_text, equals, true_and, Template.stem]
  exact and_right_comm

@[simp] theorem part_compare {left right : Template} {operator : String} :
    D.Part L (compare left operator right) ↔ D.Part L left ∧ L.holds operator ∧ D.Part L right := by
  have space : L.holds " " := L.of_oneLine (by decide)
  simp [compare, space]

end Instruments

end Datalogger
