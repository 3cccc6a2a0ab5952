import Datalogger.Proofs.Inert
import Datalogger.Proofs.Instruments.Builtin
import Datalogger.Proofs.Isolation

/-!
The outlines of the built-in types are isolated, shape by shape: calls, assignments and comparisons put
separators around what they contain.
-/

namespace Datalogger

variable {ρ : Rewriting}

namespace Template

@[simp] theorem isolated_nil : Isolated ρ [] := ⟨.nil, by simp⟩

@[simp] theorem isolated_singleton {piece : Piece} : Isolated ρ [piece] ↔ piece.Kept ρ :=
  ⟨fun h => h.kept piece List.mem_cons_self, fun h => ⟨.singleton piece, by simpa using h⟩⟩

@[simp] theorem isolated_cons_cons {a b : Piece} {t : Template} :
    Isolated ρ (a :: b :: t) ↔ a.Kept ρ ∧ a.Apart b ∧ Isolated ρ (b :: t) := by
  constructor
  · rintro ⟨chain, kept⟩
    obtain ⟨apart, chain⟩ := List.isChain_cons_cons.1 chain
    obtain ⟨first, kept⟩ := List.forall_mem_cons.1 kept
    exact ⟨first, apart, chain, kept⟩
  · rintro ⟨first, apart, chain, kept⟩
    exact ⟨.cons_cons apart chain, List.forall_mem_cons.2 ⟨first, kept⟩⟩

theorem isolated_cons_of_closes {piece : Piece} (closes : piece.closes = true) {t : Template} :
    Isolated ρ (piece :: t) ↔ piece.Kept ρ ∧ Isolated ρ t := by
  cases t with
  | nil => simp
  | cons next t => simp [Piece.Apart, closes]

theorem isolated_append_of_opens {piece : Piece} (opens : piece.opens = true) {s t : Template} :
    Isolated ρ (s ++ piece :: t) ↔ Isolated ρ s ∧ Isolated ρ (piece :: t) := by
  constructor
  · rintro ⟨chain, kept⟩
    obtain ⟨front, back, _⟩ := List.isChain_append.1 chain
    obtain ⟨keptFront, keptBack⟩ := List.forall_mem_append.1 kept
    exact ⟨⟨front, keptFront⟩, back, keptBack⟩
  · rintro ⟨front, back⟩
    refine ⟨List.isChain_append.2 ⟨front.chain, back.chain, ?_⟩,
      List.forall_mem_append.2 ⟨front.kept, back.kept⟩⟩
    intro a _ b first
    rw [List.head?_cons, Option.mem_some_iff] at first
    exact .inr (first ▸ opens)

@[simp] theorem kept_text {s : String} : (Piece.text s).Kept ρ ↔ ρ.text s = s := Iff.rfl

theorem isolated_intercalate {args : List Template} :
    Isolated ρ ([Piece.text ","].intercalate args) ↔ ∀ a ∈ args, Isolated ρ a := by
  have comma : ρ.text "," = "," := ρ.text_separator (c := ',') (by decide)
  induction args with
  | nil => simp
  | cons a args ih =>
    cases args with
    | nil => simp
    | cons b args =>
      rw [List.intercalate_cons_cons, List.append_assoc, List.singleton_append,
        isolated_append_of_opens (by decide), isolated_cons_of_closes (by decide),
        List.forall_mem_cons]
      simp only [ih, kept_text, comma, true_and]

@[simp] theorem isolated_ofInstruction {i : Instruction Template} :
    Isolated ρ (ofInstruction i) ↔ ρ.text (i.name ++ "(") = i.name ++ "(" ∧
      ∀ a ∈ i.args, Isolated ρ a := by
  have close : ρ.text ")" = ")" := ρ.text_separator (c := ')') (by decide)
  have opened : (Piece.text (i.name ++ "(")).closes = true := by
    simp +decide [Piece.closes]
  rw [ofInstruction, isolated_append_of_opens (by decide), isolated_cons_of_closes opened,
    isolated_intercalate]
  simp [close]

@[simp] theorem isolated_call {name : String} {args : List Template} :
    Isolated ρ (call name args) ↔ ρ.text (name ++ "(") = name ++ "(" ∧ ∀ a ∈ args, Isolated ρ a :=
  isolated_ofInstruction

@[simp] theorem isolated_quoted {t : Template} : Isolated ρ (quoted t) ↔ Isolated ρ t := by
  have mark : ρ.text "\"" = "\"" := ρ.text_separator (c := '"') (by decide)
  rw [quoted, isolated_append_of_opens (by decide), isolated_cons_of_closes (by decide)]
  simp [mark]

theorem text_quoted (s : String) : ρ.text (Instruction.quoted s) = Instruction.quoted (ρ.text s) := by
  have mark : ρ.text "\"" = "\"" := ρ.text_separator (c := '"') (by decide)
  rw [Instruction.quoted, Instruction.quoted, ρ.text_append_of_starts (by decide),
    ρ.text_append_of_ends (by decide), mark]

@[simp] theorem isolated_quotedText {s : String} : Isolated ρ (quotedText s) ↔ ρ.text s = s := by
  rw [quotedText, isolated_singleton, kept_text, text_quoted, Instruction.quoted, Instruction.quoted,
    String.append_left_inj, String.append_right_inj]

@[simp] theorem isolated_var {name : String} : Isolated ρ (var name) := isolated_singleton.2 trivial

@[simp] theorem isolated_register {name : String} : Isolated ρ (register name) :=
  isolated_singleton.2 trivial

@[simp] theorem isolated_terminal {role : String} : Isolated ρ (terminal role) :=
  isolated_singleton.2 trivial

@[simp] theorem isolated_dependency {name : String} : Isolated ρ (dependency name) :=
  isolated_singleton.2 trivial

end Template

namespace Instruments

open Template Instruction

@[simp] theorem isolated_poll {destination line : Template} {address : Sdi12Address}
    {command : String} :
    Isolated ρ (poll destination line address command) ↔
      ρ.text "SDI12Recorder(" = "SDI12Recorder(" ∧ Isolated ρ destination ∧ Isolated ρ line ∧
        ρ.text address.text = address.text ∧ ρ.text command = command ∧
          ρ.text "1" = "1" ∧ ρ.text "0" = "0" ∧ ρ.text "-1" = "-1" := by
  simp [poll]

@[simp] theorem every_assign_isolated {target value : Template} :
    (assign target value).Every (Isolated ρ) (Isolated ρ) (Isolated ρ) ↔
      ρ.text " = " = " = " ∧ Isolated ρ target ∧ Isolated ρ value := by
  rw [assign, Statement.every_line, List.append_assoc, List.singleton_append,
    isolated_append_of_opens (by decide), isolated_cons_of_closes (by decide), kept_text]
  exact and_left_comm

@[simp] theorem isolated_compare {left right : Template} {operator : String} :
    Isolated ρ (compare left operator right) ↔
      Isolated ρ left ∧ ρ.text operator = operator ∧ Isolated ρ right := by
  have space : ρ.text " " = " " := ρ.text_separator (c := ' ') (by decide)
  have shape : compare left operator right =
      left ++ .text " " :: ([.text operator] ++ .text " " :: right) := by
    simp [compare]
  have tail : Isolated ρ (.text " " :: right) ↔ (Piece.text " ").Kept ρ ∧ Isolated ρ right :=
    isolated_cons_of_closes (by decide)
  rw [shape, isolated_append_of_opens (by decide), isolated_cons_of_closes (by decide),
    isolated_append_of_opens (by decide), tail]
  simp [space]

@[simp] theorem items_fiveMinutes {items : List (TableItem Template)} :
    (fiveMinutes.withItems items).items = items := rfl

@[simp] theorem items_statusReport {items : List (TableItem Template)} :
    (statusReport.withItems items).items = items := rfl

@[simp] theorem items_named {name : String} {items : List (TableItem Template)} :
    ((Table.named name).withItems items).items = items := rfl

namespace Barometer

theorem isolated (keep : ρ.Keeps design.renameable) : outline.Isolated ρ where
  tables := by simp +decide [outline, average, keep.text_eq]
  program := by simp +decide [outline, isolated_append_of_opens, keep.text_eq]
  preScan := nofun
  postScan := nofun
  slowSequence := nofun
  functions := nofun

end Barometer

namespace HumidityProbe

theorem isolated (keep : ρ.Keeps design.renameable) : outline.Isolated ρ where
  tables := by simp +decide [outline, average, maximum, minimum, keep.text_eq]
  preScan := by simp +decide [outline, keep.text_eq]
  program := by simp +decide [outline, wake, isolated_cons_of_closes, keep.text_eq]
  postScan := nofun
  slowSequence := nofun
  functions := nofun

end HumidityProbe

namespace Pyranometer

theorem isolated (keep : ρ.Keeps design.renameable) (calibration : Binary64) :
    (outline calibration).Isolated ρ where
  tables := by simp +decide [outline, average, minimum, keep.text_eq]
  preScan := by
    have number := keep _ (inert_number (.of_test (by decide)) calibration)
    simp +decide [outline, number, keep.text_eq]
  program := by simp +decide [outline, keep.text_eq]
  postScan := nofun
  slowSequence := nofun
  functions := nofun

end Pyranometer

namespace PropellerWind

theorem isolated (keep : ρ.Keeps design.renameable) : outline.Isolated ρ where
  tables := by simp +decide [outline, Wind.tables, maximum, totalize, keep.text_eq]
  program := by simp +decide [outline, Wind.calmCheck, keep.text_eq]
  preScan := nofun
  postScan := nofun
  slowSequence := nofun
  functions := nofun

end PropellerWind

namespace UltrasonicWind

theorem isolated (keep : ρ.Keeps design.renameable) : outline.Isolated ρ where
  tables := by simp +decide [outline, Wind.tables, maximum, totalize, keep.text_eq]
  program := by simp +decide [outline, Wind.calmCheck, isolated_append_of_opens, keep.text_eq]
  preScan := nofun
  postScan := nofun
  slowSequence := nofun
  functions := nofun

end UltrasonicWind

namespace Modem

theorem isolated (keep : ρ.Keeps design.renameable) : outline.Isolated ρ where
  preScan := by simp +decide [outline, switchOn, keep.text_eq]
  program := by simp +decide [outline, switchOn, switchOff, keep.text_eq]
  tables := nofun
  postScan := nofun
  slowSequence := nofun
  functions := nofun

end Modem

namespace Camera

theorem renameable_design (descriptor : Descriptor) :
    (design descriptor).renameable = ["Camera_Power", "Camera_Power_Manual"] := rfl

theorem isolated {descriptor : Descriptor} (keep : ρ.Keeps (design descriptor).renameable) :
    outline.Isolated ρ where
  preScan := by
    rw [renameable_design] at keep
    simp +decide [outline, keep.text_eq]
  program := by
    rw [renameable_design] at keep
    simp +decide [outline, applyPower, keep.text_eq]
  tables := nofun
  postScan := nofun
  slowSequence := nofun
  functions := nofun

end Camera

namespace DoorSwitch

theorem isolated (keep : ρ.Keeps design.renameable) : outline.Isolated ρ where
  tables := by simp +decide [outline, maximum, keep.text_eq]
  program := by simp +decide [outline, stale, keep.text_eq]
  preScan := nofun
  postScan := nofun
  slowSequence := nofun
  functions := nofun

end DoorSwitch

namespace PressureProbe

theorem isolated (keep : ρ.Keeps design.renameable) (address : Sdi12Address) :
    (outline address).Isolated ρ where
  tables := by simp +decide [outline, average, sample, keep.text_eq]
  slowSequence := by
    have kept := keep _ (inert_address (by decide) address)
    simp +decide [outline, kept, keep.text_eq]
  preScan := nofun
  program := nofun
  postScan := nofun
  functions := nofun

end PressureProbe

namespace PrecipitationGauge

theorem isolated (keep : ρ.Keeps design.renameable) (address : Sdi12Address) :
    (outline address).Isolated ρ where
  tables := by simp +decide [outline, totalize, maximum, sample, keep.text_eq]
  postScan := by simp +decide [outline, keep.text_eq]
  slowSequence := by
    have kept := keep _ (inert_address (by decide) address)
    simp +decide [outline, kept, keep.text_eq]
  preScan := nofun
  program := nofun
  functions := nofun

end PrecipitationGauge

namespace SnowDepth

theorem isolated (keep : ρ.Keeps design.renameable) (address : Sdi12Address)
    (groundDistance : Binary64) : (outline address groundDistance).Isolated ρ where
  tables := by simp +decide [outline, sample, minimum, keep.text_eq]
  preScan := by
    have number := keep _ (inert_number (.of_test (by decide)) groundDistance)
    simp +decide [outline, restore, groundFile, number, isolated_cons_of_closes,
      isolated_append_of_opens, keep.text_eq]
  program := by simp +decide [outline, keep.text_eq]
  slowSequence := by
    have kept := keep _ (inert_address (by decide) address)
    simp +decide [outline, measure, takeGroundDistance, groundFile, kept, isolated_cons_of_closes,
      isolated_append_of_opens, keep.text_eq]
  postScan := nofun
  functions := nofun

end SnowDepth

namespace SoilProbe

theorem renameable_design (address : Sdi12Address) : (design address).renameable =
    ["soil_vwc", "soil_temp", "soil_perm", "soil_ec_blk", "soil_ec_por"] := rfl

/-- Columns of the archive begin with another letter than the names. -/
theorem inert_column (address : Sdi12Address) {name column : String}
    (listed : (name, column) ∈ elements) :
    Inert (design address).renameable (column ++ "_" ++ address.text) := by
  have columns : ∀ e ∈ elements, wordBytes (Text.bytes e.2) = true ∧
      ∃ n ∈ [118, 116, 112, 98], (Text.bytes e.2).head? = some n := by decide
  have names : ∀ n ∈ (design address).renameable, n.toList.head? = some 's' := by
    have first : ∀ n ∈ ["soil_vwc", "soil_temp", "soil_perm", "soil_ec_blk", "soil_ec_por"],
        (Text.bytes n).head? = some 115 := by decide
    exact fun n member => Text.head?_eq_of_bytes (first n member) (by decide)
  obtain ⟨test, n, other, first⟩ := columns _ listed
  have letters : ∀ n ∈ [118, 116, 112, 98], n < 128 ∧ Char.ofNat n ≠ 's' := by decide
  have starts := Text.head?_eq_of_bytes first (letters n other).1
  have word : Word (column ++ "_" ++ address.text) := by
    refine ⟨by simp, fun c member => ?_⟩
    simp only [String.toList_append, List.mem_append] at member
    rcases member with (member | member) | member
    · exact wordChars_of_test test c member
    · rw [List.mem_singleton.1 member]
      decide
    · exact address.text_chars c member
  refine .of_word word fun there => ?_
  have head := names _ there
  rw [String.toList_append, String.toList_append, List.head?_append, List.head?_append, starts] at head
  exact (letters n other).2 (by simpa using head)

@[simp] theorem items_archive (address : Sdi12Address) :
    (archive address).items = elements.map fun (name, column) =>
      labelled (sample "1" (var name) "FP2") [((column ++ "_" ++ address.text : String) : Template)] :=
  rfl

theorem isolated {address : Sdi12Address} (keep : ρ.Keeps (design address).renameable) :
    (outline address).Isolated ρ where
  tables := by
    have columns : ∀ e ∈ elements, ρ.text (e.2 ++ "_" ++ address.text) =
        e.2 ++ "_" ++ address.text := fun e listed => keep _ (inert_column address listed)
    rw [renameable_design] at keep
    simp only [elements, List.forall_mem_cons] at columns
    simp +decide [outline, observations, elements, sample, keep.text_eq]
    simpa using columns
  slowSequence := by
    rw [renameable_design] at keep
    have kept := keep _ (inert_address (by decide) address)
    simp +decide [outline, kept, isolated_append_of_opens, keep.text_eq]
  preScan := nofun
  program := nofun
  postScan := nofun
  functions := nofun

end SoilProbe

namespace Battery

theorem isolated (keep : ρ.Keeps design.renameable) (shutoff : Binary64) :
    (outline shutoff).Isolated ρ where
  tables := by simp +decide [outline, sample, minimum, keep.text_eq]
  preScan := by
    have number := keep _ (inert_number (.of_test (by decide)) shutoff)
    simp +decide [outline, number, keep.text_eq]
  program := by simp +decide [outline, keep.text_eq]
  postScan := nofun
  slowSequence := nofun
  functions := nofun

end Battery

namespace PanelTemperature

theorem isolated (keep : ρ.Keeps design.renameable) : outline.Isolated ρ where
  tables := by simp +decide [outline, average, keep.text_eq]
  program := by simp +decide [outline, keep.text_eq]
  preScan := nofun
  postScan := nofun
  slowSequence := nofun
  functions := nofun

end PanelTemperature

namespace ChargeController

theorem isolated (keep : ρ.Keeps design.renameable) {host : String} (kept : ρ.text host = host)
    (shutoff : Binary64) : (outline host shutoff).Isolated ρ where
  tables := by simp +decide [outline, elements, sample, minimum, keep.text_eq]
  preScan := by
    have number := keep _ (inert_number (.of_test (by decide)) shutoff)
    simp +decide [outline, number, keep.text_eq]
  functions := by
    have lines : ∀ l ∈ scaleLines, inertBytes design.renameable (Text.bytes l) = true := by decide
    have same : ρ.text scaleFunction = scaleFunction := by
      rw [scaleFunction, ρ.text_joinLines, List.map_congr_left fun l member =>
        keep.text_eq (lines l member), List.map_id']
    simp [outline, same]
  slowSequence := by
    simp +decide [outline, blank, element, kept, isolated_cons_of_closes, isolated_append_of_opens,
      Piece.Apart, keep.text_eq]
  program := nofun
  postScan := nofun

end ChargeController

end Instruments

end Datalogger
