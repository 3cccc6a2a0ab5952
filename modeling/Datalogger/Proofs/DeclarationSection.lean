import Datalogger.Proofs.Assembly
import Datalogger.Proofs.Declarations
import Datalogger.Instruments.Builtin
import Mathlib.Data.List.Nodup

/-!
The declaration section of a document. Its lines declare the variables of all instruments in program
order, each under its effective name and none twice; names that only label columns are not among them.
-/

namespace Datalogger

open Text (fold joinLines)

def declaredVariables (sets : List VariableSet) : List Variable :=
  (allVariables sets).filter fun v => !v.fieldOnly

def declarationEntries (sets : List VariableSet) : List String :=
  sets.flatMap VariableSet.lines

def Document.laterSections (d : Document) : List String :=
  [joinLines d.directives] ++ d.tables.map Table.text ++ d.functions ++ [joinLines d.bodyParts]

theorem mem_declaredVariables {sets : List VariableSet} {v : Variable} :
    v ∈ declaredVariables sets ↔ v ∈ allVariables sets ∧ v.fieldOnly = false := by
  simp [declaredVariables]

theorem mem_allVariables {sets : List VariableSet} {v : Variable} :
    v ∈ allVariables sets ↔ ∃ s ∈ sets, v ∈ s.vars := by
  simp [allVariables]

/-- The lines read back, instrument by instrument. -/
theorem map_declaredName_entries {sets : List VariableSet}
    (valid : ∀ v ∈ allVariables sets, isIdentifier v.effectiveName = true) :
    (declarationEntries sets).map declaredName? =
      (declaredVariables sets).map fun v => some v.effectiveName := by
  rw [declarationEntries, declaredVariables, allVariables, List.map_flatMap, List.filter_flatMap,
    List.map_flatMap]
  refine congrArg List.flatten (List.map_congr_left fun s member => ?_)
  exact s.map_declaredName_lines fun v hv =>
    valid v (mem_allVariables.2 ⟨s, member, hv⟩)

theorem effectiveNames_nodup {vars : List Variable}
    (distinct : (vars.map fun v => fold v.effectiveName).Nodup) :
    (vars.map Variable.effectiveName).Nodup := by
  rw [List.Nodup, List.pairwise_map] at distinct ⊢
  exact distinct.imp fun apart same => apart (congrArg fold same)

theorem declaredNames_nodup {sets : List VariableSet}
    (distinct : ((allVariables sets).map fun v => fold v.effectiveName).Nodup) :
    ((declaredVariables sets).map Variable.effectiveName).Nodup :=
  (effectiveNames_nodup distinct).sublist (List.filter_sublist.map _)

theorem eq_of_effectiveName_eq {sets : List VariableSet}
    (distinct : ((allVariables sets).map fun v => fold v.effectiveName).Nodup) {v w : Variable}
    (hv : v ∈ allVariables sets) (hw : w ∈ allVariables sets)
    (same : v.effectiveName = w.effectiveName) : v = w :=
  List.inj_on_of_nodup_map (effectiveNames_nodup distinct) hv hw same

theorem Stages.declarations_document (s : Stages) (request : ProgramRequest) :
    (s.document request).declarations = declarationEntries (s.instruments.map Instrument.vars) := by
  simp [Document.declarations, declarationEntries, Stages.document, Assembly.document,
    List.flatMap_map, Instrument.vars]

/-- What the declaration section of a document says about the variables of its instruments. -/
structure Document.DeclaresOnce (d : Document) (sets : List VariableSet) : Prop where
  /-- The entries stand together, behind the comments and in front of the directives. -/
  placed : d.text = "\n\n".intercalate (d.commentSections ++
    (if declarationEntries sets = [] then [] else [joinLines (declarationEntries sets)]) ++
    d.laterSections) ++ "\n"
  names : (declarationEntries sets).map declaredName? =
    (declaredVariables sets).map fun v => some v.effectiveName
  once : ((declaredVariables sets).map Variable.effectiveName).Nodup
  labels : ∀ v ∈ allVariables sets, v.fieldOnly = true →
    ∀ entry ∈ declarationEntries sets, declaredName? entry ≠ some v.effectiveName
  identifiers : ∀ v ∈ allVariables sets, isIdentifier v.effectiveName = true
  distinct : ((allVariables sets).map fun v => fold v.effectiveName).Nodup

namespace DeclarationSection

def mast : InstrumentSettings :=
  { InstrumentSettings.standard with
    label := some "mast"
    elevation := some (-150)
    nameInclusion := .elevation }

def levels : Register :=
  (Register.published "levels" 2).aliasWithUnits 1 "stage" "mm"

def gauge : CatalogEntry where
  descriptor := ⟨"Gauge", "Workshop", "One", "Water"⟩
  requirements := .nothing
  dependencies := []
  build s := Instrument.build ⟨"Gauge", "Workshop", "One", "Water"⟩ s ⟨[], none⟩
    (levels.aliases.map fun a => .scalar a.2) [] {}

def station : ProgramRequest where
  name := "Station"
  options := ⟨.sequential, true, .standard, ⟨2024, 1, 1⟩, some "Ridge"⟩
  instruments := [⟨"Vaisala_HMP155", mast, .empty⟩, ⟨"Setra_CS100", mast, .empty⟩,
    ⟨"Gauge", .standard, .empty⟩]

end DeclarationSection

end Datalogger
