import Datalogger.Proofs.DeclarationSection
import Datalogger.Proofs.ResolutionOutcome

/-!
The names behind dependencies. What an instrument writes for a dependency is the name of a variable
that one other instrument of the same program owns and that one declaration of the document declares.
-/

namespace Datalogger

open Text (fold)

theorem position_eq_of_effectiveName_eq {instruments : List Instrument}
    (distinct : ((allVariables (instruments.map Instrument.vars)).map fun v =>
      fold v.effectiveName).Nodup)
    {j k : Nat} {a b : Instrument} (ha : instruments[j]? = some a) (hb : instruments[k]? = some b)
    {v w : Variable} (hv : v ∈ a.vars.vars) (hw : w ∈ b.vars.vars)
    (same : v.effectiveName = w.effectiveName) : j = k := by
  have names := effectiveNames_nodup distinct
  rw [allVariables, List.flatMap_map, List.map_flatMap, List.nodup_flatMap] at names
  have apart : ∀ {j k : Nat} {a b : Instrument}, instruments[j]? = some a →
      instruments[k]? = some b → ∀ {v w : Variable}, v ∈ a.vars.vars → w ∈ b.vars.vars →
        v.effectiveName = w.effectiveName → ¬ j < k := by
    intro j k a b ha hb v w hv hw same below
    obtain ⟨hj, rfl⟩ := List.getElem?_eq_some_iff.1 ha
    obtain ⟨hk, rfl⟩ := List.getElem?_eq_some_iff.1 hb
    have disjoint := List.pairwise_iff_getElem.1 names.2 j k hj hk below
    exact disjoint (List.mem_map_of_mem hv) (same ▸ List.mem_map_of_mem hw)
  have notLess := apart ha hb hv hw same
  have notGreater := apart hb ha hw hv same.symm
  omega

theorem count_entries {sets : List VariableSet}
    (valid : ∀ v ∈ allVariables sets, isIdentifier v.effectiveName = true)
    (distinct : ((allVariables sets).map fun v => fold v.effectiveName).Nodup) {v : Variable}
    (member : v ∈ declaredVariables sets) :
    (declarationEntries sets).countP (fun e => declaredName? e = some v.effectiveName) = 1 := by
  have names := map_declaredName_entries valid
  have once := declaredNames_nodup distinct
  have counted : ((declarationEntries sets).map declaredName?).count (some v.effectiveName) = 1 := by
    have wrapped : (declaredVariables sets).map (fun w => some w.effectiveName) =
        ((declaredVariables sets).map Variable.effectiveName).map some := by simp
    rw [names, wrapped]
    refine List.count_eq_one_of_mem (once.map (fun _ _ => Option.some.inj)) ?_
    exact List.mem_map_of_mem (List.mem_map_of_mem member)
  rw [List.count_eq_countP, List.countP_map] at counted
  rw [← counted]
  exact List.countP_congr fun e _ => by simp

structure Document.Grounds (d : Document) (instruments : List Instrument) (position : Nat)
    (target : DependencyTarget) (name : String) (at_ : Nat) (source : Instrument) (v : Variable) :
    Prop extends Refers instruments position target at_ source v where
  effective : name = v.effectiveName
  /-- No other instrument owns a variable of that name. -/
  owner : ∀ k i w, instruments[k]? = some i → w ∈ i.vars.vars → w.effectiveName = name → k = at_
  entry : d.declarations.countP (fun e => declaredName? e = some name) = 1

/-- What the facets of the instrument at a position see: the dependencies that it declares, each as the
name of a declared variable of the instrument that its own request names, and nothing else. -/
structure Stages.Grounded (s : Stages) (request : ProgramRequest) (position : Nat) (i : Instrument)
    (r : InstrumentRequest) : Prop where
  ran : ∃ c, s.contributions[position]? = some c ∧
    i.contribution (s.bindings.deps position i.id) = .ok c
  declared : ∀ dependency ∈ i.dependencies, ∃ target name at_ source v,
    r.dependencies.get? dependency.name = some target ∧
      (s.bindings.deps position i.id).name dependency.name = .ok name ∧
      (s.document request).Grounds s.instruments position target name at_ source v
  undeclared : ∀ x, (∀ dependency ∈ i.dependencies, dependency.name ≠ x) →
    (s.bindings.deps position i.id).name x = .error (Deps.notBound i.id x)

namespace DependencyNames

def raised (elevation : Int) : InstrumentSettings :=
  { InstrumentSettings.standard with
    elevation := some elevation
    nameInclusion := .elevation }

def battery (name : String) : DependencyTarget :=
  ⟨"Campbell_CR1000X_Battery", name⟩

def supply : Dict DependencyTarget :=
  .ofList [("battery_voltage", battery "batt_volt"), ("shutoff_voltage", battery "shutoff_voltage")]

def site : ProgramRequest where
  name := "Site"
  options := ⟨.pipeline, false, .standard, ⟨2024, 1, 1⟩, none⟩
  instruments :=
    [⟨"Sierra_RV50X", raised 100, supply⟩, ⟨"Campbell_CR1000X_Battery", raised (-5), .empty⟩,
      ⟨"Sierra_RV50X", raised 200, supply⟩]

end DependencyNames

end Datalogger
