import Datalogger.Proofs.NameCheck

/-!
The names of a program. They pass the name check exactly if they are identifiers that differ in more than
case. Where all of them are identifiers, only a repeated one is refused.
-/

namespace Datalogger

open Text (fold)

def allVariables (sets : List VariableSet) : List Variable :=
  sets.flatMap VariableSet.vars

theorem map_snd_ownedVariables (sets : List VariableSet) :
    (ownedVariables sets).map Prod.snd = allVariables sets := by
  simp [ownedVariables, allVariables, List.map_flatMap, Function.comp_def]

theorem clear_ownedVariables_iff {sets : List VariableSet} :
    Visited.Clear (ownedVariables sets) ↔
      (∀ v ∈ allVariables sets, isIdentifier v.effectiveName = true) ∧
        ((allVariables sets).map fun v => fold v.effectiveName).Nodup := by
  rw [← map_snd_ownedVariables, List.forall_mem_map, List.map_map, List.Nodup, List.pairwise_map]
  simp only [identifier_iff]
  exact ⟨fun clear => ⟨clear.valid, clear.apart⟩, fun ⟨valid, apart⟩ => ⟨valid, apart⟩⟩

theorem ensureUnique_eq_ok_iff {sets : List VariableSet} :
    ensureUnique sets = .ok () ↔
      (∀ v ∈ allVariables sets, isIdentifier v.effectiveName = true) ∧
        ((allVariables sets).map fun v => fold v.effectiveName).Nodup :=
  ((ensureUnique_exact sets).1 ()).trans clear_ownedVariables_iff

/-- Where every name is an identifier, only a repeated name is refused. -/
theorem ensureUnique_of_identifiers {sets : List VariableSet}
    (valid : ∀ v ∈ allVariables sets, isIdentifier v.effectiveName = true) :
    ensureUnique sets = .ok () ∨
      ∃ name first second, ensureUnique sets = .error (.duplicateVariableName name first second) := by
  cases outcome : ensureUnique sets with
  | ok => exact .inl rfl
  | error e =>
    right
    cases ((ensureUnique_exact sets).2 e).1 outcome with
    | invalid earlier later owner v split _ broken =>
      have member : v ∈ allVariables sets := by
        rw [← map_snd_ownedVariables, split]
        simp
      exact absurd (identifier_iff.1 (valid v member)) broken
    | repeated => exact ⟨_, _, _, rfl⟩

end Datalogger
