import Datalogger.Proofs.SuffixDistinctness

/-!
What suffixes do to a set of variables. However many are put on one after the other, the last one decides
the effective names and nothing else has changed: everything is found under its declared name as before,
registers keep their own names, and two variables can only come to share a name where a register has the
name that another variable was given.
-/

namespace Datalogger

open Text (fold)

def Variable.bare (v : Variable) : Variable :=
  { v with rename := none }

def Register.bare (r : Register) : Register :=
  { r with
    base := r.base.bare
    aliases := r.aliases.map fun a => (a.1, a.2.bare)
    base_isBase := ⟨r.base_isBase.kind, rfl, r.base_isBase.declared⟩
    alias_isElement := by
      intro a ha
      obtain ⟨b, hb, rfl⟩ := List.mem_map.1 ha
      exact ⟨(r.alias_isElement b hb).kind, (r.alias_isElement b hb).declared⟩ }

def Declaration.bare : Declaration → Declaration
  | scalar v => scalar v.bare
  | register r => register r.bare

namespace VariableSet

/-- A set without its effective names: the owner and the declarations, in order, with all that was
declared of each variable. -/
def bare (s : VariableSet) : VariableSet :=
  { s with declarations := s.declarations.map Declaration.bare }

def suffixedBy (suffixes : List String) (s : VariableSet) : VariableSet :=
  suffixes.foldl (fun s t => s.suffixed t) s

end VariableSet

theorem Register.bare_suffixed (t : String) (r : Register) : (r.suffixed t).bare = r.bare := by
  simp only [bare, suffixed, List.map_map]
  rfl

theorem Register.suffixed_suffixed (t u : String) (r : Register) :
    (r.suffixed t).suffixed u = r.suffixed u := by
  simp only [suffixed, List.map_map]
  rfl

namespace VariableSet

variable {s : VariableSet} {t : String}

theorem bare_suffixed (t : String) (s : VariableSet) : (s.suffixed t).bare = s.bare := by
  have each : ∀ d : Declaration, (d.suffixed t).bare = d.bare := by
    intro d
    cases d with
    | scalar v => rfl
    | register r => exact congrArg Declaration.register (r.bare_suffixed t)
  simp only [bare, suffixed, List.map_map, Function.comp_def, each]

/-- An earlier suffix leaves no trace. -/
theorem suffixed_suffixed (t u : String) (s : VariableSet) :
    (s.suffixed t).suffixed u = s.suffixed u := by
  have each : ∀ d : Declaration, (d.suffixed t).suffixed u = d.suffixed u := by
    intro d
    cases d with
    | scalar v => rfl
    | register r => exact congrArg Declaration.register (r.suffixed_suffixed t u)
  simp only [suffixed, List.map_map, Function.comp_def, each]

theorem suffixedBy_eq {suffixes : List String} (last : suffixes.getLast? = some t) (s : VariableSet) :
    s.suffixedBy suffixes = s.suffixed t := by
  induction suffixes generalizing s with
  | nil => cases last
  | cons u rest ih =>
    cases rest with
    | nil =>
      cases last
      rfl
    | cons w rest =>
      rw [List.getLast?_cons_cons] at last
      exact (ih last (s.suffixed u)).trans (suffixed_suffixed u t s)

theorem vars_bare (s : VariableSet) : s.bare.vars = s.vars.map Variable.bare := by
  rw [vars, vars, bare, List.flatMap_map, List.map_flatMap]
  refine List.flatMap_congr fun d _ => ?_
  cases d with
  | scalar v => rfl
  | register r => simp [Declaration.bare, Declaration.vars, Register.vars, Register.bare]

theorem registers_bare (s : VariableSet) : s.bare.registers = s.registers.map Register.bare := by
  rw [registers, registers, bare, List.filterMap_map, List.map_filterMap]
  refine List.filterMap_congr fun d _ => ?_
  cases d <;> rfl

/-- What is found under a declared name does not depend on effective names. -/
theorem get?_bare (s : VariableSet) (name : String) :
    s.bare.get? name = (s.get? name).map Variable.bare := by
  rw [get?, vars_bare, List.find?_map]
  rfl

theorem register_bare (s : VariableSet) (name : String) :
    s.bare.register name = (s.register name).map Register.bare := by
  have found : (s.registers.map Register.bare).find? (·.name = name) =
      (s.registers.find? (·.name = name)).map Register.bare := by
    rw [List.find?_map]
    rfl
  rw [register, register, registers_bare, found]
  cases s.registers.find? (·.name = name) <;> rfl

theorem mem_vars_iff {v : Variable} :
    v ∈ s.vars ↔ v ∈ s.suffixable ∨ ∃ r ∈ s.registers, v = r.base := by
  have each : ∀ d : Declaration,
      v ∈ d.vars ↔ v ∈ d.suffixable ∨ ∃ r, d.register? = some r ∧ v = r.base := by
    intro d
    cases d with
    | scalar w => simp [Declaration.vars, Declaration.suffixable, Declaration.register?]
    | register r =>
      simp [Declaration.vars, Register.vars, Declaration.suffixable, Declaration.register?, or_comm]
  simp only [vars, suffixable, registers, List.mem_flatMap, List.mem_filterMap, each]
  constructor
  · rintro ⟨d, member, here | ⟨r, same, base⟩⟩
    · exact .inl ⟨d, member, here⟩
    · exact .inr ⟨r, ⟨d, member, same⟩, base⟩
  · rintro (⟨d, member, here⟩ | ⟨r, ⟨d, member, same⟩, base⟩)
    · exact ⟨d, member, .inl here⟩
    · exact ⟨d, member, .inr ⟨r, same, base⟩⟩

theorem base_mem_suffixed {r : Register} (member : r ∈ s.registers) (t : String) :
    r.base ∈ (s.suffixed t).vars := by
  have there : r.suffixed t ∈ (s.suffixed t).registers := by
    rw [registers_suffixed]
    exact List.mem_map_of_mem member
  have base : (r.suffixed t).base ∈ (s.suffixed t).vars := base_mem_vars there
  exact base

theorem name_of_mem (distinct : (s.vars.map Variable.name).Nodup) {v : Variable} (member : v ∈ s.vars) :
    s.name v.name = .ok v.effectiveName := by
  rw [name, get?_of_mem distinct member]

/-- One variable is a register itself, and the other one of those that take suffixes. -/
def BaseAndRenamed (s : VariableSet) (v w : Variable) : Prop :=
  (∃ r ∈ s.registers, v = r.base) ∧ w ∈ s.suffixable

theorem meets_of_suffixed (distinct : (s.vars.map fun v => fold v.name).Nodup) (t : String) :
    (s.suffixed t).vars.Pairwise fun v w => fold v.effectiveName = fold w.effectiveName →
      (s.suffixed t).BaseAndRenamed v w ∨ (s.suffixed t).BaseAndRenamed w v := by
  have apart := List.pairwise_map.1 (nodup_fold_suffixed distinct t)
  refine apart.imp_of_mem fun {v w} hv hw differ same => ?_
  rcases mem_vars_iff.1 hv with renamed | ⟨q, hq, rfl⟩ <;>
    rcases mem_vars_iff.1 hw with renamed' | ⟨r, hr, rfl⟩
  · -- The suffix can be taken off both names.
    rw [effectiveName_of_suffixable renamed, effectiveName_of_suffixable renamed', Text.fold_append,
      Text.fold_append, String.append_left_inj] at same
    exact absurd same differ
  · exact .inr ⟨⟨r, hr, rfl⟩, renamed⟩
  · exact .inl ⟨⟨q, hq, rfl⟩, renamed'⟩
  · rw [Register.effectiveName_base, Register.effectiveName_base] at same
    exact absurd same differ

/-- Of several suffixes the last one decides. It stands behind the names of all variables but the registers,
which keep theirs. Whatever else was declared is unchanged and is found as before, and two variables share a
name, ignoring case, only if one is a register and the other a variable that was renamed. -/
theorem renaming_effect {owner : String} {declarations : List Declaration} {s : VariableSet}
    (built : build owner declarations = .ok s) {suffixes : List String} {t : String}
    (last : suffixes.getLast? = some t) :
    (∀ v ∈ s.suffixable, (s.suffixedBy suffixes).name v.name = .ok (v.name ++ t)) ∧
      (∀ r ∈ s.registers, (s.suffixedBy suffixes).name r.name = .ok r.name) ∧
      (s.suffixedBy suffixes).bare = s.bare ∧
      (∀ n, ((s.suffixedBy suffixes).get? n).map Variable.bare = (s.get? n).map Variable.bare) ∧
      (∀ n, ((s.suffixedBy suffixes).register n).map Register.bare =
        (s.register n).map Register.bare) ∧
      (s.suffixedBy suffixes).vars.Pairwise fun v w => fold v.effectiveName = fold w.effectiveName →
        (s.suffixedBy suffixes).BaseAndRenamed v w ∨ (s.suffixedBy suffixes).BaseAndRenamed w v := by
  rw [suffixedBy_eq last]
  have folded := nodup_of_build built
  have distinct := nodup_names (nodup_fold_suffixed folded t)
  refine ⟨?_, ?_, bare_suffixed t s, ?_, ?_, meets_of_suffixed folded t⟩
  · intro v member
    have renamed : v.suffixed t ∈ (s.suffixed t).suffixable := by
      rw [suffixable_suffixed]
      exact List.mem_map_of_mem member
    exact name_of_mem distinct (mem_vars_iff.2 (.inl renamed))
  · intro r member
    exact (name_of_mem distinct (base_mem_suffixed member t)).trans
      (congrArg Except.ok r.effectiveName_base)
  · intro n
    rw [← get?_bare, bare_suffixed, get?_bare]
  · intro n
    rw [← register_bare, bare_suffixed, register_bare]

/-! A rack that gets a suffix twice. The second time a temperature gets the name of the register. -/

namespace Renaming

def channels : Register :=
  (Register.scratch "t_2" 2).withAlias 1 "volt"

def temperature : Variable := .published "t"

def rack : VariableSet :=
  ⟨"rack", [.register channels, .scalar temperature, .scalar (.field "volt_max")]⟩

end Renaming

open Renaming in
theorem rack_renamed :
    build "rack" rack.declarations = .ok rack ∧
      (rack.suffixedBy ["_1", "_2"]).name "volt_max" = .ok "volt_max_2" ∧
      (rack.suffixedBy ["_1", "_2"]).name "t" = .ok "t_2" ∧
      (rack.suffixedBy ["_1", "_2"]).name "t_2" = .ok "t_2" ∧
      (rack.suffixedBy ["_1", "_2"]).bare = rack.bare ∧
      ((rack.suffixedBy ["_1", "_2"]).BaseAndRenamed channels.base (temperature.suffixed "_2") ∨
        (rack.suffixedBy ["_1", "_2"]).BaseAndRenamed (temperature.suffixed "_2") channels.base) := by
  have built : build "rack" rack.declarations = .ok rack := by decide +kernel
  have last : ["_1", "_2"].getLast? = some "_2" := rfl
  obtain ⟨names, bases, kept, _, _, meets⟩ := renaming_effect built last
  have volt : "volt_max" ++ "_2" = "volt_max_2" := by decide
  have same : "t" ++ "_2" = "t_2" := by decide
  have clash := (List.pairwise_cons.1 meets).1 (temperature.suffixed "_2")
    (List.mem_cons_of_mem _ List.mem_cons_self) (congrArg fold same.symm)
  have field := names (.field "volt_max") (by decide +kernel)
  have scalar := names temperature (by decide +kernel)
  exact ⟨built, volt ▸ field, same ▸ scalar, bases channels List.mem_cons_self, kept, clash⟩

end VariableSet

end Datalogger
