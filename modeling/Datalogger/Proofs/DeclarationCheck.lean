import Datalogger.Proofs.Outcome
import Datalogger.VariableSet

/-!
What the check of an instrument's declarations reports. It accepts declarations whose names differ,
ignoring case, and whose registers have elements and aliases that point at different ones of them; what
was declared can then be looked up by its name. Otherwise it reports the first repeated name, or else the
first faulty register with the first fault that it has.
-/

namespace Datalogger

open Text (fold)

namespace Register

structure Pointed (dimension : Nat) (aliases : List (Nat × Variable)) : Prop where
  inside : ∀ a ∈ aliases, 1 ≤ a.1 ∧ a.1 ≤ dimension
  once : aliases.Pairwise fun a b => a.1 ≠ b.1

structure Declarable (r : Register) : Prop where
  filled : 1 ≤ r.dimension
  pointed : Pointed r.dimension r.aliases

/-- The first thing that is wrong with a register: it has no elements, or its aliases up to some point
are in order and the next one is not. -/
inductive Faulty (r : Register) : RegisterFault → Prop
  | empty (none : r.dimension = 0) : Faulty r .empty
  | outside (front back : List (Nat × Variable)) (index : Nat) (v : Variable)
      (filled : 1 ≤ r.dimension) (split : r.aliases = front ++ (index, v) :: back)
      (clear : Pointed r.dimension front) (out : ¬ (1 ≤ index ∧ index ≤ r.dimension)) :
      Faulty r (.outside v.name index)
  | repeated (front between back : List (Nat × Variable)) (index : Nat) (w v : Variable)
      (filled : 1 ≤ r.dimension)
      (split : r.aliases = (front ++ (index, w) :: between) ++ (index, v) :: back)
      (clear : Pointed r.dimension (front ++ (index, w) :: between)) :
      Faulty r (.repeated index)

end Register

namespace VariableSet

structure Acceptable (declarations : List Declaration) : Prop where
  apart : (declarations.flatMap Declaration.vars).Pairwise fun v w => fold v.name ≠ fold w.name
  registers : ∀ r ∈ declarations.filterMap Declaration.register?, r.Declarable

/-- The error that some declarations lead to. A name that repeats one before it comes first, and is
spelled as it stands there. -/
inductive Refused (owner : String) (declarations : List Declaration) : Error → Prop
  | repeated (before between later : List Variable) (w v : Variable)
      (split : declarations.flatMap Declaration.vars = (before ++ w :: between) ++ v :: later)
      (apart : (before ++ w :: between).Pairwise fun v w => fold v.name ≠ fold w.name)
      (same : fold w.name = fold v.name) :
      Refused owner declarations (.duplicateVariableName v.name owner owner)
  | faulty (before later : List Register) (r : Register) (fault : RegisterFault)
      (apart : (declarations.flatMap Declaration.vars).Pairwise fun v w => fold v.name ≠ fold w.name)
      (split : declarations.filterMap Declaration.register? = before ++ r :: later)
      (sound : ∀ q ∈ before, q.Declarable) (faulty : r.Faulty fault) :
      Refused owner declarations (.invalidDeclaration owner (fault.reason r))

end VariableSet

namespace Register

variable {dimension : Nat} {used : List Nat} {r : Register}

theorem aliasFault?_cons {a : Nat × Variable} {rest : List (Nat × Variable)}
    (inside : 1 ≤ a.1 ∧ a.1 ≤ dimension) :
    aliasFault? dimension used (a :: rest) =
      if a.1 ∈ used then some (.repeated a.1) else aliasFault? dimension (a.1 :: used) rest := by
  have within : (a.1 = 0 || dimension < a.1) = false := by
    simp
    omega
  obtain ⟨index, v⟩ := a
  simp only [aliasFault?]
  rw [if_neg (by simpa using within)]
  simp

theorem aliasFault?_cons_outside {a : Nat × Variable} {rest : List (Nat × Variable)}
    (out : ¬ (1 ≤ a.1 ∧ a.1 ≤ dimension)) :
    aliasFault? dimension used (a :: rest) = some (.outside a.2.name a.1) := by
  have beyond : (a.1 = 0 || dimension < a.1) = true := by
    simp
    omega
  obtain ⟨index, v⟩ := a
  simp only [aliasFault?]
  rw [if_pos beyond]

theorem aliasFault?_append {front : List (Nat × Variable)} (clear : Pointed dimension front)
    (fresh : ∀ a ∈ front, a.1 ∉ used) (rest : List (Nat × Variable)) :
    aliasFault? dimension used (front ++ rest) =
      aliasFault? dimension ((front.map Prod.fst).reverse ++ used) rest := by
  -- What is left behind goes on top of `used`, so it comes out in reverse.
  induction front generalizing used with
  | nil => rfl
  | cons a front ih =>
    have apart := List.pairwise_cons.1 clear.once
    have later : Pointed dimension front :=
      ⟨fun b member => clear.inside b (List.mem_cons_of_mem a member), apart.2⟩
    have others : ∀ b ∈ front, b.1 ∉ a.1 :: used := by
      intro b member
      rw [List.mem_cons, not_or]
      exact ⟨(apart.1 b member).symm, fresh b (List.mem_cons_of_mem a member)⟩
    rw [List.cons_append, aliasFault?_cons (clear.inside a List.mem_cons_self),
      if_neg (fresh a List.mem_cons_self), ih later others]
    simp

theorem aliasFault?_front {front : List (Nat × Variable)} (clear : Pointed dimension front)
    (rest : List (Nat × Variable)) :
    aliasFault? dimension [] (front ++ rest) =
      aliasFault? dimension (front.map Prod.fst).reverse rest := by
  rw [aliasFault?_append clear (by simp), List.append_nil]

theorem fault?_of_filled (filled : 1 ≤ r.dimension) :
    r.fault? = aliasFault? r.dimension [] r.aliases :=
  if_neg (Nat.ne_of_gt filled)

theorem fault?_of_declarable (declarable : r.Declarable) : r.fault? = none := by
  have run := aliasFault?_front declarable.pointed []
  rw [List.append_nil] at run
  rw [fault?_of_filled declarable.filled, run]
  rfl

theorem fault?_of_faulty {fault : RegisterFault} (faulty : r.Faulty fault) : r.fault? = some fault := by
  cases faulty with
  | empty none => exact if_pos none
  | outside front back index v filled split clear out =>
    rw [fault?_of_filled filled, split, aliasFault?_front clear, aliasFault?_cons_outside out]
  | repeated front between back index w v filled split clear =>
    have inside : 1 ≤ index ∧ index ≤ r.dimension := clear.inside (index, w) (by simp)
    have again : aliasFault? r.dimension ((front ++ (index, w) :: between).map Prod.fst).reverse
        ((index, v) :: back) = some (.repeated index) := by
      rw [aliasFault?_cons inside, if_pos (by simp)]
    rw [fault?_of_filled filled, split, aliasFault?_front clear, again]

theorem declarable_or_faulty (r : Register) : r.Declarable ∨ ∃ fault, r.Faulty fault := by
  rcases Nat.eq_zero_or_pos r.dimension with none | filled
  · exact .inr ⟨_, .empty none⟩
  · rcases Outcome.passes_or_first (fun a => 1 ≤ a.1 ∧ a.1 ≤ r.dimension) (fun a b => a.1 ≠ b.1)
        r.aliases with
      ⟨inside, once⟩ |
      ⟨front, ⟨index, v⟩, back, split, inside, once, out | ⟨_, ⟨j, w⟩, member, same⟩⟩
    · exact .inl ⟨filled, inside, once⟩
    · exact .inr ⟨_, .outside front back index v filled split ⟨inside, once⟩ out⟩
    · -- The index stands in its range and was taken by an alias in front.
      obtain rfl : j = index := by simpa using same
      obtain ⟨front, between, rfl⟩ := List.append_of_mem member
      exact .inr ⟨_, .repeated front between back j w v filled split ⟨inside, once⟩⟩

theorem fault?_eq_none_iff : r.fault? = none ↔ r.Declarable := by
  refine ⟨fun none => ?_, fault?_of_declarable⟩
  rcases declarable_or_faulty r with declarable | ⟨fault, faulty⟩
  · exact declarable
  · rw [fault?_of_faulty faulty] at none
    cases none

end Register

namespace VariableSet

theorem firstRepeated_eq_none_iff {seen : List String} {vars : List Variable} :
    firstRepeated seen vars = none ↔
      (vars.map fun v => fold v.name).Nodup ∧ ∀ v ∈ vars, fold v.name ∉ seen := by
  induction vars generalizing seen with
  | nil => simp [firstRepeated]
  | cons v rest ih =>
    have apart : (∀ w ∈ rest, fold w.name ∉ fold v.name :: seen) ↔
        fold v.name ∉ rest.map (fun w => fold w.name) ∧ ∀ w ∈ rest, fold w.name ∉ seen := by
      simp only [List.mem_cons, not_or, List.mem_map, not_exists, not_and]
      exact forall₂_and
    rw [List.map_cons, List.nodup_cons, List.forall_mem_cons, firstRepeated]
    by_cases known : fold v.name ∈ seen
    · simp [known]
    · rw [if_neg (by simpa using known), ih, apart]
      tauto

theorem firstRepeated_append {seen : List String} {front : List Variable}
    (clear : firstRepeated seen front = none) (rest : List Variable) :
    firstRepeated seen (front ++ rest) =
      firstRepeated ((front.map fun v => fold v.name).reverse ++ seen) rest := by
  induction front generalizing seen with
  | nil => rfl
  | cons v front ih =>
    rw [firstRepeated] at clear
    split at clear
    · cases clear
    · rename_i fresh
      rw [List.cons_append, firstRepeated, if_neg fresh, ih clear]
      simp

theorem firstRepeated_of_apart {vars : List Variable}
    (apart : vars.Pairwise fun v w => fold v.name ≠ fold w.name) : firstRepeated [] vars = none :=
  firstRepeated_eq_none_iff.2 ⟨List.pairwise_map.2 apart, by simp⟩

theorem firstRepeated_of_same {front : List Variable} {w v : Variable} (later : List Variable)
    (apart : front.Pairwise fun v w => fold v.name ≠ fold w.name) (member : w ∈ front)
    (same : fold w.name = fold v.name) : firstRepeated [] (front ++ v :: later) = some v := by
  have seen : fold v.name ∈ (front.map fun v => fold v.name).reverse ++ [] := by
    rw [List.append_nil, List.mem_reverse, ← same]
    exact List.mem_map_of_mem member
  rw [firstRepeated_append (firstRepeated_of_apart apart), firstRepeated, if_pos (by simpa using seen)]

theorem firstFault_eq_none_iff {registers : List Register} :
    firstFault registers = none ↔ ∀ r ∈ registers, r.Declarable := by
  simp only [firstFault, List.findSome?_eq_none_iff, Option.map_eq_none_iff, Register.fault?_eq_none_iff]

theorem firstFault_of_faulty {before : List Register} {r : Register} {fault : RegisterFault}
    (later : List Register) (sound : ∀ q ∈ before, q.Declarable) (faulty : r.Faulty fault) :
    firstFault (before ++ r :: later) = some (r, fault) := by
  have clear : firstFault before = none := firstFault_eq_none_iff.2 sound
  rw [firstFault] at clear ⊢
  rw [List.findSome?_append, clear, List.findSome?_cons, Register.fault?_of_faulty faulty]
  rfl

theorem acceptable_or_refused (owner : String) (declarations : List Declaration) :
    Acceptable declarations ∨ ∃ e, Refused owner declarations e := by
  rcases Outcome.passes_or_first (fun _ => True) (fun v w : Variable => fold v.name ≠ fold w.name)
      (declarations.flatMap Declaration.vars) with
    ⟨_, apart⟩ | ⟨front, v, later, split, _, apart, never | ⟨_, w, member, same⟩⟩
  · rcases Outcome.passes_or_first Register.Declarable (fun _ _ => True)
        (declarations.filterMap Declaration.register?) with
      ⟨sound, _⟩ | ⟨before, r, later, split, sound, _, broken | ⟨_, _, _, never⟩⟩
    · exact .inl ⟨apart, sound⟩
    · obtain ⟨fault, faulty⟩ := r.declarable_or_faulty.resolve_left broken
      exact .inr ⟨_, .faulty before later r fault apart split sound faulty⟩
    · exact absurd trivial never
  · exact absurd trivial never
  · obtain ⟨before, between, rfl⟩ := List.append_of_mem member
    exact .inr ⟨_, .repeated before between later w v split apart (by simpa using same)⟩

theorem build_of_acceptable {owner : String} {declarations : List Declaration}
    (acceptable : Acceptable declarations) : build owner declarations = .ok ⟨owner, declarations⟩ := by
  have names : firstRepeated [] (vars ⟨owner, declarations⟩) = none :=
    firstRepeated_of_apart acceptable.apart
  have faults : firstFault (registers ⟨owner, declarations⟩) = none :=
    firstFault_eq_none_iff.2 acceptable.registers
  simp only [build, names, faults]

theorem build_of_refused {owner : String} {declarations : List Declaration} {e : Error}
    (refused : Refused owner declarations e) : build owner declarations = .error e := by
  cases refused with
  | repeated before between later w v split apart same =>
    have names : firstRepeated [] (vars ⟨owner, declarations⟩) = some v := by
      rw [vars, split]
      exact firstRepeated_of_same later apart (by simp) same
    simp only [build, names]
  | faulty before later r fault apart split sound faulty =>
    have names : firstRepeated [] (vars ⟨owner, declarations⟩) = none := firstRepeated_of_apart apart
    have faults : firstFault (registers ⟨owner, declarations⟩) = some (r, fault) := by
      rw [registers, split]
      exact firstFault_of_faulty later sound faulty
    simp only [build, names, faults]

theorem build_exact (owner : String) (declarations : List Declaration) :
    (∀ s, build owner declarations = .ok s ↔
        Acceptable declarations ∧ s = ⟨owner, declarations⟩) ∧
      ∀ e, build owner declarations = .error e ↔ Refused owner declarations e := by
  refine Outcome.exact_of_exhaustive ?_ (fun e => build_of_refused) ?_
  · rintro _ ⟨acceptable, rfl⟩
    exact build_of_acceptable acceptable
  · rcases acceptable_or_refused owner declarations with acceptable | refused
    · exact .inl ⟨_, acceptable, rfl⟩
    · exact .inr refused

theorem nodup_of_build {owner : String} {declarations : List Declaration} {s : VariableSet}
    (built : build owner declarations = .ok s) : (s.vars.map fun v => fold v.name).Nodup := by
  obtain ⟨acceptable, rfl⟩ := ((build_exact owner declarations).1 s).1 built
  exact List.pairwise_map.2 acceptable.apart

theorem find?_key_of_mem {α κ : Type} [DecidableEq κ] {key : α → κ} {xs : List α}
    (distinct : (xs.map key).Nodup) {x : α} (member : x ∈ xs) :
    xs.find? (fun y => key y = key x) = some x := by
  cases found : xs.find? fun y => key y = key x with
  | none => simpa using List.find?_eq_none.1 found x member
  | some y =>
    have same : key y = key x := by simpa using List.find?_some found
    rw [List.inj_on_of_nodup_map distinct (List.mem_of_find?_eq_some found) member same]

/-- The bases of registers are among the variables. -/
theorem map_name_registers_sublist (declarations : List Declaration) :
    ((declarations.filterMap Declaration.register?).map Register.name).Sublist
      ((declarations.flatMap Declaration.vars).map Variable.name) := by
  induction declarations with
  | nil => exact .refl _
  | cons d rest ih =>
    rw [List.flatMap_cons, List.map_append]
    cases d with
    | scalar v => exact ih.cons v.name
    | register r => exact (ih.trans (List.sublist_append_right _ _)).cons_cons r.name

variable {s : VariableSet}

theorem nodup_names (folded : (s.vars.map fun v => fold v.name).Nodup) :
    (s.vars.map Variable.name).Nodup := by
  refine List.Nodup.of_map fold ?_
  rwa [List.map_map]

theorem get?_of_mem (distinct : (s.vars.map Variable.name).Nodup) {v : Variable} (member : v ∈ s.vars) :
    s.get? v.name = some v :=
  find?_key_of_mem distinct member

theorem register_of_mem (distinct : (s.vars.map Variable.name).Nodup) {r : Register}
    (member : r ∈ s.registers) : s.register r.name = .ok r := by
  have bases : (s.registers.map Register.name).Nodup :=
    (map_name_registers_sublist s.declarations).nodup distinct
  rw [register, find?_key_of_mem bases member]

/-- Declarations make up a set exactly if they are acceptable, and otherwise the first fault is reported. A
set holds what was declared and finds each variable and each register by its declared name. -/
theorem declaration_check_outcome (owner : String) (declarations : List Declaration)
    (s : VariableSet) (e : Error) :
    (build owner declarations = .ok s ↔ Acceptable declarations ∧ s = ⟨owner, declarations⟩) ∧
      (build owner declarations = .error e ↔ Refused owner declarations e) ∧
      (build owner declarations = .ok s →
        (∀ v ∈ s.vars, s.get? v.name = some v) ∧ ∀ r ∈ s.registers, s.register r.name = .ok r) := by
  obtain ⟨result, error⟩ := build_exact owner declarations
  refine ⟨result s, error e, fun built => ?_⟩
  have distinct := nodup_names (nodup_of_build built)
  exact ⟨fun _ member => get?_of_mem distinct member, fun _ member => register_of_mem distinct member⟩

/-! A humidity probe, and the same with a name that is repeated in another case behind a register whose
aliases are at fault. -/

namespace DeclarationCheck

def readings : Register :=
  ((Register.published "rhtemp" 2).aliasWithUnits 1 "rh" "%").aliasWithUnits 2 "air_temp" "deg C"

def probe : List Declaration := [.register readings, .scalar (.field "air_temp_max")]

def crowded : List Declaration :=
  [.register (readings.withAlias 2 "dew_point"), .scalar (.published "RH")]

end DeclarationCheck

open DeclarationCheck in
theorem humidity_probe_checked :
    build "probe" probe = .ok ⟨"probe", probe⟩ ∧ Acceptable probe ∧
      get? ⟨"probe", probe⟩ "air_temp_max" = some (.field "air_temp_max") ∧
      register ⟨"probe", probe⟩ "rhtemp" = .ok readings ∧
      build "probe" crowded = .error (.duplicateVariableName "RH" "probe" "probe") := by
  have built : build "probe" probe = .ok ⟨"probe", probe⟩ := by decide +kernel
  have same : fold "rh" = fold "RH" := by
    rw [fold, fold, ← String.toList_inj, String.toList_map, String.toList_map]
    decide +kernel
  have refused : Refused "probe" crowded (.duplicateVariableName "RH" "probe" "probe") :=
    .repeated [readings.base] _ [] ((Variable.ofKind .element "rh").withUnits "%") (.published "RH") rfl
      (by decide +kernel) same
  obtain ⟨accepted, _, found⟩ :=
    declaration_check_outcome "probe" probe ⟨"probe", probe⟩ (.invalidTerminal "")
  obtain ⟨_, reported, _⟩ := declaration_check_outcome "probe" crowded ⟨"probe", crowded⟩
    (.duplicateVariableName "RH" "probe" "probe")
  obtain ⟨named, held⟩ := found built
  exact ⟨built, (accepted.1 built).1, named (.field "air_temp_max") (by decide +kernel),
    held readings List.mem_cons_self, reported.2 refused⟩

end VariableSet

end Datalogger
