import Datalogger.Naming
import Datalogger.Proofs.Data.NormalForm
import Datalogger.Proofs.Identifiers

/-!
What the program-wide name check reports. Variables are visited in program order, and a variable passes
if its effective name is an identifier that no variable before it has, ignoring case. The check accepts
a program if all variables pass; otherwise it reports the first that does not, together with the owner
of the one earlier variable of its name if it only repeats a name.
-/

namespace Datalogger

open Text (fold)

def IsLetter (c : Char) : Prop :=
  ('A' ≤ c ∧ c ≤ 'Z') ∨ ('a' ≤ c ∧ c ≤ 'z')

def IsDigit (c : Char) : Prop :=
  '0' ≤ c ∧ c ≤ '9'

/-- An ASCII letter, then ASCII letters, digits and underscores to the end of the text. -/
structure Identifier (name : String) : Prop where
  short : name.utf8ByteSize ≤ 39
  spelled : ∃ first rest, name.toList = first :: rest ∧ IsLetter first ∧
    ∀ c ∈ rest, IsLetter c ∨ IsDigit c ∨ c = '_'

abbrev Visited := List (String × Variable)

namespace Visited

def key (o : String × Variable) : String :=
  fold o.2.effectiveName

structure Clear (vars : Visited) : Prop where
  valid : ∀ o ∈ vars, Identifier o.2.effectiveName
  apart : vars.Pairwise fun a b => key a ≠ key b

/-- All variables up to some point pass, and the next one does not. -/
inductive Reported (vars : Visited) : Error → Prop
  | invalid (earlier later : Visited) (owner : String) (v : Variable)
      (split : vars = earlier ++ (owner, v) :: later) (clear : earlier.Clear)
      (broken : ¬ Identifier v.effectiveName) :
      Reported vars (.invalidVariableName v.effectiveName owner)
  | repeated (before between later : Visited) (first owner : String) (w v : Variable)
      (split : vars = (before ++ (first, w) :: between) ++ (owner, v) :: later)
      (clear : Clear (before ++ (first, w) :: between)) (valid : Identifier v.effectiveName)
      (same : key (first, w) = key (owner, v)) (only : ∀ o ∈ before ++ between, key o ≠ key (owner, v)) :
      Reported vars (.duplicateVariableName v.effectiveName first owner)

theorem Clear.exists_only {vars : Visited} (clear : vars.Clear) {p : String × Variable}
    (member : p ∈ vars) :
    ∃ before between, vars = before ++ p :: between ∧ ∀ o ∈ before ++ between, key o ≠ key p := by
  obtain ⟨before, between, split⟩ := List.append_of_mem member
  have apart := clear.apart
  rw [split, List.pairwise_append, List.pairwise_cons] at apart
  obtain ⟨_, ⟨behind, _⟩, front⟩ := apart
  refine ⟨before, between, split, fun o there => ?_⟩
  rcases List.mem_append.1 there with there | there
  · exact front o there p List.mem_cons_self
  · exact (behind o there).symm

theorem clear_or_reported (vars : Visited) : vars.Clear ∨ ∃ e, vars.Reported e := by
  rcases Outcome.passes_or_first (fun o => Identifier o.2.effectiveName) (fun a b => key a ≠ key b) vars with
    ⟨valid, apart⟩ | ⟨front, o, later, split, valid, apart, broken | ⟨passed, p, member, same⟩⟩
  · exact .inl ⟨valid, apart⟩
  · exact .inr ⟨_, .invalid front later o.1 o.2 split ⟨valid, apart⟩ broken⟩
  · have clear : Clear front := ⟨valid, apart⟩
    obtain ⟨before, between, rfl, only⟩ := clear.exists_only member
    have shared : key p = key o := not_not.1 same
    refine .inr ⟨_, .repeated before between later p.1 o.1 p.2 o.2 split clear passed shared ?_⟩
    exact fun q there => shared ▸ only q there

end Visited

open Visited

theorem isAlpha_iff {c : Char} : c.isAlpha = true ↔ IsLetter c := by
  simp [Char.isAlpha, Char.isUpper, Char.isLower, IsLetter, Char.le_def]

theorem isWordChar_iff {c : Char} : isWordChar c = true ↔ IsLetter c ∨ IsDigit c ∨ c = '_' := by
  simp [isWordChar, Char.isAlphanum, isAlpha_iff, IsDigit, Char.isDigit, Char.le_def, or_assoc]

theorem identifier_iff {name : String} : isIdentifier name = true ↔ Identifier name := by
  rw [isIdentifier_iff]
  simp only [isAlpha_iff, isWordChar_iff]
  exact ⟨fun ⟨short, spelled⟩ => ⟨short, spelled⟩, fun ⟨short, spelled⟩ => ⟨short, spelled⟩⟩

def takenBy (vars : Visited) : List (String × String) :=
  (vars.map fun o => (key o, o.1)).reverse

theorem takenBy_concat (vars : Visited) (o : String × Variable) :
    takenBy (vars ++ [o]) = (key o, o.1) :: takenBy vars := by
  simp [takenBy]

theorem lookup_takenBy_eq_none_iff {vars : Visited} {name : String} :
    (takenBy vars).lookup name = none ↔ ∀ o ∈ vars, key o ≠ name := by
  have names : (takenBy vars).map Prod.fst = (vars.map key).reverse := by simp [takenBy]
  rw [lookup_eq_none_iff, names, List.mem_reverse, List.mem_map]
  simp only [not_exists, not_and, ne_eq]

theorem lookup_takenBy_of_only {before between : Visited} {o : String × Variable}
    (only : ∀ p ∈ before ++ between, key p ≠ key o) :
    (takenBy (before ++ o :: between)).lookup (key o) = some o.1 := by
  have behind : (takenBy between).lookup (key o) = none :=
    lookup_takenBy_eq_none_iff.2 fun p member => only p (List.mem_append_right before member)
  have parts : takenBy (before ++ o :: between) = takenBy between ++ (key o, o.1) :: takenBy before := by
    simp [takenBy]
  rw [parts, List.lookup_append, behind, Option.none_or, List.lookup_cons_self]

theorem nameFault_of_passing {vars rest : Visited} {o : String × Variable}
    (valid : Identifier o.2.effectiveName) (fresh : ∀ p ∈ vars, key p ≠ key o) :
    nameFault? (takenBy vars) (o :: rest) = nameFault? (takenBy (vars ++ [o])) rest := by
  have free : (takenBy vars).lookup (fold o.2.effectiveName) = none :=
    lookup_takenBy_eq_none_iff.2 fresh
  rw [nameFault?, identifier_iff.2 valid, free, takenBy_concat]
  rfl

theorem nameFault_append {passed vars : Visited} (clear : Clear (passed ++ vars)) (rest : Visited) :
    nameFault? (takenBy passed) (vars ++ rest) = nameFault? (takenBy (passed ++ vars)) rest := by
  induction vars generalizing passed with
  | nil => simp
  | cons o vars ih =>
    have regroup : passed ++ o :: vars = (passed ++ [o]) ++ vars := by simp
    have apart := (List.pairwise_append.1 clear.apart).2.2
    have fresh : ∀ p ∈ passed, key p ≠ key o := fun p member => apart p member o List.mem_cons_self
    rw [List.cons_append, nameFault_of_passing (clear.valid o (by simp)) fresh,
      ih (regroup ▸ clear), ← regroup]

theorem nameFault_front {front : Visited} (clear : front.Clear) (rest : Visited) :
    nameFault? [] (front ++ rest) = nameFault? (takenBy front) rest :=
  @nameFault_append [] front clear rest

theorem nameFault_of_clear {vars : Visited} (clear : vars.Clear) : nameFault? [] vars = none := by
  have run := nameFault_front clear []
  rwa [List.append_nil] at run

theorem nameFault_of_reported {vars : Visited} {e : Error} (reported : vars.Reported e) :
    nameFault? [] vars = some e := by
  cases reported with
  | invalid earlier later owner v split clear broken =>
    have refused : isIdentifier v.effectiveName = false := by
      rw [← Bool.not_eq_true, identifier_iff]
      exact broken
    rw [split, nameFault_front clear, nameFault?, refused]
    rfl
  | repeated before between later first owner w v split clear valid same only =>
    have owned := @lookup_takenBy_of_only before between (first, w) fun p member => same.symm ▸ only p member
    rw [same] at owned
    change List.lookup (fold v.effectiveName) _ = some first at owned
    rw [split, nameFault_front clear, nameFault?, identifier_iff.2 valid, owned]
    rfl

theorem ensureUnique_exact (sets : List VariableSet) :
    (∀ u, ensureUnique sets = .ok u ↔ Clear (ownedVariables sets)) ∧
      ∀ e, ensureUnique sets = .error e ↔ Reported (ownedVariables sets) e := by
  refine Outcome.exact_of_exhaustive ?_ ?_ ?_
  · intro _ clear
    rw [ensureUnique, nameFault_of_clear clear]
  · intro e reported
    rw [ensureUnique, nameFault_of_reported reported]
  · rcases clear_or_reported (ownedVariables sets) with clear | reported
    · exact .inl ⟨(), clear⟩
    · exact .inr reported

theorem ensureUnique_ne_duplicate {sets : List VariableSet}
    (apart : (ownedVariables sets).Pairwise fun a b => key a ≠ key b) (name first second : String) :
    ensureUnique sets ≠ .error (.duplicateVariableName name first second) := by
  intro failed
  cases ((ensureUnique_exact sets).2 _).1 failed with
  | repeated before between later first owner w v split clear valid same only =>
    rw [split, List.pairwise_append] at apart
    exact apart.2.2 (first, w) (by simp) (second, v) List.mem_cons_self same

end Datalogger
