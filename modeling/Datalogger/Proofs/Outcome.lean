import Mathlib

/-!
Computations that may fail, opened step by step. A traversal of a list succeeds exactly when every
element does, and its results stand in the order of the elements.
-/

namespace Datalogger.Outcome

variable {α β ε : Type}

theorem bind_eq_ok_iff {x : Except ε α} {f : α → Except ε β} {b : β} :
    (x >>= f) = .ok b ↔ ∃ a, x = .ok a ∧ f a = .ok b := by
  cases x with
  | error e => simp [bind, Except.bind]
  | ok a => simp [bind, Except.bind]

theorem bind_eq_error_iff {x : Except ε α} {f : α → Except ε β} {e : ε} :
    (x >>= f) = .error e ↔ x = .error e ∨ ∃ a, x = .ok a ∧ f a = .error e := by
  cases x with
  | error e' => simp [bind, Except.bind]
  | ok a => simp [bind, Except.bind]

theorem map_eq_ok_iff {x : Except ε α} {f : α → β} {b : β} :
    x.map f = .ok b ↔ ∃ a, x = .ok a ∧ f a = b := by
  cases x <;> simp [Except.map]

theorem map_eq_error_iff {x : Except ε α} {f : α → β} {e : ε} :
    x.map f = .error e ↔ x = .error e := by
  cases x <;> simp [Except.map]

theorem mapM_eq_ok_iff {f : α → Except ε β} {xs : List α} {ys : List β} :
    xs.mapM f = .ok ys ↔ List.Forall₂ (fun x y => f x = .ok y) xs ys := by
  induction xs generalizing ys with
  | nil => cases ys <;> simp [pure, Except.pure]
  | cons x xs ih =>
    rw [List.mapM_cons, bind_eq_ok_iff]
    constructor
    · rintro ⟨y, first, later⟩
      obtain ⟨rest, tail, same⟩ := bind_eq_ok_iff.1 later
      cases same
      exact .cons first (ih.1 tail)
    · intro related
      cases related with
      | cons first tail => exact ⟨_, first, bind_eq_ok_iff.2 ⟨_, ih.2 tail, rfl⟩⟩

theorem exists_of_forall₂ {R : α → β → Prop} {xs : List α} {ys : List β}
    (related : List.Forall₂ R xs ys) {y : β} (member : y ∈ ys) : ∃ x ∈ xs, R x y := by
  induction related with
  | nil => cases member
  | cons first _ ih =>
    rcases List.mem_cons.1 member with rfl | member
    · exact ⟨_, List.mem_cons_self, first⟩
    · obtain ⟨x, hx, there⟩ := ih member
      exact ⟨x, List.mem_cons_of_mem _ hx, there⟩

theorem exists_getElem?_of_forall₂ {R : α → β → Prop} {xs : List α} {ys : List β}
    (related : List.Forall₂ R xs ys) {k : Nat} {y : β} (present : ys[k]? = some y) :
    ∃ x, xs[k]? = some x ∧ R x y := by
  obtain ⟨below, rfl⟩ := List.getElem?_eq_some_iff.1 present
  have below' : k < xs.length := related.length_eq ▸ below
  exact ⟨xs[k], List.getElem?_eq_getElem below', related.get below' below⟩

theorem mapM_eq_some_iff {f : α → Option β} {xs : List α} {ys : List β} :
    xs.mapM f = some ys ↔ List.Forall₂ (fun x y => f x = some y) xs ys := by
  induction xs generalizing ys with
  | nil => cases ys <;> simp
  | cons x xs ih =>
    rw [List.mapM_cons, Option.bind_eq_bind, Option.bind_eq_some_iff]
    constructor
    · rintro ⟨y, first, later⟩
      obtain ⟨rest, tail, same⟩ := Option.bind_eq_some_iff.1 later
      cases same
      exact .cons first (ih.1 tail)
    · intro related
      cases related with
      | cons first tail => exact ⟨_, first, Option.bind_eq_some_iff.2 ⟨_, ih.2 tail, rfl⟩⟩

theorem mapM_map_eq_some {back : α → Option β} (write : β → α) {ys : List β}
    (each : ∀ y ∈ ys, back (write y) = some y) : (ys.map write).mapM back = some ys :=
  mapM_eq_some_iff.2 (List.forall₂_map_left_iff.2 (List.forall₂_same.2 each))

/-- A computation that follows two sets of rules, for its results and for its errors, follows them
exactly if the rules leave no input out. -/
theorem exact_of_exhaustive {x : Except ε α} {P : α → Prop} {Q : ε → Prop}
    (result : ∀ a, P a → x = .ok a) (error : ∀ e, Q e → x = .error e)
    (exhaustive : (∃ a, P a) ∨ ∃ e, Q e) :
    (∀ a, x = .ok a ↔ P a) ∧ ∀ e, x = .error e ↔ Q e := by
  rcases exhaustive with ⟨a, holds⟩ | ⟨e, holds⟩
  · have made := result a holds
    refine ⟨fun a' => ⟨fun same => ?_, result a'⟩, fun e' => ⟨fun never => ?_, error e'⟩⟩
    · rw [made, Except.ok.injEq] at same
      exact same ▸ holds
    · rw [made] at never
      cases never
  · have failed := error e holds
    refine ⟨fun a' => ⟨fun never => ?_, result a'⟩, fun e' => ⟨fun same => ?_, error e'⟩⟩
    · rw [failed] at never
      cases never
    · rw [failed, Except.error.injEq] at same
      exact same ▸ holds

/-- Elements pass a test and differ from those before them, or one of them is the first that does not. -/
theorem passes_or_first (test : α → Prop) (differ : α → α → Prop) (xs : List α) :
    ((∀ x ∈ xs, test x) ∧ xs.Pairwise differ) ∨
      ∃ front x back, xs = front ++ x :: back ∧ (∀ y ∈ front, test y) ∧ front.Pairwise differ ∧
        (¬ test x ∨ test x ∧ ∃ y ∈ front, ¬ differ y x) := by
  induction xs using List.reverseRecOn with
  | nil => exact .inl ⟨by simp, .nil⟩
  | append_singleton xs x ih =>
    rcases ih with ⟨each, apart⟩ | ⟨front, y, back, rfl, clear⟩
    · by_cases passed : test x
      · by_cases fresh : ∀ y ∈ xs, differ y x
        · refine .inl ⟨?_, List.pairwise_append.2 ⟨apart, List.pairwise_singleton _ x, ?_⟩⟩
          · simpa [or_imp, forall_and] using ⟨each, passed⟩
          · simpa using fresh
        · simp only [not_forall] at fresh
          obtain ⟨y, member, clash⟩ := fresh
          exact .inr ⟨xs, x, [], rfl, each, apart, .inr ⟨passed, y, member, clash⟩⟩
      · exact .inr ⟨xs, x, [], rfl, each, apart, .inl passed⟩
    · exact .inr ⟨front, y, back ++ [x], by simp, clear⟩

def all (x : Except ε α) (test : α → Bool) : Bool :=
  match x with
  | .ok a => test a
  | .error _ => false

theorem exists_ok_of_all {x : Except ε α} {test : α → Bool} (passed : all x test = true) :
    ∃ a, x = .ok a ∧ test a = true := by
  cases x with
  | error e => cases passed
  | ok a => exact ⟨a, rfl, passed⟩

theorem exists_of_mapM_error {f : α → Except ε β} {xs : List α} {e : ε} (failed : xs.mapM f = .error e) :
    ∃ x ∈ xs, f x = .error e := by
  induction xs with
  | nil => simp [pure, Except.pure] at failed
  | cons x xs ih =>
    rw [List.mapM_cons, bind_eq_error_iff] at failed
    rcases failed with first | ⟨y, _, later⟩
    · exact ⟨x, List.mem_cons_self, first⟩
    · rcases bind_eq_error_iff.1 later with tail | ⟨_, _, never⟩
      · obtain ⟨z, member, failed⟩ := ih tail
        exact ⟨z, List.mem_cons_of_mem x member, failed⟩
      · cases never

theorem mapM_ok_of_forall {f : α → Except ε β} {P : β → Prop} {xs : List α}
    (each : ∀ x ∈ xs, ∃ y, f x = .ok y ∧ P y) :
    ∃ ys, xs.mapM f = .ok ys ∧ ∀ y ∈ ys, P y := by
  induction xs with
  | nil => exact ⟨[], rfl, by simp⟩
  | cons x xs ih =>
    obtain ⟨y, first, hy⟩ := each x List.mem_cons_self
    obtain ⟨ys, tail, hys⟩ := ih fun z member => each z (List.mem_cons_of_mem x member)
    refine ⟨y :: ys, ?_, ?_⟩
    · rw [List.mapM_cons, bind_eq_ok_iff]
      exact ⟨y, first, bind_eq_ok_iff.2 ⟨ys, tail, rfl⟩⟩
    · intro z member
      rcases List.mem_cons.1 member with rfl | member
      · exact hy
      · exact hys z member

theorem option_mapM_ok_of_forall {f : α → Except ε β} {P : β → Prop} {o : Option α}
    (each : ∀ x, o = some x → ∃ y, f x = .ok y ∧ P y) :
    ∃ r, o.mapM f = .ok r ∧ ∀ y, r = some y → P y := by
  cases o with
  | none => exact ⟨none, rfl, by simp⟩
  | some x =>
    obtain ⟨y, first, hy⟩ := each x rfl
    refine ⟨some y, ?_, by rintro z ⟨⟩; exact hy⟩
    simp [Option.mapM, first, Functor.map, Except.map]

theorem exists_of_option_mapM {f : α → Except ε β} {o : Option α}
    {r : Option β} (made : o.mapM f = .ok r) : ∀ y ∈ r, ∃ x ∈ o, f x = .ok y := by
  cases o with
  | none =>
    cases made
    exact nofun
  | some x =>
    rw [Option.mapM_some] at made
    cases first : f x with
    | error e =>
      rw [first] at made
      cases made
    | ok y =>
      rw [first] at made
      cases made
      rintro _ ⟨⟩
      exact ⟨x, rfl, first⟩

end Datalogger.Outcome
