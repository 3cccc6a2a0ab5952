import Datalogger.Proofs.Outcome
import Datalogger.Resolution

/-!
What resolution binds, step by step. The dependencies of one instrument are bound in the order in which
they are declared, and nothing else is; the instruments are bound in program order, each by its own
request. Both depend on the position in the program and not on the id of the instrument.
-/

namespace Datalogger

structure Refers (instruments : List Instrument) (position : Nat) (target : DependencyTarget)
    (at_ : Nat) (source : Instrument) (v : Variable) : Prop where
  present : instruments[at_]? = some source
  other : at_ ≠ position
  id : source.id = target.instrument
  only : ∀ k i, instruments[k]? = some i → i.id = target.instrument → k = at_
  owned : v ∈ source.vars.vars
  mentioned : v.name = target.variableName
  declared : v.fieldOnly = false

namespace Resolution

theorem mem_identified {instruments : List Instrument} {id : String} {i : Instrument} {k : Nat} :
    (i, k) ∈ identified instruments id ↔ instruments[k]? = some i ∧ i.id = id := by
  simp [identified, List.mk_mem_zipIdx_iff_getElem?]

def ownBindings (instruments : List Instrument) (position : Nat) (id : String)
    (targets : Dict DependencyTarget) :
    List Dependency → Dict BoundVariable → Except Error (Dict BoundVariable)
  | [], bound => .ok bound
  | d :: rest, bound =>
    match bindOne instruments position targets d with
    | .error fault => .error (.missingDependency id d.name fault.reason)
    | .ok v => ownBindings instruments position id targets rest (bound.insert d.name v)

theorem ownBindings_spec {instruments : List Instrument} {position : Nat} {id : String}
    {targets : Dict DependencyTarget} {dependencies : List Dependency}
    {bound result : Dict BoundVariable}
    (made : ownBindings instruments position id targets dependencies bound = .ok result) :
    (∀ d ∈ dependencies, ∃ b, bindOne instruments position targets d = .ok b ∧
      result.get? d.name = some b) ∧
    ∀ x, (∀ d ∈ dependencies, d.name ≠ x) → result.get? x = bound.get? x := by
  induction dependencies generalizing bound with
  | nil =>
    cases made
    exact ⟨by simp, fun _ _ => rfl⟩
  | cons d rest ih =>
    rw [ownBindings] at made
    split at made
    · cases made
    rename_i b first
    obtain ⟨later, apart⟩ := ih made
    constructor
    · intro e member
      rcases List.mem_cons.1 member with rfl | member
      · by_cases again : ∃ e' ∈ rest, e'.name = e.name
        · obtain ⟨e', member, same⟩ := again
          obtain ⟨b', second, looked⟩ := later e' member
          rw [same] at looked
          refine ⟨b', ?_, looked⟩
          rwa [bindOne, same, ← bindOne] at second
        · have fresh : ∀ e' ∈ rest, e'.name ≠ e.name := fun e' member same => again ⟨e', member, same⟩
          exact ⟨b, first, by rw [apart e.name fresh, Dict.get?_insert_self]⟩
      · exact later e member
    · intro x differ
      have fresh : ∀ e ∈ rest, e.name ≠ x := fun e member => differ e (List.mem_cons_of_mem d member)
      rw [apart x fresh, Dict.get?_insert, if_neg (differ d List.mem_cons_self).symm]

end Resolution

def Bindings.put (b : Bindings) (position : Nat) (bound : Dict BoundVariable) : Bindings :=
  ⟨b.byPosition.set position bound⟩

theorem Bindings.put_put (b : Bindings) (position : Nat) (bound : Dict BoundVariable) :
    (b.put position bound).put position = b.put position := by
  funext bound'
  simp only [put, List.set_set]

theorem Bindings.bind_eq_put {b : Bindings} {position : Nat} {bound : Dict BoundVariable}
    (here : b.byPosition[position]? = some bound) (name : String) (v : BoundVariable) :
    b.bind position name v = b.put position (bound.insert name v) := by
  obtain ⟨below, rfl⟩ := List.getElem?_eq_some_iff.1 here
  rw [bind, put, List.modify_eq_set_get _ below, List.get_eq_getElem]

/-- The next positions are there, and nothing is bound at them yet. -/
def Bindings.Open (b : Bindings) (start room : Nat) : Prop :=
  ∀ k < room, b.byPosition[start + k]? = some .empty

theorem Bindings.open_unbound (n : Nat) : (unbound n).Open 0 n := by
  intro k below
  rw [unbound, Nat.zero_add, List.getElem?_replicate, if_pos below]

theorem Bindings.Open.put {b : Bindings} {start room : Nat} (free : b.Open start (room + 1))
    (bound : Dict BoundVariable) : (b.put start bound).Open (start + 1) room := by
  intro k below
  rw [Bindings.put, List.getElem?_set_ne (by omega), Nat.add_assoc, Nat.add_comm 1 k]
  exact free (k + 1) (by omega)

namespace Resolution

variable {instruments : List Instrument} {start : Nat} {b b' : Bindings}
  {pairs : List (Instrument × InstrumentRequest)}

theorem bindEach_eq {position : Nat} {id : String} {targets : Dict DependencyTarget}
    {bound : Dict BoundVariable} (here : b.byPosition[position]? = some bound)
    (dependencies : List Dependency) :
    bindEach instruments position id targets dependencies b =
      (ownBindings instruments position id targets dependencies bound).map (b.put position) := by
  induction dependencies generalizing b bound with
  | nil =>
    obtain ⟨below, rfl⟩ := List.getElem?_eq_some_iff.1 here
    simp [bindEach, ownBindings, Except.map, Bindings.put]
  | cons d rest ih =>
    have below := (List.getElem?_eq_some_iff.1 here).1
    rw [bindEach, ownBindings]
    cases bindOne instruments position targets d with
    | error fault => rfl
    | ok v =>
      have next : (b.put position (bound.insert d.name v)).byPosition[position]? =
          some (bound.insert d.name v) := List.getElem?_set_self below
      simp only [Bindings.bind_eq_put here, ih next, Bindings.put_put]

theorem bindFrom_cons {i : Instrument} {r : InstrumentRequest} (free : b.Open start (pairs.length + 1)) :
    bindFrom instruments start ((i, r) :: pairs) b =
      match ownBindings instruments start i.id r.dependencies i.dependencies .empty with
      | .error e => .error e
      | .ok bound => bindFrom instruments (start + 1) pairs (b.put start bound) := by
  have here : b.byPosition[start]? = some .empty := free 0 (by omega)
  rw [bindFrom, bindEach_eq here]
  cases ownBindings instruments start i.id r.dependencies i.dependencies .empty <;> rfl

theorem bindFrom_frame (made : bindFrom instruments start pairs b = .ok b')
    (free : b.Open start pairs.length) {position : Nat}
    (outside : position < start ∨ start + pairs.length ≤ position) :
    b'.byPosition[position]? = b.byPosition[position]? := by
  induction pairs generalizing start b with
  | nil =>
    cases made
    rfl
  | cons p rest ih =>
    obtain ⟨i, r⟩ := p
    rw [bindFrom_cons free] at made
    split at made
    · cases made
    rename_i bound first
    rw [List.length_cons] at outside
    rw [ih made (free.put bound) (by omega), Bindings.put, List.getElem?_set_ne (by omega)]

/-- Every position is bound by its own instrument and its own request. -/
theorem bindFrom_at (made : bindFrom instruments start pairs b = .ok b')
    (free : b.Open start pairs.length) {k : Nat} {i : Instrument} {r : InstrumentRequest}
    (there : pairs[k]? = some (i, r)) :
    ∃ bound, b'.byPosition[start + k]? = some bound ∧
      ownBindings instruments (start + k) i.id r.dependencies i.dependencies .empty = .ok bound := by
  induction pairs generalizing start k b with
  | nil => simp at there
  | cons p rest ih =>
    obtain ⟨i', r'⟩ := p
    have below := (List.getElem?_eq_some_iff.1 (free 0 (by simp))).1
    rw [bindFrom_cons free] at made
    split at made
    · cases made
    rename_i bound first
    cases k with
    | zero =>
      cases there
      refine ⟨bound, ?_, first⟩
      rw [Nat.add_zero, bindFrom_frame made (free.put bound) (.inl (Nat.lt_succ_self start))]
      exact List.getElem?_set_self below
    | succ k =>
      have shift : start + 1 + k = start + (k + 1) := by omega
      rw [← shift]
      exact ih made (free.put bound) there

theorem bindFrom_ok (free : b.Open start pairs.length)
    (each : ∀ k i r, pairs[k]? = some (i, r) → ∃ bound,
      ownBindings instruments (start + k) i.id r.dependencies i.dependencies .empty = .ok bound) :
    ∃ b', bindFrom instruments start pairs b = .ok b' := by
  induction pairs generalizing start b with
  | nil => exact ⟨b, rfl⟩
  | cons p rest ih =>
    obtain ⟨i, r⟩ := p
    obtain ⟨bound, first⟩ := each 0 i r rfl
    rw [Nat.add_zero] at first
    rw [bindFrom_cons free, first]
    refine ih (free.put bound) fun k i r there => ?_
    rw [show start + 1 + k = start + (k + 1) by omega]
    exact each (k + 1) i r (by simpa using there)

end Resolution

end Datalogger
