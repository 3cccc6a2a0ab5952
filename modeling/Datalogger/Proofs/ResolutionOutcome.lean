import Datalogger.Proofs.Resolution

/-!
What resolution returns. A dependency is supplied if the request names a target for it, exactly one
instrument of the program has the target's id, that instrument is another one, and its variable of the
target's name is declared. Resolution succeeds exactly if every declared dependency is supplied, and
then binds these and nothing else; otherwise it reports the first that is not, in program order and
then in the order of declaration.
-/

namespace Datalogger

structure Sole (instruments : List Instrument) (id : String) (at_ : Nat) (source : Instrument) : Prop where
  present : instruments[at_]? = some source
  named : source.id = id
  only : ∀ k i, instruments[k]? = some i → i.id = id → k = at_

namespace VariableSet

/-- The first variable of a declared name. In a set that was built names differ, so no other has it. -/
def Leads (s : VariableSet) (name : String) (v : Variable) : Prop :=
  ∃ before after, s.vars = before ++ v :: after ∧ v.name = name ∧ ∀ w ∈ before, w.name ≠ name

theorem get?_eq_some_iff {s : VariableSet} {name : String} {v : Variable} :
    s.get? name = some v ↔ s.Leads name v := by
  rw [get?, List.find?_eq_some_iff_append]
  constructor
  · rintro ⟨same, before, after, split, others⟩
    exact ⟨before, after, split, by simpa using same, fun w member => by simpa using others w member⟩
  · rintro ⟨before, after, split, same, others⟩
    exact ⟨by simpa using same, before, after, split, fun w member => by simpa using others w member⟩

theorem get?_eq_none_iff {s : VariableSet} {name : String} :
    s.get? name = none ↔ ∀ v ∈ s.vars, v.name ≠ name := by
  simp [get?]

end VariableSet

namespace Resolution

inductive Supplied (instruments : List Instrument) (position : Nat) (targets : Dict DependencyTarget)
    (name : String) : BoundVariable → Prop
  | intro (target : DependencyTarget) (at_ : Nat) (source : Instrument) (v : Variable)
      (given : targets.get? name = some target)
      (sole : Sole instruments target.instrument at_ source) (other : at_ ≠ position)
      (leads : source.vars.Leads target.variableName v) (declared : v.fieldOnly = false) :
      Supplied instruments position targets name
        ⟨target.instrument, target.variableName, v.effectiveName⟩

inductive Lacking (instruments : List Instrument) (position : Nat) (targets : Dict DependencyTarget)
    (name : String) : Fault → Prop
  | noTarget (none : targets.get? name = none) : Lacking instruments position targets name .noTarget
  | absent (target : DependencyTarget) (given : targets.get? name = some target)
      (nobody : ∀ i ∈ instruments, i.id ≠ target.instrument) :
      Lacking instruments position targets name (.absent target.instrument)
  | ambiguous (target : DependencyTarget) (given : targets.get? name = some target) (j k : Nat)
      (a b : Instrument) (apart : j ≠ k) (first : instruments[j]? = some a)
      (second : instruments[k]? = some b) (firstNamed : a.id = target.instrument)
      (secondNamed : b.id = target.instrument) :
      Lacking instruments position targets name (.ambiguous target.instrument)
  | itself (target : DependencyTarget) (given : targets.get? name = some target) (i : Instrument)
      (sole : Sole instruments target.instrument position i) :
      Lacking instruments position targets name .itself
  | noVariable (target : DependencyTarget) (given : targets.get? name = some target) (at_ : Nat)
      (source : Instrument) (sole : Sole instruments target.instrument at_ source)
      (other : at_ ≠ position) (missing : ∀ v ∈ source.vars.vars, v.name ≠ target.variableName) :
      Lacking instruments position targets name (.noVariable target.instrument target.variableName)
  | fieldOnly (target : DependencyTarget) (given : targets.get? name = some target) (at_ : Nat)
      (source : Instrument) (v : Variable) (sole : Sole instruments target.instrument at_ source)
      (other : at_ ≠ position) (leads : source.vars.Leads target.variableName v)
      (hidden : v.fieldOnly = true) :
      Lacking instruments position targets name (.fieldOnly target.variableName)

variable {instruments : List Instrument} {position at_ : Nat} {targets : Dict DependencyTarget}
  {id name : String} {source : Instrument}

theorem nodup_identified (instruments : List Instrument) (id : String) :
    (identified instruments id).Nodup := by
  refine List.Nodup.filter _ (List.Nodup.of_map Prod.snd ?_)
  rw [List.zipIdx_map_snd]
  exact List.nodup_range'

theorem identified_eq_nil_iff :
    identified instruments id = [] ↔ ∀ i ∈ instruments, i.id ≠ id := by
  rw [List.eq_nil_iff_forall_not_mem]
  constructor
  · intro none i member same
    obtain ⟨k, there⟩ := List.mem_iff_getElem?.1 member
    exact none (i, k) (mem_identified.2 ⟨there, same⟩)
  · rintro nobody ⟨i, k⟩ member
    obtain ⟨there, same⟩ := mem_identified.1 member
    exact nobody i (List.mem_of_getElem? there) same

theorem sole_of_identified (found : identified instruments id = [(source, at_)]) :
    Sole instruments id at_ source := by
  have members := @mem_identified instruments id
  rw [found] at members
  obtain ⟨present, named⟩ := members.1 List.mem_cons_self
  refine ⟨present, named, fun k i there same => ?_⟩
  have here := List.mem_singleton.1 (members.2 ⟨there, same⟩)
  exact congrArg Prod.snd here

theorem identified_of_sole (sole : Sole instruments id at_ source) :
    identified instruments id = [(source, at_)] := by
  have member : (source, at_) ∈ identified instruments id :=
    mem_identified.2 ⟨sole.present, sole.named⟩
  have alone : ∀ x ∈ identified instruments id, x = (source, at_) := by
    rintro ⟨i, k⟩ there
    obtain ⟨found, same⟩ := mem_identified.1 there
    obtain rfl := sole.only k i found same
    rw [sole.present] at found
    cases found
    rfl
  have distinct := nodup_identified instruments id
  cases found : identified instruments id with
  | nil => simp [found] at member
  | cons x rest =>
    rw [found] at alone distinct
    cases rest with
    | nil => rw [alone x List.mem_cons_self]
    | cons y rest =>
      have same : x = y := (alone x (by simp)).trans (alone y (by simp)).symm
      simp [same] at distinct

theorem exists_identified_of_two {j k : Nat} {a b : Instrument} (apart : j ≠ k)
    (first : instruments[j]? = some a) (second : instruments[k]? = some b) (firstNamed : a.id = id)
    (secondNamed : b.id = id) : ∃ x y rest, identified instruments id = x :: y :: rest := by
  have one : (a, j) ∈ identified instruments id := mem_identified.2 ⟨first, firstNamed⟩
  have two : (b, k) ∈ identified instruments id := mem_identified.2 ⟨second, secondNamed⟩
  cases found : identified instruments id with
  | nil => simp [found] at one
  | cons x rest =>
    cases rest with
    | cons y rest => exact ⟨x, y, rest, rfl⟩
    | nil =>
      rw [found, List.mem_singleton] at one two
      exact absurd (congrArg Prod.snd (one.trans two.symm)) apart

theorem bindOne_of_supplied {d : Dependency} {b : BoundVariable}
    (supplied : Supplied instruments position targets d.name b) :
    bindOne instruments position targets d = .ok b := by
  cases supplied with
  | intro target at_ source v given sole other leads declared =>
    simp [bindOne, given, locate, identified_of_sole sole, other, VariableSet.get?_eq_some_iff.2 leads, declared]

theorem bindOne_of_lacking {d : Dependency} {f : Fault}
    (lacking : Lacking instruments position targets d.name f) :
    bindOne instruments position targets d = .error f := by
  cases lacking with
  | noTarget none => simp [bindOne, none]
  | absent target given nobody =>
    simp [bindOne, given, locate, identified_eq_nil_iff.2 nobody]
  | ambiguous target given j k a b apart first second firstNamed secondNamed =>
    obtain ⟨x, y, rest, found⟩ := exists_identified_of_two apart first second firstNamed secondNamed
    simp [bindOne, given, locate, found]
  | itself target given i sole => simp [bindOne, given, locate, identified_of_sole sole]
  | noVariable target given at_ source sole other missing =>
    simp [bindOne, given, locate, identified_of_sole sole, other, VariableSet.get?_eq_none_iff.2 missing]
  | fieldOnly target given at_ source v sole other leads hidden =>
    simp [bindOne, given, locate, identified_of_sole sole, other, VariableSet.get?_eq_some_iff.2 leads, hidden]

theorem supplied_or_lacking (instruments : List Instrument) (position : Nat)
    (targets : Dict DependencyTarget) (name : String) :
    (∃ b, Supplied instruments position targets name b) ∨
      ∃ f, Lacking instruments position targets name f := by
  cases given : targets.get? name with
  | none => exact .inr ⟨_, .noTarget given⟩
  | some target =>
    cases found : identified instruments target.instrument with
    | nil => exact .inr ⟨_, .absent target given (identified_eq_nil_iff.1 found)⟩
    | cons x rest =>
      cases rest with
      | nil =>
        have sole := sole_of_identified found
        by_cases here : x.2 = position
        · exact .inr ⟨_, .itself target given x.1 (here ▸ sole)⟩
        · cases looked : x.1.vars.get? target.variableName with
          | none =>
            exact .inr ⟨_, .noVariable target given x.2 x.1 sole here (VariableSet.get?_eq_none_iff.1 looked)⟩
          | some v =>
            have leads := VariableSet.get?_eq_some_iff.1 looked
            cases hidden : v.fieldOnly with
            | true => exact .inr ⟨_, .fieldOnly target given x.2 x.1 v sole here leads hidden⟩
            | false => exact .inl ⟨_, .intro target x.2 x.1 v given sole here leads hidden⟩
      | cons y rest =>
        have distinct := nodup_identified instruments target.instrument
        have members := @mem_identified instruments target.instrument
        rw [found] at distinct members
        obtain ⟨first, firstNamed⟩ := (@members x.1 x.2).1 (by simp)
        obtain ⟨second, secondNamed⟩ := (@members y.1 y.2).1 (by simp)
        have apart : x.2 ≠ y.2 := by
          intro same
          rw [same, second] at first
          have equal : x = y := Prod.ext (Option.some.inj first).symm same
          simp [equal] at distinct
        exact .inr ⟨_, .ambiguous target given x.2 y.2 x.1 y.1 apart first second firstNamed secondNamed⟩

theorem bindOne_eq_ok_iff {d : Dependency} {b : BoundVariable} :
    bindOne instruments position targets d = .ok b ↔
      Supplied instruments position targets d.name b :=
  (Outcome.exact_of_exhaustive (fun _ => bindOne_of_supplied) (fun _ => bindOne_of_lacking)
    (supplied_or_lacking instruments position targets d.name)).1 b

def Provided (instruments : List Instrument) (requests : List InstrumentRequest) (position : Nat) :
    Prop :=
  ∀ i r, instruments[position]? = some i → requests[position]? = some r →
    ∀ d ∈ i.dependencies, ∃ b, Supplied instruments position r.dependencies d.name b

inductive Unresolved (instruments : List Instrument) (requests : List InstrumentRequest) : Error → Prop
  | intro (position : Nat) (i : Instrument) (r : InstrumentRequest) (before after : List Dependency)
      (d : Dependency) (fault : Fault) (present : instruments[position]? = some i)
      (requested : requests[position]? = some r) (split : i.dependencies = before ++ d :: after)
      (earlier : ∀ k < position, Provided instruments requests k)
      (clear : ∀ c ∈ before, ∃ b, Supplied instruments position r.dependencies c.name b)
      (lacking : Lacking instruments position r.dependencies d.name fault) :
      Unresolved instruments requests (.missingDependency i.id d.name fault.reason)

/-- Every instrument has its declared dependencies bound, and no other name. -/
structure Settles (b : Bindings) (instruments : List Instrument) (requests : List InstrumentRequest) :
    Prop where
  declared : ∀ position i r, instruments[position]? = some i → requests[position]? = some r →
    ∀ d ∈ i.dependencies, ∃ v, Supplied instruments position r.dependencies d.name v ∧
      b.get? position d.name = some v
  other : ∀ position x, (∀ i, instruments[position]? = some i → ∀ d ∈ i.dependencies, d.name ≠ x) →
    b.get? position x = none

theorem exists_first_lacking {dependencies : List Dependency}
    (unmet : ∃ d ∈ dependencies, ¬ ∃ b, Supplied instruments position targets d.name b) :
    ∃ before d after f, dependencies = before ++ d :: after ∧
      (∀ c ∈ before, ∃ b, Supplied instruments position targets c.name b) ∧
      Lacking instruments position targets d.name f := by
  classical
  have found : (dependencies.find? fun d =>
      decide (¬ ∃ b, Supplied instruments position targets d.name b)).isSome := by simpa using unmet
  obtain ⟨d, first⟩ := Option.isSome_iff_exists.1 found
  obtain ⟨open_, before, after, split, clear⟩ := List.find?_eq_some_iff_append.1 first
  rcases supplied_or_lacking instruments position targets d.name with supplied | ⟨f, lacking⟩
  · exact absurd supplied (of_decide_eq_true open_)
  · exact ⟨before, d, after, f, split, by simpa using clear, lacking⟩

theorem exists_first_unprovided {requests : List InstrumentRequest}
    (unmet : ∃ position, ¬ Provided instruments requests position) :
    ∃ position, ¬ Provided instruments requests position ∧
      ∀ k < position, Provided instruments requests k := by
  classical
  refine ⟨Nat.find unmet, Nat.find_spec unmet, fun k below => ?_⟩
  exact not_not.1 (Nat.find_min unmet below)

theorem provided_or_unresolved (instruments : List Instrument) (requests : List InstrumentRequest) :
    (∀ position, Provided instruments requests position) ∨
      ∃ e, Unresolved instruments requests e := by
  by_cases all : ∀ position, Provided instruments requests position
  · exact .inl all
  · obtain ⟨position, here, earlier⟩ := exists_first_unprovided (not_forall.1 all)
    simp only [Provided, not_forall, exists_prop] at here
    obtain ⟨i, r, present, requested, d, member, unmet⟩ := here
    obtain ⟨before, c, after, f, split, clear, lacking⟩ := exists_first_lacking ⟨d, member, unmet⟩
    exact .inr ⟨_, .intro position i r before after c f present requested split earlier clear lacking⟩

theorem ownBindings_append {before after : List Dependency}
    (clear : ∀ c ∈ before, ∃ b, Supplied instruments position targets c.name b)
    (bound : Dict BoundVariable) :
    ∃ bound', ownBindings instruments position id targets (before ++ after) bound =
      ownBindings instruments position id targets after bound' := by
  induction before generalizing bound with
  | nil => exact ⟨bound, rfl⟩
  | cons c before ih =>
    obtain ⟨b, supplied⟩ := clear c List.mem_cons_self
    rw [List.cons_append, ownBindings, bindOne_of_supplied supplied]
    exact ih (fun d member => clear d (List.mem_cons_of_mem c member)) _

theorem ownBindings_of_supplied {dependencies : List Dependency}
    (clear : ∀ c ∈ dependencies, ∃ b, Supplied instruments position targets c.name b)
    (bound : Dict BoundVariable) :
    ∃ bound', ownBindings instruments position id targets dependencies bound = .ok bound' := by
  obtain ⟨bound', run⟩ := @ownBindings_append instruments position targets id dependencies [] clear bound
  rw [List.append_nil] at run
  exact ⟨bound', run⟩

theorem ownBindings_of_lacking {before after : List Dependency} {d : Dependency} {f : Fault}
    (clear : ∀ c ∈ before, ∃ b, Supplied instruments position targets c.name b)
    (lacking : Lacking instruments position targets d.name f) (bound : Dict BoundVariable) :
    ownBindings instruments position id targets (before ++ d :: after) bound =
      .error (.missingDependency id d.name f.reason) := by
  obtain ⟨bound', run⟩ := @ownBindings_append instruments position targets id before (d :: after) clear bound
  rw [run, ownBindings, bindOne_of_lacking lacking]

/-- Instruments that can be bound are left behind up to the first that cannot. -/
theorem bindFrom_of_error {start k : Nat} {pairs : List (Instrument × InstrumentRequest)} {b : Bindings}
    {i : Instrument} {r : InstrumentRequest} {e : Error} (free : b.Open start pairs.length)
    (there : pairs[k]? = some (i, r))
    (earlier : ∀ j < k, ∀ i r, pairs[j]? = some (i, r) → ∃ bound,
      ownBindings instruments (start + j) i.id r.dependencies i.dependencies .empty = .ok bound)
    (failed : ownBindings instruments (start + k) i.id r.dependencies i.dependencies .empty = .error e) :
    bindFrom instruments start pairs b = .error e := by
  induction pairs generalizing start k b with
  | nil => simp at there
  | cons p rest ih =>
    obtain ⟨i', r'⟩ := p
    rw [bindFrom_cons free]
    cases k with
    | zero =>
      cases there
      rw [Nat.add_zero] at failed
      rw [failed]
    | succ k =>
      obtain ⟨bound, first⟩ := earlier 0 (by omega) i' r' rfl
      have shift : ∀ j, start + 1 + j = start + (j + 1) := fun j => by omega
      rw [Nat.add_zero] at first
      rw [first]
      refine ih (free.put bound) there ?_ (by rwa [shift])
      intro j below i r present
      rw [shift]
      exact earlier (j + 1) (by omega) i r present

variable {requests : List InstrumentRequest}

theorem Provided.ownBindings {k : Nat} (provided : Provided instruments requests k) {i : Instrument}
    {r : InstrumentRequest} (there : (instruments.zip requests)[k]? = some (i, r)) :
    ∃ bound, ownBindings instruments (0 + k) i.id r.dependencies i.dependencies .empty = .ok bound := by
  obtain ⟨present, requested⟩ := List.getElem?_zip_eq_some.1 there
  rw [Nat.zero_add]
  exact ownBindings_of_supplied (provided i r present requested) .empty

theorem open_zip (instruments : List Instrument) (requests : List InstrumentRequest) :
    (Bindings.unbound instruments.length).Open 0 (instruments.zip requests).length := by
  intro k below
  refine Bindings.open_unbound _ k ?_
  rw [List.length_zip] at below
  omega

theorem resolve_of_provided (provided : ∀ position, Provided instruments requests position) :
    ∃ bindings, resolve instruments requests = .ok bindings :=
  bindFrom_ok (open_zip _ _) fun k _ _ there => (provided k).ownBindings there

theorem Unresolved.resolve_eq {e : Error} (unresolved : Unresolved instruments requests e) :
    resolve instruments requests = .error e := by
  cases unresolved with
  | intro position i r before after d f present requested split earlier clear lacking =>
    have failed := @ownBindings_of_lacking _ _ _ i.id before after d f clear lacking .empty
    rw [← split, ← Nat.zero_add position] at failed
    exact bindFrom_of_error (open_zip _ _) (List.getElem?_zip_eq_some.2 ⟨present, requested⟩)
      (fun j below i r there => (earlier j below).ownBindings there) failed

theorem own_of_resolve {bindings : Bindings} (resolved : resolve instruments requests = .ok bindings)
    {position : Nat} {i : Instrument} {r : InstrumentRequest} (present : instruments[position]? = some i)
    (requested : requests[position]? = some r) :
    ∃ bound, bindings.byPosition[position]? = some bound ∧
      ownBindings instruments position i.id r.dependencies i.dependencies .empty = .ok bound := by
  have there : (instruments.zip requests)[position]? = some (i, r) :=
    List.getElem?_zip_eq_some.2 ⟨present, requested⟩
  obtain ⟨bound, found, run⟩ := bindFrom_at resolved (open_zip _ _) there
  rw [Nat.zero_add] at found run
  exact ⟨bound, found, run⟩

theorem settles_of_resolve {bindings : Bindings}
    (resolved : resolve instruments requests = .ok bindings) :
    Settles bindings instruments requests := by
  constructor
  · intro position i r present requested d member
    obtain ⟨bound, found, run⟩ := own_of_resolve resolved present requested
    obtain ⟨b, one, looked⟩ := (ownBindings_spec run).1 d member
    refine ⟨b, bindOne_eq_ok_iff.1 one, ?_⟩
    rw [Bindings.get?, found, Option.bind_some, looked]
  · intro position x undeclared
    rw [Bindings.get?]
    by_cases inside : position < (instruments.zip requests).length
    · obtain ⟨present, requested⟩ := List.getElem?_zip_eq_some.1 (List.getElem?_eq_getElem inside)
      obtain ⟨bound, found, run⟩ := own_of_resolve resolved present requested
      rw [found, Option.bind_some, (ownBindings_spec run).2 x (undeclared _ present), Dict.get?_empty]
    · -- No request is left for this position, so it is as it was at first.
      have kept : bindings.byPosition[position]? =
          (Bindings.unbound instruments.length).byPosition[position]? :=
        bindFrom_frame resolved (open_zip _ _) (.inr (by omega))
      rw [kept, Bindings.unbound, List.getElem?_replicate]
      split <;> rfl

theorem exists_resolve_iff : (∃ bindings, resolve instruments requests = .ok bindings) ↔
    ∀ position, Provided instruments requests position := by
  refine ⟨?_, resolve_of_provided⟩
  rintro ⟨bindings, made⟩
  rcases provided_or_unresolved instruments requests with provided | ⟨e, unresolved⟩
  · exact provided
  · rw [unresolved.resolve_eq] at made
    cases made

theorem resolve_eq_error_iff {e : Error} :
    resolve instruments requests = .error e ↔ Unresolved instruments requests e := by
  refine ⟨fun failed => ?_, Unresolved.resolve_eq⟩
  rcases provided_or_unresolved instruments requests with provided | ⟨e', unresolved⟩
  · obtain ⟨bindings, made⟩ := resolve_of_provided provided
    rw [made] at failed
    cases failed
  · rw [unresolved.resolve_eq] at failed
    cases failed
    exact unresolved

theorem Supplied.refers {b : BoundVariable} (supplied : Supplied instruments position targets name b) :
    ∃ target at_ source v, targets.get? name = some target ∧
      Refers instruments position target at_ source v ∧ b.effective = v.effectiveName := by
  cases supplied with
  | intro target at_ source v given sole other leads declared =>
    obtain ⟨before, after, split, mentioned, _⟩ := leads
    have owned : v ∈ source.vars.vars := by simp [split]
    exact ⟨target, at_, source, v, given,
      ⟨sole.present, other, sole.named, sole.only, owned, mentioned, declared⟩, rfl⟩

end Resolution

/-- What an instrument at a position sees under a name: the variable that its own request names, if it
declares the name, and otherwise nothing. -/
structure SeesOwn (instruments : List Instrument) (position : Nat) (i : Instrument)
    (r : InstrumentRequest) (view : Deps) : Prop where
  bound : ∀ d ∈ i.dependencies, ∃ target at_ source v,
    r.dependencies.get? d.name = some target ∧
      Refers instruments position target at_ source v ∧ view.name d.name = .ok v.effectiveName
  unbound : ∀ x, (∀ d ∈ i.dependencies, d.name ≠ x) → view.name x = .error (Deps.notBound i.id x)

theorem seesOwn_of_resolve {instruments : List Instrument} {requests : List InstrumentRequest}
    {bindings : Bindings} (resolved : resolve instruments requests = .ok bindings) {position : Nat}
    {i : Instrument} {r : InstrumentRequest} (present : instruments[position]? = some i)
    (requested : requests[position]? = some r) :
    SeesOwn instruments position i r (bindings.deps position i.id) := by
  have settled := Resolution.settles_of_resolve resolved
  constructor
  · intro d member
    obtain ⟨b, supplied, bound⟩ := settled.declared position i r present requested d member
    obtain ⟨target, at_, source, v, given, refers, effective⟩ := supplied.refers
    exact ⟨target, at_, source, v, given, refers, by rw [Bindings.name_deps, bound, ← effective]⟩
  · intro x differ
    have unbound : bindings.get? position x = none := by
      refine settled.other position x fun j there => ?_
      cases present.symm.trans there
      exact differ
    rw [Bindings.name_deps, unbound]

theorem error_of_resolve {instruments : List Instrument} {requests : List InstrumentRequest}
    {e : Error} (failed : resolve instruments requests = .error e) :
    ∃ instrument dependency reason, e = .missingDependency instrument dependency reason := by
  cases Resolution.resolve_eq_error_iff.1 failed with
  | intro => exact ⟨_, _, _, rfl⟩

open Resolution in
/-- Resolution binds every declared dependency, and no other name, if each of them is supplied; otherwise
the first that is not decides the error. -/
theorem resolution_outcome (instruments : List Instrument) (requests : List InstrumentRequest) :
    ((∃ bindings, resolve instruments requests = .ok bindings) ↔
      ∀ position, Provided instruments requests position) ∧
    (∀ bindings, resolve instruments requests = .ok bindings →
      Settles bindings instruments requests) ∧
    ∀ e, resolve instruments requests = .error e ↔ Unresolved instruments requests e :=
  ⟨exists_resolve_iff, fun _ => settles_of_resolve, fun _ => resolve_eq_error_iff⟩

/-! A modem that takes its supply from a battery with a renamed variable, and a target for a dependency
that the battery does not declare. -/

namespace ResolutionOutcome

def device (id : String) (declarations : List Declaration) (dependencies : List Dependency) :
    Instrument where
  parts := ⟨id, ⟨id, "", "", ""⟩, .empty, ⟨id, declarations⟩, dependencies⟩
  tables _ := .ok none
  preScan _ := .ok none
  program _ := .ok none
  postScan _ := .ok none
  slowSequence _ := .ok none
  functions _ := .ok none

def devices : List Instrument :=
  [device "modem" [] [⟨"supply", "voltage that feeds the modem"⟩],
    device "battery" [.scalar (.field "label"), .scalar ((Variable.published "volt").suffixed "_n5")] []]

def voltage : DependencyTarget := ⟨"battery", "volt"⟩

def requests : List InstrumentRequest :=
  [⟨"modem", .standard, .ofList [("supply", voltage)]⟩,
    ⟨"battery", .standard, .ofList [("spare", voltage)]⟩]

end ResolutionOutcome

open Resolution ResolutionOutcome in
theorem modem_settled :
    ∃ bindings, resolve devices requests = .ok bindings ∧ Settles bindings devices requests ∧
      bindings.get? 0 "supply" = some ⟨"battery", "volt", "volt_n5"⟩ ∧
      bindings.get? 1 "spare" = none := by
  have made : ∃ bindings, resolve devices requests = .ok bindings ∧
      decide (bindings.get? 0 "supply" = some ⟨"battery", "volt", "volt_n5"⟩ ∧
        bindings.get? 1 "spare" = none) = true :=
    Outcome.exists_ok_of_all (by decide +kernel)
  obtain ⟨bindings, made, bound⟩ := made
  exact ⟨bindings, made, (resolution_outcome devices requests).2.1 bindings made,
    of_decide_eq_true bound⟩

end Datalogger
