import Datalogger.Instruments.Builtin
import Datalogger.Proofs.Assembly
import Datalogger.Proofs.ResolutionOutcome
import Datalogger.Proofs.TableMerge

/-!
Requests in another order. An instrument finds the sources of its dependencies by their ids and not by
their places, so what it contributes does not depend on the order of the request. Whether a program is
assembled does not either, and what is assembled from a reordered request differs in order only.
-/

namespace Datalogger

open Assembly

namespace Resolution

/-- The variable that a target names, seen from an instrument with an id. -/
def seek (instruments : List Instrument) (own : String) (target : DependencyTarget) :
    Except Fault BoundVariable :=
  match instruments.filter (·.id = target.instrument) with
  | [] => .error (.absent target.instrument)
  | _ :: _ :: _ => .error (.ambiguous target.instrument)
  | [source] =>
    if own = target.instrument then .error .itself
    else
      match source.vars.get? target.variableName with
      | none => .error (.noVariable target.instrument target.variableName)
      | some v =>
        if v.fieldOnly then .error (.fieldOnly target.variableName)
        else .ok ⟨target.instrument, target.variableName, v.effectiveName⟩

theorem map_fst_identified (instruments : List Instrument) (id : String) :
    (identified instruments id).map Prod.fst = instruments.filter (·.id = id) := by
  have test : (fun p : Instrument × Nat => decide (p.1.id = id)) =
      (fun i : Instrument => decide (i.id = id)) ∘ Prod.fst := rfl
  rw [identified, test, ← List.filter_map, List.zipIdx_map_fst]

theorem locate_eq_seek {instruments : List Instrument} {position : Nat} {i : Instrument}
    (present : instruments[position]? = some i) (target : DependencyTarget) :
    locate instruments position target = seek instruments i.id target := by
  have members := @mem_identified instruments target.instrument
  rw [locate, seek, ← map_fst_identified]
  cases found : identified instruments target.instrument with
  | nil => rfl
  | cons first rest =>
    cases rest with
    | cons second rest => rfl
    | nil =>
      obtain ⟨source, at_⟩ := first
      rw [found] at members
      -- The only instrument with the id stands at this position just if this one has the id.
      have here : at_ = position ↔ i.id = target.instrument := by
        constructor
        · rintro rfl
          obtain ⟨there, same⟩ := members.1 List.mem_cons_self
          rw [present] at there
          cases there
          exact same
        · intro same
          have only := List.mem_singleton.1 (members.2 ⟨present, same⟩)
          cases only
          rfl
      rw [List.map_cons, List.map_nil]
      by_cases same : at_ = position
      · exact (if_pos same).trans (if_pos (here.1 same)).symm
      · refine (if_neg same).trans (Eq.trans ?_ (if_neg (mt here.2 same)).symm)
        rfl

theorem seek_perm {instruments instruments' : List Instrument} (order : instruments.Perm instruments')
    (own : String) (target : DependencyTarget) :
    seek instruments own target = seek instruments' own target := by
  have found := order.filter (·.id = target.instrument)
  rw [seek, seek]
  cases some : instruments.filter (·.id = target.instrument) with
  | nil =>
    rw [some] at found
    rw [List.nil_perm.1 found]
  | cons first rest =>
    rw [some] at found
    cases rest with
    | nil => rw [List.singleton_perm.1 found]
    | cons second rest =>
      have long := found.length_eq
      cases other : instruments'.filter (·.id = target.instrument) with
      | nil => simp [other] at long
      | cons first' rest' =>
        cases rest' with
        | nil => simp [other] at long
        | cons second' rest' => rfl

theorem ownBindings_perm {instruments instruments' : List Instrument}
    (order : instruments.Perm instruments') {position position' : Nat} {i : Instrument}
    (present : instruments[position]? = some i) (present' : instruments'[position']? = some i)
    (targets : Dict DependencyTarget) (dependencies : List Dependency) (bound : Dict BoundVariable) :
    ownBindings instruments position i.id targets dependencies bound =
      ownBindings instruments' position' i.id targets dependencies bound := by
  have one : ∀ d, bindOne instruments position targets d = bindOne instruments' position' targets d := by
    intro d
    unfold bindOne
    split
    · rfl
    · rw [locate_eq_seek present, locate_eq_seek present', seek_perm order]
  induction dependencies generalizing bound with
  | nil => rfl
  | cons d rest ih =>
    rw [ownBindings, ownBindings, one d]
    split
    · rfl
    · exact ih _

end Resolution

/-- What the instrument of a request contributes once it is bound among others. -/
def Yields (catalog : Catalog) (instruments : List Instrument) (r : InstrumentRequest)
    (c : Contribution) : Prop :=
  ∃ i position bound, catalog.instantiate r.typeId r.settings = .ok i ∧
    instruments[position]? = some i ∧
    Resolution.ownBindings instruments position i.id r.dependencies i.dependencies .empty = .ok bound ∧
    i.contribution ⟨i.id, .bound bound⟩ = .ok c

section Yields

variable {catalog : Catalog} {instruments instruments' : List Instrument}

theorem Yields.perm {r : InstrumentRequest} {c : Contribution} (order : instruments.Perm instruments')
    (yields : Yields catalog instruments r c) : Yields catalog instruments' r c := by
  obtain ⟨i, position, bound, built, present, each, ran⟩ := yields
  obtain ⟨position', present'⟩ :=
    List.mem_iff_getElem?.1 (order.mem_iff.1 (List.mem_of_getElem? present))
  rw [Resolution.ownBindings_perm order present present'] at each
  exact ⟨i, position', bound, built, present', each, ran⟩

theorem Yields.rightUnique : Relator.RightUnique (Yields catalog instruments) := by
  rintro r c c' ⟨i, position, bound, built, present, each, ran⟩
    ⟨i', position', bound', built', present', each', ran'⟩
  rw [built] at built'
  cases built'
  rw [Resolution.ownBindings_perm (.refl _) present present', each'] at each
  cases each
  rw [ran] at ran'
  cases ran'
  rfl

end Yields

section Runs

variable {catalog : Catalog} {request : ProgramRequest}

theorem yields_of_collected {instruments : List Instrument} {bindings : Bindings}
    {contributions : List Contribution} (built : instantiateAll catalog request = .ok instruments)
    (resolved : resolve instruments request.instruments = .ok bindings)
    (collected : contributionsFrom bindings 0 instruments = .ok contributions) :
    List.Forall₂ (Yields catalog instruments) request.instruments contributions := by
  have related := Outcome.mapM_eq_ok_iff.1 built
  refine List.forall₂_iff_get.2 ⟨?_, ?_⟩
  · rw [related.length_eq, length_contributionsFrom collected]
  · intro k below below'
    have within : k < instruments.length := related.length_eq ▸ below
    have present : instruments[k]? = some instruments[k] := List.getElem?_eq_getElem within
    obtain ⟨bound, found, each⟩ :=
      Resolution.own_of_resolve resolved present (List.getElem?_eq_getElem below)
    obtain ⟨c, contributed, ran⟩ := contributionsFrom_spec collected present
    rw [List.getElem?_eq_getElem below'] at contributed
    cases contributed
    rw [Nat.zero_add] at ran
    refine ⟨instruments[k], k, bound, related.get below within, present, each, ?_⟩
    rw [Bindings.deps, found] at ran
    exact ran

theorem collected_of_yields {instruments : List Instrument} {contributions : List Contribution}
    (built : instantiateAll catalog request = .ok instruments)
    (yields : List.Forall₂ (Yields catalog instruments) request.instruments contributions) :
    ∃ bindings, resolve instruments request.instruments = .ok bindings ∧
      contributionsFrom bindings 0 instruments = .ok contributions := by
  have related := Outcome.mapM_eq_ok_iff.1 built
  have each : ∀ k i r, (instruments.zip request.instruments)[k]? = some (i, r) → ∃ bound,
      Resolution.ownBindings instruments (0 + k) i.id r.dependencies i.dependencies .empty = .ok bound ∧
        ∃ c, i.contribution ⟨i.id, .bound bound⟩ = .ok c := by
    intro k i r there
    obtain ⟨present, requested⟩ := List.getElem?_zip_eq_some.1 there
    obtain ⟨within, rfl⟩ := List.getElem?_eq_some_iff.1 present
    obtain ⟨below, rfl⟩ := List.getElem?_eq_some_iff.1 requested
    obtain ⟨i, position, bound, made, stands, bindings, ran⟩ :=
      yields.get below (yields.length_eq ▸ below)
    have same := related.get below within
    rw [List.get_eq_getElem, List.get_eq_getElem] at same
    rw [List.get_eq_getElem, same] at made
    cases made
    rw [Resolution.ownBindings_perm (.refl _) stands present] at bindings
    exact ⟨bound, by rwa [Nat.zero_add], _, ran⟩
  obtain ⟨bindings, resolved⟩ : ∃ bindings, resolve instruments request.instruments = .ok bindings :=
    Resolution.bindFrom_ok (Resolution.open_zip _ _) fun k i r there =>
      (each k i r there).imp fun _ bound => bound.1
  have contributed : ∀ k (i : Instrument), instruments[k]? = some i →
      ∃ c, i.contribution (bindings.deps (0 + k) i.id) = .ok c ∧ True := by
    intro k i present
    have below : k < request.instruments.length :=
      related.length_eq ▸ (List.getElem?_eq_some_iff.1 present).1
    have requested : request.instruments[k]? = some request.instruments[k] :=
      List.getElem?_eq_getElem below
    obtain ⟨bound, first, c, ran⟩ := each k i _ (List.getElem?_zip_eq_some.2 ⟨present, requested⟩)
    obtain ⟨bound', found, second⟩ := Resolution.own_of_resolve resolved present requested
    rw [Nat.zero_add, second] at first
    cases first
    rw [Nat.zero_add, Bindings.deps, found]
    exact ⟨c, ran, trivial⟩
  obtain ⟨collected, ran, _⟩ := contributionsFrom_ok contributed
  have again := yields_of_collected built resolved ran
  obtain rfl : contributions = collected :=
    List.right_unique_forall₂' Yields.rightUnique yields again
  exact ⟨bindings, resolved, ran⟩

theorem ensureUnique_perm {instruments instruments' : List Instrument}
    (order : instruments.Perm instruments') (unique : ensureUnique (instruments.map Instrument.vars) = .ok ()) :
    ensureUnique (instruments'.map Instrument.vars) = .ok () := by
  have vars : (allVariables (instruments.map Instrument.vars)).Perm
      (allVariables (instruments'.map Instrument.vars)) := (order.map _).flatMap_right _
  obtain ⟨valid, distinct⟩ := ensureUnique_eq_ok_iff.1 unique
  refine ensureUnique_eq_ok_iff.2 ⟨fun v member => valid v (vars.mem_iff.2 member), ?_⟩
  exact (vars.map _).nodup_iff.1 distinct

theorem given_perm {contributions contributions' : List Contribution}
    (order : contributions.Perm contributions') :
    (Table.given (collectTables contributions)).Perm (Table.given (collectTables contributions')) :=
  ((order.filterMap _).flatMap_right _).map _

/-- A reordered request reaches the same contributions in another order. -/
theorem Stages.Reached.reorder {s : Stages} (reached : s.Reached catalog request)
    {requests : List InstrumentRequest} (order : requests.Perm request.instruments) :
    ∃ s' : Stages, s'.Reached catalog { request with instruments := requests } ∧
      s'.contributions.Perm s.contributions := by
  obtain ⟨instruments, built, reordered⟩ :=
    List.perm_comp_forall₂ order (Outcome.mapM_eq_ok_iff.1 reached.built)
  obtain ⟨contributions, yields, moved⟩ := List.perm_comp_forall₂ order
    (yields_of_collected reached.built reached.resolved reached.collected)
  have here : List.Forall₂ (Yields catalog instruments) requests contributions :=
    yields.imp fun _ _ => Yields.perm reordered.symm
  have built : instantiateAll catalog { request with instruments := requests } = .ok instruments :=
    Outcome.mapM_eq_ok_iff.2 built
  obtain ⟨bindings, resolved, collected⟩ := collected_of_yields built here
  obtain ⟨tables, merged⟩ : ∃ tables, Table.merge (collectTables contributions) = .ok tables := by
    have agree := Table.merge_ok_iff.1 ⟨_, reached.merged⟩
    have same := given_perm moved
    refine Table.merge_ok_iff.2 fun a ha b hb => ?_
    exact agree a (same.mem_iff.1 ha) b (same.mem_iff.1 hb)
  exact ⟨⟨instruments, bindings, contributions, tables⟩,
    ⟨built, ensureUnique_perm reordered.symm reached.unique, resolved, collected, merged⟩, moved⟩

end Runs

/-- Two documents whose tables, slow sequences and functions have the same contents, in any order. -/
structure SameUpToOrder (d d' : Document) : Prop where
  tableNames : ∀ n, n ∈ d.tables.map Table.foldedName ↔ n ∈ d'.tables.map Table.foldedName
  tables : ∀ t ∈ d.tables, ∀ t' ∈ d'.tables, t.foldedName = t'.foldedName →
    t.settings = t'.settings ∧ t.items.Perm t'.items
  sequenceIds : ∀ n, n ∈ d.sequences.map SlowSequence.id ↔ n ∈ d'.sequences.map SlowSequence.id
  sequences : ∀ s ∈ d.sequences, ∀ s' ∈ d'.sequences, s.id = s'.id → s.lines.Perm s'.lines
  functions : ∀ f, f ∈ d.functions ↔ f ∈ d'.functions

theorem sameUpToOrder_of_reached {catalog : Catalog} {request request' : ProgramRequest} {s s' : Stages}
    (reached : s.Reached catalog request) (reached' : s'.Reached catalog request')
    (moved : s'.contributions.Perm s.contributions) :
    SameUpToOrder (s.document request) (s'.document request') := by
  have tables := (Table.gathered_merge reached.merged).perm (given_perm moved.symm)
    (Table.gathered_merge reached'.merged)
  have sequences := (SlowSequence.gathered_group (collectSequences s.contributions)).perm
    (moved.symm.filterMap _) (SlowSequence.gathered_group (collectSequences s'.contributions))
  refine ⟨tables.1, tables.2, sequences.1, fun x hx y hy same => (sequences.2 x hx y hy same).2, ?_⟩
  intro f
  simp only [Stages.document, document, mem_collectFunctions, moved.mem_iff]

/-- Whether a program is assembled does not depend on the order of its instruments, and of what is
assembled only the order does. -/
theorem assemble_reordered {catalog : Catalog} {request : ProgramRequest}
    {requests : List InstrumentRequest} (order : requests.Perm request.instruments) :
    ((∃ d, assemble catalog { request with instruments := requests } = .ok d) ↔
      ∃ d, assemble catalog request = .ok d) ∧
    ∀ d d', assemble catalog request = .ok d →
      assemble catalog { request with instruments := requests } = .ok d' → SameUpToOrder d d' := by
  constructor
  · constructor
    · rintro ⟨d, made⟩
      obtain ⟨s, reached, _⟩ := assemble_eq_ok_iff.1 made
      obtain ⟨s', reached', _⟩ := reached.reorder order.symm
      exact ⟨_, assemble_eq_ok_iff.2 ⟨s', reached', rfl⟩⟩
    · rintro ⟨d, made⟩
      obtain ⟨s, reached, _⟩ := assemble_eq_ok_iff.1 made
      obtain ⟨s', reached', _⟩ := reached.reorder order
      exact ⟨_, assemble_eq_ok_iff.2 ⟨s', reached', rfl⟩⟩
  · intro d d' made made'
    obtain ⟨s, reached, rfl⟩ := assemble_eq_ok_iff.1 made
    obtain ⟨s', reached', moved⟩ := reached.reorder order
    rw [assemble_eq_ok_iff.2 ⟨s', reached', rfl⟩] at made'
    cases made'
    exact sameUpToOrder_of_reached reached reached' moved

/-! Two batteries at different heights write to one table, and a modem sheds load by the upper one. -/

namespace Reordering

def battery (label : String) (elevation : Int) : InstrumentRequest :=
  ⟨"Campbell_CR1000X_Battery", { InstrumentSettings.standard with
    label := some label
    elevation := some elevation
    nameInclusion := .elevation }, .empty⟩

def modem : InstrumentRequest :=
  ⟨"Sierra_RV50X", .standard, .ofList
    [("battery_voltage", ⟨"upper", "batt_volt"⟩), ("shutoff_voltage", ⟨"upper", "shutoff_voltage"⟩)]⟩

def mast : ProgramRequest where
  name := "Mast"
  options := ⟨.sequential, true, .standard, ⟨2024, 1, 1⟩, none⟩
  instruments := [modem, battery "upper" 300, battery "lower" (-20)]

end Reordering

open Reordering in
theorem mast_reordered :
    mast.instruments.reverse.Perm mast.instruments ∧
      ∃ d d', assemble Instruments.builtin mast = .ok d ∧
        assemble Instruments.builtin { mast with instruments := mast.instruments.reverse } = .ok d' ∧
        SameUpToOrder d d' := by
  have order : mast.instruments.reverse.Perm mast.instruments := List.reverse_perm _
  have made : ∃ d, assemble Instruments.builtin mast = .ok d ∧ true = true :=
    Outcome.exists_ok_of_all (by decide +kernel)
  obtain ⟨d, made, _⟩ := made
  obtain ⟨same, agree⟩ := @assemble_reordered Instruments.builtin _ _ order
  obtain ⟨d', made'⟩ := same.2 ⟨d, made⟩
  exact ⟨order, d, d', made, made', agree d d' made made'⟩

end Datalogger
