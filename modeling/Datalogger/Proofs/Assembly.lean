import Datalogger.Assembly
import Datalogger.Proofs.Names
import Datalogger.Proofs.Outcome

/-!
Runs of assembly. A document is the last of a chain of stages, each of which reads the ones before it;
an error is the error of one stage whose predecessors all succeeded.
-/

namespace Datalogger

open Assembly

/-- What a run has in hand when it lays the document out. -/
structure Stages where
  instruments : List Instrument
  bindings : Bindings
  contributions : List Contribution
  tables : List (Table String)

def instantiateAll (catalog : Catalog) (request : ProgramRequest) : Except Error (List Instrument) :=
  request.instruments.mapM fun r => catalog.instantiate r.typeId r.settings

structure Stages.Reached (s : Stages) (catalog : Catalog) (request : ProgramRequest) : Prop where
  built : instantiateAll catalog request = .ok s.instruments
  unique : ensureUnique (s.instruments.map Instrument.vars) = .ok ()
  resolved : resolve s.instruments request.instruments = .ok s.bindings
  collected : contributionsFrom s.bindings 0 s.instruments = .ok s.contributions
  merged : Table.merge (collectTables s.contributions) = .ok s.tables

def Stages.document (s : Stages) (request : ProgramRequest) : Document :=
  Assembly.document request s.instruments s.contributions s.tables

theorem assemble_eq_ok_iff {catalog : Catalog} {request : ProgramRequest} {d : Document} :
    assemble catalog request = .ok d ↔
      ∃ s : Stages, s.Reached catalog request ∧ d = s.document request := by
  unfold assemble
  constructor
  · intro made
    obtain ⟨instruments, built, made⟩ := Outcome.bind_eq_ok_iff.1 made
    obtain ⟨_, unique, made⟩ := Outcome.bind_eq_ok_iff.1 made
    obtain ⟨bindings, resolved, made⟩ := Outcome.bind_eq_ok_iff.1 made
    obtain ⟨contributions, collected, made⟩ := Outcome.bind_eq_ok_iff.1 made
    obtain ⟨tables, merged, laid⟩ := Outcome.bind_eq_ok_iff.1 made
    cases laid
    exact ⟨⟨instruments, bindings, contributions, tables⟩,
      ⟨built, unique, resolved, collected, merged⟩, rfl⟩
  · rintro ⟨s, reached, rfl⟩
    refine Outcome.bind_eq_ok_iff.2 ⟨_, reached.built, ?_⟩
    refine Outcome.bind_eq_ok_iff.2 ⟨_, reached.unique, ?_⟩
    refine Outcome.bind_eq_ok_iff.2 ⟨_, reached.resolved, ?_⟩
    refine Outcome.bind_eq_ok_iff.2 ⟨_, reached.collected, ?_⟩
    exact Outcome.bind_eq_ok_iff.2 ⟨_, reached.merged, rfl⟩

inductive FailsWith (catalog : Catalog) (request : ProgramRequest) (e : Error) : Prop where
  | building (failed : instantiateAll catalog request = .error e)
  | naming (instruments : List Instrument) (built : instantiateAll catalog request = .ok instruments)
      (failed : ensureUnique (instruments.map Instrument.vars) = .error e)
  | resolving (instruments : List Instrument)
      (built : instantiateAll catalog request = .ok instruments)
      (unique : ensureUnique (instruments.map Instrument.vars) = .ok ())
      (failed : resolve instruments request.instruments = .error e)
  | collecting (instruments : List Instrument) (bindings : Bindings)
      (built : instantiateAll catalog request = .ok instruments)
      (unique : ensureUnique (instruments.map Instrument.vars) = .ok ())
      (resolved : resolve instruments request.instruments = .ok bindings)
      (failed : (contributionsFrom bindings 0 instruments >>= fun contributions =>
        Table.merge (collectTables contributions)) = .error e)

theorem failsWith_of_assemble {catalog : Catalog} {request : ProgramRequest} {e : Error}
    (failed : assemble catalog request = .error e) : FailsWith catalog request e := by
  unfold assemble at failed
  rcases Outcome.bind_eq_error_iff.1 failed with failed | ⟨instruments, built, failed⟩
  · exact .building failed
  rcases Outcome.bind_eq_error_iff.1 failed with failed | ⟨_, unique, failed⟩
  · exact .naming instruments built failed
  rcases Outcome.bind_eq_error_iff.1 failed with failed | ⟨bindings, resolved, failed⟩
  · exact .resolving instruments built unique failed
  refine .collecting instruments bindings built unique resolved ?_
  rcases Outcome.bind_eq_error_iff.1 failed with failed | ⟨contributions, collected, failed⟩
  · exact Outcome.bind_eq_error_iff.2 (.inl failed)
  · refine Outcome.bind_eq_error_iff.2 (.inr ⟨contributions, collected, ?_⟩)
    rcases Outcome.bind_eq_error_iff.1 failed with failed | ⟨_, _, never⟩
    · exact failed
    · cases never

theorem contributionsFrom_cons_eq_ok_iff {bindings : Bindings} {start : Nat} {i : Instrument}
    {rest : List Instrument} {contributions : List Contribution} :
    contributionsFrom bindings start (i :: rest) = .ok contributions ↔ ∃ c others,
      i.contribution (bindings.deps start i.id) = .ok c ∧
        contributionsFrom bindings (start + 1) rest = .ok others ∧ contributions = c :: others := by
  rw [contributionsFrom]
  constructor
  · intro collected
    obtain ⟨c, first, collected⟩ := Outcome.bind_eq_ok_iff.1 collected
    obtain ⟨others, later, same⟩ := Outcome.bind_eq_ok_iff.1 collected
    cases same
    exact ⟨c, others, first, later, rfl⟩
  · rintro ⟨c, others, first, later, rfl⟩
    exact Outcome.bind_eq_ok_iff.2 ⟨c, first, Outcome.bind_eq_ok_iff.2 ⟨others, later, rfl⟩⟩

theorem length_contributionsFrom {bindings : Bindings} {start : Nat} {instruments : List Instrument}
    {contributions : List Contribution}
    (collected : contributionsFrom bindings start instruments = .ok contributions) :
    contributions.length = instruments.length := by
  induction instruments generalizing start contributions with
  | nil =>
    cases collected
    rfl
  | cons i rest ih =>
    obtain ⟨c, others, _, tail, rfl⟩ := contributionsFrom_cons_eq_ok_iff.1 collected
    rw [List.length_cons, List.length_cons, ih tail]

/-- The facets of each instrument run under the bindings of its own position. -/
theorem contributionsFrom_spec {bindings : Bindings} {start : Nat} {instruments : List Instrument}
    {contributions : List Contribution}
    (collected : contributionsFrom bindings start instruments = .ok contributions) {k : Nat}
    {i : Instrument} (present : instruments[k]? = some i) :
    ∃ c, contributions[k]? = some c ∧ i.contribution (bindings.deps (start + k) i.id) = .ok c := by
  induction instruments generalizing start contributions k with
  | nil => simp at present
  | cons i' rest ih =>
    obtain ⟨c, others, first, tail, rfl⟩ := contributionsFrom_cons_eq_ok_iff.1 collected
    cases k with
    | zero =>
      cases present
      exact ⟨c, rfl, first⟩
    | succ k =>
      obtain ⟨c', there, later⟩ := ih tail (by simpa using present)
      refine ⟨c', by simpa using there, ?_⟩
      rwa [show start + 1 + k = start + (k + 1) by omega] at later

theorem contributionsFrom_ok {bindings : Bindings} {P : Contribution → Prop} {start : Nat}
    {instruments : List Instrument}
    (each : ∀ k (i : Instrument), instruments[k]? = some i →
      ∃ c, i.contribution (bindings.deps (start + k) i.id) = .ok c ∧ P c) :
    ∃ contributions, contributionsFrom bindings start instruments = .ok contributions ∧
      ∀ c ∈ contributions, P c := by
  induction instruments generalizing start with
  | nil => exact ⟨[], rfl, by simp⟩
  | cons i rest ih =>
    obtain ⟨c, first, hc⟩ := each 0 i rfl
    have later : ∀ k (j : Instrument), rest[k]? = some j →
        ∃ c, j.contribution (bindings.deps (start + 1 + k) j.id) = .ok c ∧ P c := by
      intro k j present
      obtain ⟨c, ran, hc⟩ := each (k + 1) j (by simpa using present)
      rw [show start + (k + 1) = start + 1 + k by omega] at ran
      exact ⟨c, ran, hc⟩
    obtain ⟨others, tail, ho⟩ := ih later
    refine ⟨c :: others, ?_, List.forall_mem_cons.2 ⟨hc, ho⟩⟩
    exact contributionsFrom_cons_eq_ok_iff.2 ⟨c, others, first, tail, rfl⟩

theorem Stages.Reached.request_at {catalog : Catalog} {request : ProgramRequest} {s : Stages}
    (reached : s.Reached catalog request) {position : Nat} {i : Instrument}
    (present : s.instruments[position]? = some i) :
    ∃ r, request.instruments[position]? = some r ∧ catalog.instantiate r.typeId r.settings = .ok i :=
  Outcome.exists_getElem?_of_forall₂ (Outcome.mapM_eq_ok_iff.1 reached.built) present

end Datalogger
