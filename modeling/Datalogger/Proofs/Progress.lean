import Datalogger.Proofs.Assembly
import Datalogger.Proofs.DeclarationSection
import Datalogger.Proofs.Instruments.Builtin
import Datalogger.Proofs.ResolutionOutcome
import Datalogger.Proofs.TableMerge

/-!
Assembly over the built-in catalog. Once all instruments are built, only two things can go wrong: two
names of the program can be the same, and a dependency can be missing. No facet fails and no tables
conflict.
-/

namespace Datalogger

open Instruments Assembly

section Run

variable {request : ProgramRequest} {instruments : List Instrument}

theorem described_at (built : instantiateAll builtin request = .ok instruments) {position : Nat}
    {i : Instrument} (present : instruments[position]? = some i) :
    ∃ r, request.instruments[position]? = some r ∧ Described r.settings i := by
  obtain ⟨r, requested, made⟩ :=
    Outcome.exists_getElem?_of_forall₂ (Outcome.mapM_eq_ok_iff.1 built) present
  exact ⟨r, requested, described_of_instantiate made⟩

theorem identifiers_of_instantiateAll (bounded : ∀ r ∈ request.instruments, r.settings.Bounded)
    (built : instantiateAll builtin request = .ok instruments) :
    ∀ v ∈ allVariables (instruments.map Instrument.vars), isIdentifier v.effectiveName = true := by
  intro v member
  obtain ⟨set, hset, hv⟩ := mem_allVariables.1 member
  obtain ⟨i, hi, rfl⟩ := List.mem_map.1 hset
  obtain ⟨position, present⟩ := List.mem_iff_getElem?.1 hi
  obtain ⟨r, requested, described⟩ := described_at built present
  obtain ⟨D, o, p, describes, made, rfl⟩ := described.exists_design
  exact describes.sound.identifiers made (bounded r (List.mem_of_getElem? requested)) v hv

theorem contribution_at {L : TextLaw}
    (fits : ∀ r ∈ request.instruments, ∀ D o, Describes D o r.settings → D.Fits L o)
    (built : instantiateAll builtin request = .ok instruments)
    (unique : ensureUnique (instruments.map Instrument.vars) = .ok ()) {bindings : Bindings}
    (resolved : resolve instruments request.instruments = .ok bindings) {position : Nat}
    {i : Instrument} (present : instruments[position]? = some i) :
    ∃ c, i.contribution (bindings.deps position i.id) = .ok c ∧ PlainContribution L c := by
  have valid : ∀ {j : Instrument}, j ∈ instruments → ∀ v ∈ j.vars.vars,
      isIdentifier v.effectiveName = true := fun hj v hv =>
    (ensureUnique_eq_ok_iff.1 unique).1 v (mem_allVariables.2 ⟨_, List.mem_map_of_mem hj, hv⟩)
  obtain ⟨r, requested, described⟩ := described_at built present
  obtain ⟨D, o, p, describes, made, rfl⟩ := described.exists_design
  have sees := seesOwn_of_resolve resolved present requested
  have bound : ∀ dependency ∈ D.dependencies,
      ∃ t, (bindings.deps position p.id).name dependency.name = .ok t ∧ Word t := by
    intro dependency member
    have own : dependency ∈ (Instrument.ofOutline p o).dependencies := by
      change dependency ∈ p.dependencies
      rw [made.dependencies]
      exact member
    obtain ⟨_, _, source, v, _, refers, named⟩ := sees.bound dependency own
    have owner : source ∈ instruments := List.mem_of_getElem? refers.present
    exact ⟨v.effectiveName, named, word_of_isIdentifier (valid owner v refers.owned)⟩
  have serves := describes.sound.serves made (valid (List.mem_of_getElem? present)) bound
  exact serves.contribution (fits r (List.mem_of_getElem? requested) D o describes)

theorem exists_reached {L : TextLaw}
    (fits : ∀ r ∈ request.instruments, ∀ D o, Describes D o r.settings → D.Fits L o)
    (built : instantiateAll builtin request = .ok instruments)
    (unique : ensureUnique (instruments.map Instrument.vars) = .ok ()) {bindings : Bindings}
    (resolved : resolve instruments request.instruments = .ok bindings) :
    ∃ contributions tables,
      Stages.Reached ⟨instruments, bindings, contributions, tables⟩ builtin request ∧
        (∀ c ∈ contributions, PlainContribution L c) ∧ ∀ t ∈ tables, PlainTable L t := by
  have each : ∀ k (i : Instrument), instruments[k]? = some i →
      ∃ c, i.contribution (bindings.deps (0 + k) i.id) = .ok c ∧ PlainContribution L c := by
    intro k i present
    rw [Nat.zero_add]
    exact contribution_at fits built unique resolved present
  obtain ⟨contributions, collected, plain⟩ := contributionsFrom_ok each
  obtain ⟨tables, merged, plainTables⟩ := Table.plain_merge plain
  exact ⟨contributions, tables, ⟨built, unique, resolved, collected, merged⟩, plain, plainTables⟩

end Run

/-- What is left to go wrong once the instruments of a request are built. -/
structure Progress (request : ProgramRequest) (instruments : List Instrument) : Prop where
  /-- No name is refused for itself. -/
  names : ensureUnique (instruments.map Instrument.vars) = .ok () ∨ ∃ name first second,
    ensureUnique (instruments.map Instrument.vars) =
      .error (.duplicateVariableName name first second)
  facets : ensureUnique (instruments.map Instrument.vars) = .ok () →
    ∀ bindings, resolve instruments request.instruments = .ok bindings →
      ∀ position (i : Instrument), instruments[position]? = some i →
        ∃ c, i.contribution (bindings.deps position i.id) = .ok c
  document : ensureUnique (instruments.map Instrument.vars) = .ok () →
    ∀ bindings, resolve instruments request.instruments = .ok bindings →
      ∃ d, assemble builtin request = .ok d

/-- Errors that a program of built-in instruments never meets. -/
def avertedKinds : List String :=
  ["table_conflict", "unknown_variable", "unconnected_wiring_role", "invalid_declaration",
    "invalid_variable_name"]

section Bounded

variable {request : ProgramRequest} (bounded : ∀ r ∈ request.instruments, r.settings.Bounded)

include bounded

theorem progress_of_instantiateAll {instruments : List Instrument}
    (built : instantiateAll builtin request = .ok instruments) : Progress request instruments where
  names := ensureUnique_of_identifiers (identifiers_of_instantiateAll bounded built)
  facets := by
    intro unique bindings resolved position i present
    obtain ⟨c, ran, _⟩ := contribution_at (fun _ _ _ _ => Describes.fits) built unique resolved present
    exact ⟨c, ran⟩
  document := by
    intro unique bindings resolved
    obtain ⟨contributions, tables, reached, _⟩ :=
      exists_reached (fun _ _ _ _ => Describes.fits) built unique resolved
    exact ⟨_, assemble_eq_ok_iff.2 ⟨_, reached, rfl⟩⟩

theorem not_averted_of_assemble {e : Error} (failed : assemble builtin request = .error e) :
    e.kind ∉ avertedKinds := by
  cases failsWith_of_assemble failed with
  | building failed =>
    obtain ⟨r, _, refused⟩ := Outcome.exists_of_mapM_error failed
    have kind := kind_of_instantiate_error refused
    intro averted
    simp only [avertedKinds, List.mem_cons, List.not_mem_nil, or_false] at kind averted
    rcases kind with kind | kind | kind | kind <;> simp [kind] at averted
  | naming instruments built failed =>
    rcases ensureUnique_of_identifiers (identifiers_of_instantiateAll bounded built) with
      accepted | ⟨name, first, second, duplicate⟩
    · rw [accepted] at failed
      cases failed
    · rw [duplicate] at failed
      cases failed
      simp [avertedKinds, Error.kind]
  | resolving instruments built unique failed =>
    obtain ⟨instrument, dependency, reason, rfl⟩ := error_of_resolve failed
    simp [avertedKinds, Error.kind]
  | collecting instruments bindings built unique resolved failed =>
    obtain ⟨contributions, tables, reached, _⟩ :=
      exists_reached (fun _ _ _ _ => Describes.fits) built unique resolved
    rw [reached.collected, Outcome.bind_eq_error_iff] at failed
    rcases failed with never | ⟨_, same, conflict⟩
    · cases never
    · cases same
      rw [reached.merged] at conflict
      cases conflict

end Bounded

/-- Once its instruments are built, a request becomes a document unless a name is repeated or a dependency
is missing. Errors of some kinds are never met. -/
theorem assembly_progress {request : ProgramRequest}
    (bounded : ∀ r ∈ request.instruments, r.settings.Bounded) :
    (∀ instruments, instantiateAll builtin request = .ok instruments →
      Progress request instruments) ∧
    ∀ e, assemble builtin request = .error e → e.kind ∉ avertedKinds :=
  ⟨fun _ => progress_of_instantiateAll bounded, fun _ => not_averted_of_assemble bounded⟩

/-! Two sensors at the least elevation there is, with the longest suffix on all their names. -/

namespace Progress

def deepest (symbol : Char) (h : symbol.isAlphanum = true) : InstrumentSettings :=
  { InstrumentSettings.standard with
    elevation := some Range.leastInt32
    address := some ⟨symbol, h⟩
    nameInclusion := .both }

def shaft : ProgramRequest where
  name := "Shaft"
  options := ⟨.sequential, true, .standard, ⟨2024, 1, 1⟩, none⟩
  instruments :=
    [⟨"Campbell_SnowVue10", deepest '1' (by decide),
        .ofList [("air_temperature", ⟨"Vaisala_HMP155", "air_temp"⟩)]⟩,
      ⟨"Vaisala_HMP155", deepest 'z' (by decide), .empty⟩]

end Progress

open Progress in
theorem shaft_progress :
    (∀ r ∈ shaft.instruments, r.settings.Bounded) ∧
      (∃ instruments bindings, instantiateAll builtin shaft = .ok instruments ∧
        ensureUnique (instruments.map Instrument.vars) = .ok () ∧
        resolve instruments shaft.instruments = .ok bindings ∧ Progress shaft instruments) ∧
      ∀ e, assemble builtin shaft = .error e → e.kind ∉ avertedKinds := by
  have bounded : ∀ r ∈ shaft.instruments, r.settings.Bounded := by
    intro r member e given
    have least : r.settings.elevation = some Range.leastInt32 := by
      rcases List.mem_cons.1 member with rfl | member
      · rfl
      · rw [List.mem_singleton.1 member]
        rfl
    rw [least] at given
    cases given
    decide
  have made : ∃ d, assemble builtin shaft = .ok d ∧ true = true :=
    Outcome.exists_ok_of_all (by decide +kernel)
  obtain ⟨d, made, _⟩ := made
  obtain ⟨s, reached, _⟩ := assemble_eq_ok_iff.1 made
  obtain ⟨progress, averted⟩ := assembly_progress bounded
  exact ⟨bounded, ⟨s.instruments, s.bindings, reached.built, reached.unique, reached.resolved,
    progress _ reached.built⟩, averted⟩

end Datalogger
