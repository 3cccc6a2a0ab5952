import Datalogger.Catalog
import Datalogger.Proofs.DeclarationCheck
import Datalogger.Proofs.Declarations
import Datalogger.Proofs.Design
import Datalogger.Proofs.WiringOverrides
import Mathlib.Data.List.Nodup

/-!
Instances of a design. Their names are those of the design, with the suffix that their settings ask for
on all but the registers, and they are identifiers. Once the names of the program are unique and its
dependencies bound, an instance serves its design: every lookup in its outline succeeds.
-/

namespace Datalogger

open Text (OneLine fold)

/-- What keeps the instances of a design free of faults of its own. -/
structure Design.Sound (D : Design) : Prop where
  roomy : ∀ v ∈ D.vars, Roomy v.name
  fresh : ∀ v ∈ D.vars, v.rename = none
  names : VariableSet.firstRepeated [] D.vars = none
  registers : VariableSet.firstFault (D.declarations.filterMap Declaration.register?) = none

/-- A test for sound designs. Names that differ up to case do so in their bytes. -/
def Design.isSound (D : Design) : Bool :=
  (D.vars.all fun v => roomyBytes (Text.bytes v.name) && v.rename.isNone) &&
    decide (D.vars.map fun v => foldBytes (Text.bytes v.name)).Nodup &&
    (VariableSet.firstFault (D.declarations.filterMap Declaration.register?)).isNone

theorem Design.sound_of_isSound {D : Design} (passed : D.isSound = true) : D.Sound := by
  simp only [isSound, Bool.and_eq_true, List.all_eq_true, decide_eq_true_eq,
    Option.isNone_iff_eq_none] at passed
  obtain ⟨⟨vars, distinct⟩, registers⟩ := passed
  have folded : ∀ v ∈ D.vars, foldBytes (Text.bytes v.name) = (fold v.name).toList.map Char.toNat := by
    intro v member
    exact foldBytes_eq (wordBytes_of_roomyBytes (vars v member).1)
  have names : (D.vars.map fun v => fold v.name).Nodup := by
    rw [List.map_congr_left folded] at distinct
    refine List.Nodup.of_map (fun s => s.toList.map Char.toNat) ?_
    rwa [List.map_map]
  exact ⟨fun v member => .of_test (vars v member).1, fun v member => (vars v member).2,
    VariableSet.firstRepeated_eq_none_iff.2 ⟨names, by simp⟩, registers⟩

/-- The texts of a design that go into a document as they are contain no line breaks. -/
structure Design.Legible (D : Design) : Prop where
  descriptor : ∀ t ∈ [D.descriptor.typeId, D.descriptor.manufacturer, D.descriptor.model,
    D.descriptor.category], OneLine t
  values : ∀ v ∈ D.vars, (∀ t ∈ v.value, OneLine t) ∧ ∀ t ∈ v.units, OneLine t
  wires : ∀ w ∈ D.wiring.wires, OneLine w.role ∧ OneLine w.description
  note : ∀ t ∈ D.wiring.note, OneLine t

def Design.isLegible (D : Design) : Bool :=
  ([D.descriptor.typeId, D.descriptor.manufacturer, D.descriptor.model,
    D.descriptor.category].all fun t => decide (OneLine t)) &&
    (D.vars.all fun v => (v.value.all fun t => decide (OneLine t)) &&
      v.units.all fun t => decide (OneLine t)) &&
    (D.wiring.wires.all fun w => decide (OneLine w.role) && decide (OneLine w.description)) &&
    D.wiring.note.all fun t => decide (OneLine t)

theorem Design.legible_of_isLegible {D : Design} (passed : D.isLegible = true) : D.Legible := by
  simp only [isLegible, Bool.and_eq_true, List.all_eq_true, Option.all_eq_true,
    decide_eq_true_eq] at passed
  obtain ⟨⟨⟨descriptor, values⟩, wires⟩, note⟩ := passed
  exact ⟨descriptor, values, wires, note⟩

theorem Design.Sound.build_vars {D : Design} (sound : D.Sound) (owner : String) :
    VariableSet.build owner D.declarations = .ok ⟨owner, D.declarations⟩ := by
  have vars : VariableSet.vars ⟨owner, D.declarations⟩ = D.vars := rfl
  have registers : VariableSet.registers ⟨owner, D.declarations⟩ =
    D.declarations.filterMap Declaration.register? := rfl
  simp only [VariableSet.build, vars, registers, sound.names, sound.registers]

def Design.parts (D : Design) (s : InstrumentSettings) (w : Wiring) (suffix : Option String) : Parts :=
  let id := Parts.idFor D.descriptor s
  ⟨id, D.descriptor, w, Parts.rename ⟨id, D.declarations⟩ suffix, D.dependencies⟩

/-- The declarations of a sound design are in order, so an instance only needs wiring and a suffix. -/
theorem Design.Sound.build_eq_ok_iff {D : Design} (sound : D.Sound) {o : Outline}
    {s : InstrumentSettings} {i : Instrument} :
    D.build o s = .ok i ↔ ∃ w suffix,
      D.wiring.overridden s.wiring (Parts.idFor D.descriptor s) = .ok w ∧
        s.suffix (Parts.idFor D.descriptor s) = .ok suffix ∧ i = .ofOutline (D.parts s w suffix) o := by
  constructor
  · intro made
    obtain ⟨p, assembled, rfl⟩ := Outcome.map_eq_ok_iff.1 made
    obtain ⟨vars, built, assembled⟩ := Outcome.bind_eq_ok_iff.1 assembled
    obtain ⟨w, moved, assembled⟩ := Outcome.bind_eq_ok_iff.1 assembled
    obtain ⟨suffix, asked, same⟩ := Outcome.bind_eq_ok_iff.1 assembled
    rw [sound.build_vars] at built
    cases built
    cases same
    exact ⟨w, suffix, moved, asked, rfl⟩
  · rintro ⟨w, suffix, moved, asked, rfl⟩
    refine Outcome.map_eq_ok_iff.2 ⟨_, ?_, rfl⟩
    refine Outcome.bind_eq_ok_iff.2 ⟨_, sound.build_vars _, ?_⟩
    refine Outcome.bind_eq_ok_iff.2 ⟨w, moved, ?_⟩
    exact Outcome.bind_eq_ok_iff.2 ⟨suffix, asked, rfl⟩

structure Design.Built (D : Design) (s : InstrumentSettings) (p : Parts) : Prop where
  id : p.id = Parts.idFor D.descriptor s
  descriptor : p.descriptor = D.descriptor
  wiring : D.wiring.MovedTo p.wiring
  vars : ∃ suffix, s.suffix p.id = .ok suffix ∧ p.vars = Parts.rename ⟨p.id, D.declarations⟩ suffix
  dependencies : p.dependencies = D.dependencies

theorem Design.Sound.built_of_build {D : Design} (sound : D.Sound) {o : Outline}
    {s : InstrumentSettings} {i : Instrument} (made : D.build o s = .ok i) :
    ∃ p, D.Built s p ∧ i = .ofOutline p o := by
  obtain ⟨w, suffix, moved, asked, rfl⟩ := sound.build_eq_ok_iff.1 made
  exact ⟨_, ⟨rfl, rfl, Wiring.movedTo_overridden moved, ⟨suffix, asked, rfl⟩, rfl⟩, rfl⟩

def Error.IsConfig (instrument : String) (e : Error) : Prop :=
  ∃ setting reason, e = .instrumentConfig instrument setting reason

theorem Error.IsConfig.kind {instrument : String} {e : Error} (config : e.IsConfig instrument) :
    e.kind = "instrument_config" := by
  obtain ⟨_, _, rfl⟩ := config
  rfl

theorem Error.IsConfig.refusedFor {instrument : String} {e : Error} (config : e.IsConfig instrument) :
    Wiring.RefusedFor instrument e := by
  obtain ⟨setting, reason, rfl⟩ := config
  exact .config setting reason

theorem isConfig_of_suffix_error {s : InstrumentSettings} {instrument : String} {e : Error}
    (failed : s.suffix instrument = .error e) : e.IsConfig instrument := by
  have address : ∀ {a : Option String} {e : Error},
      NameInclusion.addressPart instrument a = .error e → e.IsConfig instrument := by
    intro a e failed
    cases a with
    | none =>
      cases failed
      exact ⟨_, _, rfl⟩
    | some a => cases failed
  have elevation : ∀ {n : Option Int} {e : Error},
      NameInclusion.elevationPart instrument n = .error e → e.IsConfig instrument := by
    intro n e failed
    cases n with
    | none =>
      cases failed
      exact ⟨_, _, rfl⟩
    | some n => cases failed
  unfold InstrumentSettings.suffix NameInclusion.suffix at failed
  split at failed
  · cases failed
  · rcases Outcome.bind_eq_error_iff.1 failed with first | ⟨_, _, never⟩
    · exact address first
    · cases never
  · rcases Outcome.bind_eq_error_iff.1 failed with first | ⟨_, _, never⟩
    · exact elevation first
    · cases never
  · rcases Outcome.bind_eq_error_iff.1 failed with first | ⟨_, _, failed⟩
    · exact address first
    · rcases Outcome.bind_eq_error_iff.1 failed with second | ⟨_, _, never⟩
      · exact elevation second
      · cases never

/-- An instance of a sound design fails for its settings only, and is then named by its id. -/
theorem Design.Sound.refusedFor_of_build {D : Design} (sound : D.Sound) {o : Outline}
    {s : InstrumentSettings} {e : Error} (failed : D.build o s = .error e) :
    Wiring.RefusedFor (Parts.idFor D.descriptor s) e := by
  have assembled : Parts.assemble D.descriptor s D.wiring D.declarations D.dependencies =
      .error e := Outcome.map_eq_error_iff.1 failed
  unfold Parts.assemble at assembled
  rcases Outcome.bind_eq_error_iff.1 assembled with never | ⟨_, _, assembled⟩
  · rw [sound.build_vars] at never
    cases never
  rcases Outcome.bind_eq_error_iff.1 assembled with refused | ⟨_, _, assembled⟩
  · exact Wiring.refusedFor_of_overridden refused
  rcases Outcome.bind_eq_error_iff.1 assembled with refused | ⟨_, _, never⟩
  · exact (isConfig_of_suffix_error refused).refusedFor
  · cases never

section Names

variable {D : Design} {s : InstrumentSettings} {p : Parts}

theorem exists_of_mem_rename {set : VariableSet} {suffix : Option String} {v : Variable}
    (member : v ∈ (Parts.rename set suffix).vars) :
    ∃ w ∈ set.vars, v = w ∨ ∃ t, suffix = some t ∧ v = w.suffixed t := by
  cases suffix with
  | none => exact ⟨v, member, .inl rfl⟩
  | some t =>
    simp only [Parts.rename, VariableSet.suffixed, VariableSet.vars, List.mem_flatMap,
      List.mem_map] at member
    obtain ⟨_, ⟨d, hd, rfl⟩, hv⟩ := member
    have within : ∀ w ∈ d.vars, w ∈ set.vars := fun w hw => List.mem_flatMap.2 ⟨d, hd, hw⟩
    cases d with
    | scalar w =>
      have same : v = w.suffixed t := by simpa [Declaration.suffixed, Declaration.vars] using hv
      exact ⟨w, within w (by simp [Declaration.vars]), .inr ⟨t, rfl, same⟩⟩
    | register r =>
      simp only [Declaration.suffixed, Declaration.vars, Register.vars, Register.suffixed,
        List.mem_cons, List.mem_map] at hv
      rcases hv with rfl | ⟨_, ⟨a, ha, rfl⟩, rfl⟩
      · exact ⟨r.base, within r.base (by simp [Declaration.vars, Register.vars]), .inl rfl⟩
      · refine ⟨a.2, within a.2 ?_, .inr ⟨t, rfl, rfl⟩⟩
        exact List.mem_cons_of_mem _ (List.mem_map_of_mem ha)

theorem effectiveName_rename {set : VariableSet} (fresh : ∀ v ∈ set.vars, v.rename = none)
    {suffix : Option String} {v : Variable} (member : v ∈ (Parts.rename set suffix).vars) :
    ∃ w ∈ set.vars, v.name = w.name ∧
      (v.effectiveName = w.name ∨ ∃ t, suffix = some t ∧ v.effectiveName = w.name ++ t) := by
  obtain ⟨w, hw, rfl | ⟨t, ht, rfl⟩⟩ := exists_of_mem_rename member
  · exact ⟨v, hw, rfl, .inl (by simp [Variable.effectiveName, fresh v hw])⟩
  · exact ⟨w, hw, rfl, .inr ⟨t, ht, rfl⟩⟩

theorem Design.Sound.exists_of_mem_vars (sound : D.Sound) (built : D.Built s p) {v : Variable}
    (member : v ∈ p.vars.vars) :
    ∃ w ∈ D.vars, v.name = w.name ∧ (v.effectiveName = w.name ∨
      ∃ t, s.suffix p.id = .ok (some t) ∧ v.effectiveName = w.name ++ t) := by
  obtain ⟨suffix, asked, same⟩ := built.vars
  have fresh : ∀ w ∈ VariableSet.vars ⟨p.id, D.declarations⟩, w.rename = none := sound.fresh
  obtain ⟨w, hw, declared, plain | ⟨t, rfl, suffixed⟩⟩ := effectiveName_rename fresh (same ▸ member)
  · exact ⟨w, hw, declared, .inl plain⟩
  · exact ⟨w, hw, declared, .inr ⟨t, asked, suffixed⟩⟩

theorem Design.Sound.identifiers (sound : D.Sound) (built : D.Built s p) (bounded : s.Bounded) :
    ∀ v ∈ p.vars.vars, isIdentifier v.effectiveName = true := by
  intro v member
  obtain ⟨w, hw, _, plain | ⟨t, asked, suffixed⟩⟩ := sound.exists_of_mem_vars built member
  · rw [plain]
    exact (sound.roomy w hw).valid
  · rw [suffixed]
    exact (sound.roomy w hw).append (suffix_of_settings bounded asked t rfl)

theorem Design.Built.map_name_vars (built : D.Built s p) :
    p.vars.vars.map Variable.name = D.names := by
  obtain ⟨suffix, _, same⟩ := built.vars
  rw [same]
  cases suffix with
  | none => rfl
  | some t => exact VariableSet.map_name_suffixed t _

theorem Design.Built.map_name_registers (built : D.Built s p) :
    p.vars.registers.map Register.name = D.registerNames := by
  obtain ⟨suffix, _, same⟩ := built.vars
  rw [same]
  cases suffix with
  | none => rfl
  | some t =>
    rw [Parts.rename, VariableSet.registers_suffixed, List.map_map]
    rfl

theorem VariableSet.base_mem_vars {set : VariableSet} {r : Register} (member : r ∈ set.registers) :
    r.base ∈ set.vars := by
  obtain ⟨d, hd, same⟩ := List.mem_filterMap.1 member
  cases d with
  | scalar v => cases same
  | register r' =>
    cases same
    exact List.mem_flatMap.2 ⟨.register r, hd, by simp [Declaration.vars, Register.vars]⟩

theorem VariableSet.exists_name (set : VariableSet) {name : String}
    (member : name ∈ set.vars.map Variable.name) :
    ∃ v ∈ set.vars, v.name = name ∧ set.name name = .ok v.effectiveName := by
  obtain ⟨w, hw, named⟩ := List.mem_map.1 member
  have there : (set.vars.find? (·.name = name)).isSome = true :=
    List.find?_isSome.2 ⟨w, hw, by simpa using named⟩
  obtain ⟨v, found⟩ := Option.isSome_iff_exists.1 there
  refine ⟨v, List.mem_of_find?_eq_some found, by simpa using List.find?_some found, ?_⟩
  rw [VariableSet.name, VariableSet.get?, found]

theorem VariableSet.exists_register (set : VariableSet) {name : String}
    (member : name ∈ set.registers.map Register.name) :
    ∃ r ∈ set.registers, r.name = name ∧ set.register name = .ok r := by
  obtain ⟨w, hw, named⟩ := List.mem_map.1 member
  have there : (set.registers.find? (·.name = name)).isSome = true :=
    List.find?_isSome.2 ⟨w, hw, by simpa using named⟩
  obtain ⟨r, found⟩ := Option.isSome_iff_exists.1 there
  refine ⟨r, List.mem_of_find?_eq_some found, by simpa using List.find?_some found, ?_⟩
  rw [VariableSet.register, found]

theorem Design.Sound.serves_of_words (sound : D.Sound) (built : D.Built s p)
    (words : ∀ v ∈ p.vars.vars, Word v.effectiveName) {d : Deps}
    (bound : ∀ dependency ∈ D.dependencies, ∃ t, d.name dependency.name = .ok t ∧ Word t) :
    D.Serves p d where
  var := by
    intro name member
    rw [← built.map_name_vars] at member
    obtain ⟨v, hv, same, found⟩ := p.vars.exists_name member
    have front : ∃ rest, v.effectiveName = name ++ rest := by
      obtain ⟨w, _, declared, plain | ⟨t, _, suffixed⟩⟩ := sound.exists_of_mem_vars built hv
      · exact ⟨"", by rw [plain, ← declared, same, String.append_empty]⟩
      · exact ⟨t, by rw [suffixed, ← declared, same]⟩
    obtain ⟨rest, front⟩ := front
    refine ⟨rest, ?_, front ▸ words v hv⟩
    rw [Parts.var, found, ← front]
  register := by
    intro name member
    rw [← built.map_name_registers] at member
    obtain ⟨x, hx, same, found⟩ := p.vars.exists_register member
    have effective : x.base.effectiveName = name := by
      simpa [Variable.effectiveName, x.base_isBase.rename, Register.name] using same
    exact ⟨x, found, same, effective ▸ words x.base (VariableSet.base_mem_vars hx)⟩
  terminal := by
    intro role connected
    exact Wiring.exists_terminal (Wiring.connected_of_movedTo built.wiring connected) p.id
  dependency := by
    intro name member
    obtain ⟨dependency, hd, rfl⟩ := List.mem_map.1 member
    exact bound dependency hd

theorem Design.Sound.serves (sound : D.Sound) (built : D.Built s p)
    (valid : ∀ v ∈ p.vars.vars, isIdentifier v.effectiveName = true) {d : Deps}
    (bound : ∀ dependency ∈ D.dependencies, ∃ t, d.name dependency.name = .ok t ∧ Word t) :
    D.Serves p d :=
  sound.serves_of_words built (fun v member => word_of_isIdentifier (valid v member)) bound

end Names

/-- Nothing that a user gave as text contains a line break. -/
structure InstrumentSettings.SingleLine (s : InstrumentSettings) : Prop where
  label : ∀ t, s.label = some t → OneLine t
  params : ∀ name t, s.params.get? name = some (.str t) → OneLine t

structure Parts.Drawn (p : Parts) : Prop where
  descriptor : ∀ t ∈ [p.descriptor.typeId, p.descriptor.manufacturer, p.descriptor.model,
    p.descriptor.category], OneLine t
  wires : ∀ w ∈ p.wiring.wires, OneLine w.role ∧ OneLine w.description
  note : ∀ t ∈ p.wiring.note, OneLine t

structure Parts.Legible (p : Parts) : Prop extends p.Drawn where
  id : OneLine p.id
  names : ∀ v ∈ p.vars.vars, Word v.effectiveName
  values : ∀ v ∈ p.vars.vars, (∀ t ∈ v.value, OneLine t) ∧ ∀ t ∈ v.units, OneLine t

/-- An instance goes by its label, or by its type where it has none. -/
theorem Design.Built.id_iff {D : Design} {s : InstrumentSettings} {p : Parts} (built : D.Built s p)
    {P : String → Prop} (typeId : P D.descriptor.typeId) : P p.id ↔ ∀ t ∈ s.label, P t := by
  rw [built.id, Parts.idFor]
  cases s.label with
  | none => simp [typeId]
  | some t => simp

theorem Design.Legible.drawn {D : Design} {s : InstrumentSettings} {p : Parts} (legible : D.Legible)
    (built : D.Built s p) : p.Drawn where
  descriptor := by
    rw [built.descriptor]
    exact legible.descriptor
  wires := by
    intro w hw
    obtain ⟨x, hx, moved⟩ := built.wiring.exists_wire hw
    rw [moved.role, moved.description]
    exact legible.wires x hx
  note := by
    rw [built.wiring.note]
    exact legible.note

theorem Design.Legible.parts {D : Design} {s : InstrumentSettings} {p : Parts} (legible : D.Legible)
    (built : D.Built s p) (single : s.SingleLine)
    (valid : ∀ v ∈ p.vars.vars, isIdentifier v.effectiveName = true) : p.Legible where
  toDrawn := legible.drawn built
  id := (built.id_iff (legible.descriptor _ (by simp))).2 single.label
  names v hv := word_of_isIdentifier (valid v hv)
  values := by
    intro v hv
    obtain ⟨suffix, _, renamed⟩ := built.vars
    obtain ⟨w, hw, rfl | ⟨t, _, rfl⟩⟩ := exists_of_mem_rename (renamed ▸ hv)
    · exact legible.values v hw
    · exact legible.values w hw

structure Describes (D : Design) (o : Outline) (s : InstrumentSettings) : Prop where
  sound : D.Sound
  legible : D.Legible
  fits : D.Fits .anything o
  singleLine : s.SingleLine → D.Fits .singleLine o

theorem Describes.of_fits {D : Design} {o : Outline} {s : InstrumentSettings}
    (sound : D.isSound = true) (legible : D.isLegible = true) (fits : ∀ L, D.Fits L o) :
    Describes D o s :=
  ⟨Design.sound_of_isSound sound, Design.legible_of_isLegible legible, fits _, fun _ => fits _⟩

/-- Instances of a type are those of a design, whatever the settings, as far as it accepts them. -/
def Designed (e : CatalogEntry) : Prop :=
  ∀ s, (∃ err, e.build s = .error err ∧ err.kind = "instrument_config") ∨
    ∃ D o, Describes D o s ∧ e.build s = D.build o s

theorem designed_of_read {e : CatalogEntry} {α : Type} (read : InstrumentSettings → Except Error α)
    (D : α → Design) (o : α → Outline)
    (refused : ∀ s err, read s = .error err → err.IsConfig e.descriptor.typeId)
    (describes : ∀ s a, read s = .ok a → Describes (D a) (o a) s)
    (build : ∀ s, e.build s = read s >>= fun a => (D a).build (o a) s) : Designed e := by
  intro s
  rw [build s]
  cases outcome : read s with
  | error err => exact .inl ⟨err, rfl, (refused s err outcome).kind⟩
  | ok a => exact .inr ⟨D a, o a, describes s a outcome, rfl⟩

theorem isConfig_of_param_error {α : Type} {sort : String} {convert : Json → Option α}
    {s : InstrumentSettings} {instrument name : String} {default : Option α} {err : Error}
    (failed : s.param sort convert instrument name default = .error err) : err.IsConfig instrument := by
  unfold InstrumentSettings.param at failed
  split at failed
  · split at failed
    · cases failed
    · cases failed
      exact ⟨_, _, rfl⟩
  · split at failed
    · cases failed
    · cases failed
      exact ⟨_, _, rfl⟩

theorem isConfig_of_requireAddress_error {s : InstrumentSettings} {instrument : String} {err : Error}
    (failed : s.requireAddress instrument = .error err) : err.IsConfig instrument := by
  unfold InstrumentSettings.requireAddress at failed
  split at failed
  · cases failed
  · cases failed
    exact ⟨_, _, rfl⟩

theorem isConfig_of_requireElevation_error {s : InstrumentSettings} {instrument : String}
    {err : Error} (failed : s.requireElevation instrument = .error err) : err.IsConfig instrument := by
  unfold InstrumentSettings.requireElevation at failed
  split at failed
  · cases failed
  · cases failed
    exact ⟨_, _, rfl⟩

/-- Of two settings the one that cannot be read is reported, the first one first. -/
theorem isConfig_of_read_both {α β γ : Type} {x : Except Error α} {y : Except Error β} {f : α → β → γ}
    {instrument : String} {err : Error} (first : ∀ {e}, x = .error e → e.IsConfig instrument)
    (second : ∀ {e}, y = .error e → e.IsConfig instrument)
    (failed : (do let a ← x; let b ← y; return f a b) = Except.error err) : err.IsConfig instrument := by
  rcases Outcome.bind_eq_error_iff.1 failed with failed | ⟨_, _, failed⟩
  · exact first failed
  rcases Outcome.bind_eq_error_iff.1 failed with failed | ⟨_, _, never⟩
  · exact second failed
  · cases never

theorem oneLine_of_string {s : InstrumentSettings} {instrument name : String} {default t : String}
    (single : s.SingleLine) (plain : OneLine default)
    (made : s.string instrument name (some default) = .ok t) : OneLine t := by
  unfold InstrumentSettings.string InstrumentSettings.param at made
  split at made
  · rename_i value given
    split at made
    · rename_i x converted
      cases made
      cases value with
      | str u =>
        cases converted
        exact single.params name _ given
      | _ => cases converted
    · cases made
  · cases made
    exact plain

theorem designed_of_fits {e : CatalogEntry} {D : Design} {o : Outline} (sound : D.isSound = true)
    (legible : D.isLegible = true) (fits : ∀ L, D.Fits L o) (build : ∀ s, e.build s = D.build o s) :
    Designed e := fun s =>
  .inr ⟨D, o, .of_fits sound legible fits, build s⟩

end Datalogger
