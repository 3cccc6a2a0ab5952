import Datalogger.Proofs.Instruments.Builtin

/-!
What a type requires is what its instances need. The catalog lists the requirements of a type apart
from the constructor that enforces them; here they are the same. Beyond them an instance only needs
that parameters with a default have their sort, that its wiring takes the overrides, and that the
settings are there which its names carry.
-/

namespace Datalogger

def Json.IsNumber (v : Json) : Prop :=
  (∃ n, v = .int n) ∨ ∃ x, v = .real x

def Json.IsText (v : Json) : Prop :=
  ∃ t, v = .str t

namespace NameInclusion

def usesAddress (m : NameInclusion) : Prop :=
  m = .sdi12 ∨ m = .both

def usesElevation (m : NameInclusion) : Prop :=
  m = .elevation ∨ m = .both

end NameInclusion

namespace InstrumentSettings

variable {s : InstrumentSettings} {instrument name : String}

theorem isSome_numberOf {v : Json} : (numberOf v).isSome = true ↔ v.IsNumber := by
  cases v <;> simp [numberOf, Json.IsNumber]

theorem isSome_textOf {v : Json} : (textOf v).isSome = true ↔ v.IsText := by
  cases v <;> simp [textOf, Json.IsText]

theorem exists_requireAddress :
    (∃ a, s.requireAddress instrument = .ok a) ↔ s.address.isSome = true := by
  cases given : s.address <;> simp [requireAddress, given]

theorem exists_requireElevation :
    (∃ e, s.requireElevation instrument = .ok e) ↔ s.elevation.isSome = true := by
  cases given : s.elevation <;> simp [requireElevation, given]

theorem exists_param {α : Type} {sort : String} {convert : Json → Option α} {default : Option α} :
    (∃ x, s.param sort convert instrument name default = .ok x) ↔
      (∀ v, s.params.get? name = some v → (convert v).isSome = true) ∧
        (s.params.get? name = none → default.isSome = true) := by
  cases given : s.params.get? name with
  | some v => cases read : convert v <;> simp [param, given, read]
  | none => cases default <;> simp [param, given]

theorem exists_number {default : Binary64} :
    (∃ x, s.number instrument name (some default) = .ok x) ↔
      ∀ v, s.params.get? name = some v → v.IsNumber := by
  rw [number, exists_param]
  simp [isSome_numberOf]

theorem exists_string {default : String} :
    (∃ x, s.string instrument name (some default) = .ok x) ↔
      ∀ v, s.params.get? name = some v → v.IsText := by
  rw [string, exists_param]
  simp [isSome_textOf]

theorem exists_number_none :
    (∃ x, s.number instrument name none = .ok x) ↔
      ∃ v, s.params.get? name = some v ∧ v.IsNumber := by
  rw [number, exists_param]
  cases s.params.get? name <;> simp [isSome_numberOf]

structure Nameable (s : InstrumentSettings) : Prop where
  address : s.nameInclusion.usesAddress → s.address.isSome = true
  elevation : s.nameInclusion.usesElevation → s.elevation.isSome = true

theorem exists_suffix : (∃ t, s.suffix instrument = .ok t) ↔ s.Nameable := by
  have parts : s.Nameable ↔ (s.nameInclusion.usesAddress → s.address.isSome = true) ∧
      (s.nameInclusion.usesElevation → s.elevation.isSome = true) :=
    ⟨fun h => ⟨h.address, h.elevation⟩, fun h => ⟨h.1, h.2⟩⟩
  rw [parts, suffix]
  cases s.nameInclusion <;> cases s.address <;> cases s.elevation <;>
    simp [NameInclusion.suffix, NameInclusion.addressPart, NameInclusion.elevationPart, NameInclusion.usesAddress,
      NameInclusion.usesElevation, bind, Except.bind, pure, Except.pure]

end InstrumentSettings

/-- An instance of a sound design needs nothing but overrides that its wiring takes and the settings
that its names carry. -/
theorem Design.Sound.exists_build {D : Design} (sound : D.Sound) {o : Outline}
    {s : InstrumentSettings} :
    (∃ i, D.build o s = .ok i) ↔
      D.wiring.Accepts s.wiring.entries ∧ s.Nameable := by
  rw [← @InstrumentSettings.exists_suffix s (Parts.idFor D.descriptor s),
    ← Wiring.exists_overridden_iff (Parts.idFor D.descriptor s)]
  constructor
  · rintro ⟨i, made⟩
    obtain ⟨w, suffix, moved, asked, _⟩ := sound.build_eq_ok_iff.1 made
    exact ⟨⟨w, moved⟩, suffix, asked⟩
  · rintro ⟨⟨w, moved⟩, suffix, asked⟩
    exact ⟨_, sound.build_eq_ok_iff.2 ⟨w, suffix, moved, asked, rfl⟩⟩

theorem Design.Sound.wiring_of_build {D : Design} (sound : D.Sound) {o : Outline}
    {s : InstrumentSettings} {i : Instrument} (made : D.build o s = .ok i) :
    D.wiring.overridden s.wiring (Parts.idFor D.descriptor s) = .ok i.wiring := by
  obtain ⟨w, _, moved, _, rfl⟩ := sound.build_eq_ok_iff.1 made
  exact moved

namespace Instruments

def optionalNumbers : List (String × String) :=
  [("Campbell_CR1000X_Battery", "shutoff_voltage"), ("ProStar_EMC1", "shutoff_voltage"),
    ("Campbell_SnowVue10", "ground_distance")]

def optionalTexts : List (String × String) :=
  [("ProStar_EMC1", "modbus_host")]

def wirings : List (String × Wiring) :=
  [("RMYoung_05108_77", PropellerWind.wiring), ("RMYoung_09106", UltrasonicWind.wiring),
    ("Setra_CS100", Barometer.wiring), ("Vaisala_HMP155", HumidityProbe.wiring),
    ("Acclima_TDR310N", SoilProbe.wiring), ("EnviroCams_iPatrol", Camera.wiring),
    ("EnviroCams_Scout", Camera.wiring), ("SparkFun_Door_Switch", DoorSwitch.wiring),
    ("OTT_PLS500", PressureProbe.wiring), ("OTT_Pluvio2", PrecipitationGauge.wiring),
    ("Sierra_RV50X", Modem.wiring), ("Campbell_SnowVue10", SnowDepth.wiring),
    ("Apogee_SP510", Pyranometer.wiring)]

def wiringOf (typeId : String) : Wiring :=
  (wirings.lookup typeId).getD .empty

structure Readable (e : CatalogEntry) (s : InstrumentSettings) : Prop where
  address : e.requirements.address = true → s.address.isSome = true
  elevation : e.requirements.elevation = true → s.elevation.isSome = true
  params : ∀ name ∈ e.requirements.params, ∃ v, s.params.get? name = some v ∧ v.IsNumber
  numbers : ∀ name, (e.descriptor.typeId, name) ∈ optionalNumbers →
    ∀ v, s.params.get? name = some v → v.IsNumber
  texts : ∀ name, (e.descriptor.typeId, name) ∈ optionalTexts →
    ∀ v, s.params.get? name = some v → v.IsText

structure Accepts (e : CatalogEntry) (s : InstrumentSettings) : Prop extends Readable e s where
  wiring : (wiringOf e.descriptor.typeId).Accepts s.wiring.entries
  names : s.Nameable

/-- Required settings that are missing, in the order in which a type looks for them. -/
def missing (r : Requirements) (s : InstrumentSettings) : List String :=
  (if r.address = true ∧ s.address = none then ["sdi12_address"] else []) ++
    (if r.elevation = true ∧ s.elevation = none then ["elevation"] else []) ++
      r.params.filter fun name => (s.params.get? name).isNone

structure Enforced (e : CatalogEntry) (s : InstrumentSettings) : Prop where
  accepts : (∃ i, e.build s = .ok i) ↔ Accepts e s
  made : ∀ i, e.build s = .ok i →
    i.id = s.label.getD e.descriptor.typeId ∧ i.dependencies = e.dependencies ∧
      (wiringOf e.descriptor.typeId).overridden s.wiring i.id = .ok i.wiring
  refused : ∀ setting ∈ (missing e.requirements s).head?, ∃ reason,
    e.build s = .error (.instrumentConfig e.descriptor.typeId setting reason)

/-- Instances of a type are made in two stages: what the type reads from the settings goes by its type id,
and then an instance of a sound design is built, which goes by its own id. -/
inductive Staged (e : CatalogEntry) (s : InstrumentSettings) : Prop
  | of_read {α : Type} (read : Except Error α) (D : α → Design) (o : α → Outline)
      (build : e.build s = read >>= fun a => (D a).build (o a) s)
      (sound : ∀ a, (D a).Sound)
      (own : ∀ a, (D a).descriptor = e.descriptor ∧ (D a).dependencies = e.dependencies ∧
        (D a).wiring = wiringOf e.descriptor.typeId)
      (readable : (∃ a, read = .ok a) ↔ Readable e s)
      (config : ∀ err, read = .error err → err.IsConfig e.descriptor.typeId)
      (refused : ∀ setting ∈ (missing e.requirements s).head?, ∃ reason,
        read = .error (.instrumentConfig e.descriptor.typeId setting reason))

theorem Staged.enforced {e : CatalogEntry} {s : InstrumentSettings} (staged : Staged e s) :
    Enforced e s := by
  obtain @⟨α, read, D, o, build, sound, own, readable, _, refused⟩ := staged
  refine ⟨?accepts, ?made, ?refused⟩
  case accepts =>
    have built : ∀ a, (∃ i, (D a).build (o a) s = .ok i) ↔
        (wiringOf e.descriptor.typeId).Accepts s.wiring.entries ∧ s.Nameable := by
      intro a
      rw [(sound a).exists_build, (own a).2.2]
    rw [build]
    constructor
    · rintro ⟨i, made⟩
      obtain ⟨a, given, made⟩ := Outcome.bind_eq_ok_iff.1 made
      obtain ⟨wiring, names⟩ := (built a).1 ⟨i, made⟩
      exact ⟨readable.1 ⟨a, given⟩, wiring, names⟩
    · intro accepts
      obtain ⟨a, given⟩ := readable.2 accepts.toReadable
      obtain ⟨i, made⟩ := (built a).2 ⟨accepts.wiring, accepts.names⟩
      exact ⟨i, Outcome.bind_eq_ok_iff.2 ⟨a, given, made⟩⟩
  case made =>
    intro i made
    rw [build] at made
    obtain ⟨a, _, made⟩ := Outcome.bind_eq_ok_iff.1 made
    have moved := (sound a).wiring_of_build made
    obtain ⟨p, built, rfl⟩ := (sound a).built_of_build made
    have id : p.id = s.label.getD e.descriptor.typeId := by rw [built.id, (own a).1, Parts.idFor]
    refine ⟨id, built.dependencies.trans (own a).2.1, ?_⟩
    rw [(own a).1, (own a).2.2, Parts.idFor, ← id] at moved
    exact moved
  case refused =>
    intro setting first
    obtain ⟨reason, failed⟩ := refused setting first
    exact ⟨reason, by rw [build, failed]; rfl⟩

theorem readable_iff {e : CatalogEntry} {s : InstrumentSettings} : Readable e s ↔
    (e.requirements.address = true → s.address.isSome = true) ∧
    (e.requirements.elevation = true → s.elevation.isSome = true) ∧
    (∀ name ∈ e.requirements.params, ∃ v, s.params.get? name = some v ∧ v.IsNumber) ∧
    (∀ name, (e.descriptor.typeId, name) ∈ optionalNumbers →
      ∀ v, s.params.get? name = some v → v.IsNumber) ∧
    ∀ name, (e.descriptor.typeId, name) ∈ optionalTexts →
      ∀ v, s.params.get? name = some v → v.IsText :=
  ⟨fun h => ⟨h.address, h.elevation, h.params, h.numbers, h.texts⟩,
    fun h => ⟨h.1, h.2.1, h.2.2.1, h.2.2.2.1, h.2.2.2.2⟩⟩

theorem readable_iff_of_not_listed {e : CatalogEntry} {s : InstrumentSettings}
    (plain : e.descriptor.typeId ∉ (optionalNumbers ++ optionalTexts).map Prod.fst) : Readable e s ↔
    (e.requirements.address = true → s.address.isSome = true) ∧
    (e.requirements.elevation = true → s.elevation.isSome = true) ∧
    (∀ name ∈ e.requirements.params, ∃ v, s.params.get? name = some v ∧ v.IsNumber) := by
  have absent : ∀ name, (e.descriptor.typeId, name) ∉ optionalNumbers ++ optionalTexts :=
    fun name listed => plain (List.mem_map_of_mem listed)
  constructor
  · exact fun h => ⟨h.address, h.elevation, h.params⟩
  · rintro ⟨address, elevation, params⟩
    refine ⟨address, elevation, params, fun name listed => ?_, fun name listed => ?_⟩
    · exact absurd (List.mem_append_left _ listed) (absent name)
    · exact absurd (List.mem_append_right _ listed) (absent name)

theorem staged_of_nothing {e : CatalogEntry} {s : InstrumentSettings} (D : Design) (o : Outline)
    (build : e.build s = D.build o s) (sound : D.isSound = true)
    (own : D.descriptor = e.descriptor ∧ D.dependencies = e.dependencies ∧
      D.wiring = wiringOf e.descriptor.typeId)
    (nothing : e.requirements = .nothing)
    (plain : e.descriptor.typeId ∉ (optionalNumbers ++ optionalTexts).map Prod.fst) :
    Staged e s := by
  refine .of_read (.ok ()) (fun _ => D) (fun _ => o) build
    (fun _ => Design.sound_of_isSound sound) (fun _ => own) (iff_of_true ⟨(), rfl⟩ ?_) nofun ?_
  · rw [readable_iff_of_not_listed plain]
    simp [nothing, Requirements.nothing]
  · simp [missing, nothing, Requirements.nothing]

theorem staged_of_address {e : CatalogEntry} {s : InstrumentSettings} (D : Design)
    (o : Sdi12Address → Outline)
    (build : e.build s = s.requireAddress e.descriptor.typeId >>= fun a => D.build (o a) s)
    (sound : D.isSound = true)
    (own : D.descriptor = e.descriptor ∧ D.dependencies = e.dependencies ∧
      D.wiring = wiringOf e.descriptor.typeId)
    (address : e.requirements = { Requirements.nothing with address := true })
    (plain : e.descriptor.typeId ∉ (optionalNumbers ++ optionalTexts).map Prod.fst) :
    Staged e s := by
  refine .of_read (s.requireAddress e.descriptor.typeId) (fun _ => D) o build
    (fun _ => Design.sound_of_isSound sound) (fun _ => own) ?_
    (fun _ => isConfig_of_requireAddress_error) ?_
  · rw [InstrumentSettings.exists_requireAddress, readable_iff_of_not_listed plain]
    simp [address, Requirements.nothing]
  · cases given : s.address <;>
      simp [missing, address, Requirements.nothing, InstrumentSettings.requireAddress, given]

theorem exists_read_both {α β γ : Type} {x : Except Error α} {y : Except Error β} {f : α → β → γ} :
    (∃ r, (do let a ← x; let b ← y; return f a b) = Except.ok r) ↔
      (∃ a, x = .ok a) ∧ ∃ b, y = .ok b := by
  cases x <;> cases y <;> simp [bind, Except.bind, pure, Except.pure]

section Types

variable (s : InstrumentSettings)

theorem PropellerWind.staged : Staged entry s :=
  staged_of_nothing design outline rfl (by decide) ⟨rfl, rfl, by cbv⟩ rfl (by decide)

theorem UltrasonicWind.staged : Staged entry s :=
  staged_of_nothing design outline rfl (by decide) ⟨rfl, rfl, by cbv⟩ rfl (by decide)

theorem Barometer.staged : Staged entry s :=
  staged_of_nothing design outline rfl (by decide) ⟨rfl, rfl, by cbv⟩ rfl (by decide)

theorem HumidityProbe.staged : Staged entry s :=
  staged_of_nothing design outline rfl (by decide) ⟨rfl, rfl, by cbv⟩ rfl (by decide)

theorem PanelTemperature.staged : Staged entry s :=
  staged_of_nothing design outline rfl (by decide) ⟨rfl, rfl, by cbv⟩ rfl (by decide)

theorem Camera.staged_movable : Staged (entry movable) s :=
  staged_of_nothing (design movable) outline rfl (by decide) ⟨rfl, rfl, by cbv⟩ rfl (by decide)

theorem Camera.staged_compact : Staged (entry compact) s :=
  staged_of_nothing (design compact) outline rfl (by decide) ⟨rfl, rfl, by cbv⟩ rfl (by decide)

theorem DoorSwitch.staged : Staged entry s :=
  staged_of_nothing design outline rfl (by decide) ⟨rfl, rfl, by cbv⟩ rfl (by decide)

theorem Modem.staged : Staged entry s :=
  staged_of_nothing design outline rfl (by decide) ⟨rfl, rfl, by cbv⟩ rfl (by decide)

theorem PressureProbe.staged : Staged entry s :=
  staged_of_address design outline rfl (by decide) ⟨rfl, rfl, by cbv⟩ rfl (by decide)

theorem PrecipitationGauge.staged : Staged entry s :=
  staged_of_address design outline rfl (by decide) ⟨rfl, rfl, by cbv⟩ rfl (by decide)

theorem Battery.staged : Staged entry s := by
  refine .of_read (s.number descriptor.typeId "shutoff_voltage" (some defaultShutoff))
    (fun _ => design) outline rfl (fun _ => Design.sound_of_isSound (by decide))
    (fun _ => ⟨rfl, rfl, by cbv⟩) ?_ (fun _ => isConfig_of_param_error) ?_
  · rw [InstrumentSettings.exists_number, readable_iff]
    simp [entry, descriptor, Requirements.nothing, optionalNumbers, optionalTexts]
  · simp [missing, entry, Requirements.nothing]

theorem Pyranometer.staged : Staged entry s := by
  refine .of_read (s.number descriptor.typeId "pyran_calib" none) (fun _ => design) outline
    rfl (fun _ => Design.sound_of_isSound (by decide)) (fun _ => ⟨rfl, rfl, by cbv⟩) ?_
    (fun _ => isConfig_of_param_error) ?_
  · rw [InstrumentSettings.exists_number_none, readable_iff]
    simp [entry, descriptor, Requirements.nothing, optionalNumbers, optionalTexts]
  · cases given : s.params.get? "pyran_calib" <;>
      simp [missing, entry, Requirements.nothing, InstrumentSettings.number, InstrumentSettings.param,
        given]

theorem SoilProbe.staged : Staged entry s := by
  refine .of_read (read s) design outline (by simp [entry, read, Design.build, design])
    sound (fun _ => ⟨rfl, rfl, by change wiring = _; cbv⟩) ?_ (fun _ => isConfig_of_read_error) ?_
  · rw [read, exists_read_both, InstrumentSettings.exists_requireAddress,
      InstrumentSettings.exists_requireElevation, readable_iff]
    simp [entry, descriptor, optionalNumbers, optionalTexts]
  · cases address : s.address <;> cases elevation : s.elevation <;>
      simp [missing, entry, read, InstrumentSettings.requireAddress,
        InstrumentSettings.requireElevation, address, elevation, bind, Except.bind]

theorem SnowDepth.staged : Staged entry s := by
  refine .of_read (read s) (fun _ => design) (fun r => outline r.1 r.2)
    (by simp [entry, read, Design.build, design]) (fun _ => Design.sound_of_isSound (by decide))
    (fun _ => ⟨rfl, rfl, by cbv⟩) ?_ (fun _ => isConfig_of_read_error) ?_
  · rw [read, exists_read_both, InstrumentSettings.exists_requireAddress,
      InstrumentSettings.exists_number, readable_iff]
    simp [entry, descriptor, Requirements.nothing, optionalNumbers, optionalTexts]
  · cases given : s.address <;>
      simp [missing, entry, Requirements.nothing, read, InstrumentSettings.requireAddress, given,
        bind, Except.bind]

theorem ChargeController.staged : Staged entry s := by
  refine .of_read (read s) (fun _ => design) (fun r => outline r.1 r.2)
    (by simp [entry, read, Design.build, design]) (fun _ => Design.sound_of_isSound (by decide))
    (fun _ => ⟨rfl, rfl, by cbv⟩) ?_ (fun _ => isConfig_of_read_error) ?_
  · rw [read, exists_read_both, InstrumentSettings.exists_string, InstrumentSettings.exists_number,
      readable_iff]
    simp [entry, descriptor, Requirements.nothing, optionalNumbers, optionalTexts, and_comm]
  · simp [missing, entry, Requirements.nothing]

theorem staged_builtin : ∀ e ∈ builtinEntries, Staged e s := by
  simp only [builtinEntries, List.forall_mem_cons]
  exact ⟨PropellerWind.staged s, UltrasonicWind.staged s, Barometer.staged s,
    HumidityProbe.staged s, SoilProbe.staged s, ChargeController.staged s, Battery.staged s,
    PanelTemperature.staged s, Camera.staged_movable s, Camera.staged_compact s,
    DoorSwitch.staged s, PressureProbe.staged s, PrecipitationGauge.staged s,
    Modem.staged s, SnowDepth.staged s, Pyranometer.staged s, by simp⟩

theorem enforced_builtin : ∀ e ∈ builtinEntries, Enforced e s := fun e member =>
  (staged_builtin s e member).enforced

end Types

theorem get?_builtin {e : CatalogEntry} (member : e ∈ builtinEntries) :
    builtin.get? e.descriptor.typeId = some e :=
  Catalog.get?_of_mem (by decide) member

/-- For every entry of the catalog its requirements are what its constructor enforces. -/
theorem requirements_enforced (e : CatalogEntry) (listed : e ∈ builtin.entries)
    (s : InstrumentSettings) : builtin.instantiate e.descriptor.typeId s = e.build s ∧ Enforced e s := by
  have member : e ∈ builtinEntries := Catalog.mem_of_mem_entries listed
  refine ⟨?_, enforced_builtin s e member⟩
  rw [Catalog.instantiate, get?_builtin member]

theorem soil_requirements_enforced : SoilProbe.entry ∈ builtin.entries ∧
    ∃ reason, builtin.instantiate "Acclima_TDR310N" .standard =
      .error (.instrumentConfig "Acclima_TDR310N" "sdi12_address" reason) := by
  have listed : SoilProbe.entry ∈ builtin.entries :=
    Catalog.mem_entries_of_get? (get?_builtin (by simp [builtinEntries]))
  obtain ⟨same, enforced⟩ := requirements_enforced SoilProbe.entry listed .standard
  obtain ⟨reason, refused⟩ := enforced.refused "sdi12_address" rfl
  exact ⟨listed, reason, same.trans refused⟩

end Instruments

end Datalogger
