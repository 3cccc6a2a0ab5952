import Datalogger.Proofs.Instruments.Isolation

/-!
What the built-in types have in common beyond fitting outlines: names that stand out from everything else
in their texts, isolated templates, and columns that are named after own variables. How the names of an
instance are to be made plays no part in any of it.
-/

namespace Datalogger

open Text (fold)

structure Design.StandsOut (D : Design) : Prop where
  distinctive : Distinctive D.renameable
  heads : ∀ k ∈ Statement.headParts, Inert D.renameable k
  dependencies : ∀ d ∈ D.dependencies, Word d.name ∧ d.name ∉ D.renameable

def Design.standOut (D : Design) : Bool :=
  distinctiveBytes D.renameable &&
    (Statement.headParts.all fun k => inertBytes D.renameable (Text.bytes k)) &&
    D.dependencies.all fun d =>
      d.name != "" && wordBytes (Text.bytes d.name) && !D.renameable.contains d.name

theorem Design.StandsOut.of_test {D E : Design} (names : D.renameable = E.renameable)
    (dependencies : D.dependencies = E.dependencies) (test : E.standOut = true) : D.StandsOut := by
  simp only [standOut, ← names, ← dependencies, Bool.and_eq_true, List.all_eq_true, bne_iff_ne,
    Bool.not_eq_true'] at test
  obtain ⟨⟨distinctive, heads⟩, dependencies⟩ := test
  refine ⟨.of_test distinctive, fun k member => .of_test (heads k member), fun d member => ?_⟩
  obtain ⟨⟨filled, word⟩, apart⟩ := dependencies d member
  exact ⟨.of_test filled word, by simpa using apart⟩

def Table.fields {α : Type} (t : Table α) : List α :=
  t.items.flatMap TableItem.fields

open Instruments.SoilProbe (registerName elements) in
/-- How the columns of a table are named: after different variables, or, in the archive of a probe, by
the address that also names its register. -/
inductive Columns (D : Design) (t : Table Template) : Prop
  | named (names : List String) (other : fold t.name ≠ "soils") (distinct : names.Nodup)
      (own : ∀ n ∈ names, n ∈ D.names) (fields : t.fields = names.map Template.var)
  | probe (address : Sdi12Address) (soils : fold t.name = "soils")
      (own : registerName address ∈ D.registerNames)
      (fields : t.fields = elements.map fun e => [.text (e.2 ++ "_" ++ address.text)])

structure Design.Columned (D : Design) (o : Outline) : Prop where
  names : ∀ ts ∈ o.tables, (ts.map fun t => fold t.name).Nodup
  columns : ∀ ts ∈ o.tables, ∀ t ∈ ts, Columns D t

def columnNames? : List Template → Option (List String)
  | [] => some []
  | [.var name] :: rest => (columnNames? rest).map (name :: ·)
  | _ => none

theorem eq_map_var {fields : List Template} {names : List String}
    (read : columnNames? fields = some names) : fields = names.map Template.var := by
  induction fields generalizing names with
  | nil =>
    cases read
    rfl
  | cons f rest ih =>
    unfold columnNames? at read
    split at read
    · contradiction
    · rename_i name others same
      cases same
      obtain ⟨columns, tail, rfl⟩ := Option.map_eq_some_iff.1 read
      rw [ih tail]
      rfl
    · cases read

def hasColumns (names : List String) (t : Table Template) : Bool :=
  wordBytes (Text.bytes t.name) && foldBytes (Text.bytes t.name) != Text.bytes "soils" &&
    match columnNames? t.fields with
    | some columns => decide columns.Nodup && columns.all names.contains
    | none => false

theorem Columns.of_test {D : Design} {names : List String} {t : Table Template}
    (own : ∀ n ∈ names, n ∈ D.names) (test : hasColumns names t = true) : Columns D t := by
  simp only [hasColumns, Bool.and_eq_true, bne_iff_ne] at test
  obtain ⟨⟨word, other⟩, columns⟩ := test
  have apart : fold t.name ≠ "soils" := by
    intro same
    rw [foldBytes_eq word, same] at other
    exact other (by decide)
  split at columns
  · rename_i listed read
    simp only [Bool.and_eq_true, List.all_eq_true, decide_eq_true_eq] at columns
    exact .named listed apart columns.1 (fun n hn => own n (by simpa using columns.2 n hn))
      (eq_map_var read)
  · cases columns

def tellsNames (names : List String) : Bool :=
  (names.all fun n => wordBytes (Text.bytes n)) &&
    decide (names.map fun n => foldBytes (Text.bytes n)).Nodup

theorem nodup_fold_of_test {names : List String} (test : tellsNames names = true) :
    (names.map fold).Nodup := by
  simp only [tellsNames, Bool.and_eq_true, List.all_eq_true, decide_eq_true_eq] at test
  obtain ⟨words, distinct⟩ := test
  rw [List.map_congr_left fun n member => foldBytes_eq (words n member)] at distinct
  refine List.Nodup.of_map (fun s => s.toList.map Char.toNat) ?_
  rwa [List.map_map]

/-- A test for outlines with columned tables and a slow sequence whose id is a word. -/
def Outline.tidy (names : List String) (o : Outline) : Bool :=
  (o.tables.all fun ts => tellsNames (ts.map Table.name) && ts.all (hasColumns names)) &&
    (o.slowSequence.map SlowSequence.id).all fun id => id != "" && wordBytes (Text.bytes id)

theorem Design.Columned.of_test {D : Design} {o q : Outline} (tables : o.tables = q.tables)
    (test : q.tidy D.names = true) : D.Columned o := by
  simp only [Outline.tidy, ← tables, Option.all_eq_true, Bool.and_eq_true, List.all_eq_true] at test
  replace test := test.1
  refine ⟨fun ts member => ?_, fun ts member t ht => .of_test (fun _ => id) ((test ts member).2 t ht)⟩
  have names := nodup_fold_of_test (test ts member).1
  rwa [List.map_map] at names

/-- A text that a rewriting has to keep apart from the outline: only the charge controller shows one. -/
def InstrumentSettings.HostKept (s : InstrumentSettings) (typeId : String) (ρ : Rewriting) : Prop :=
  typeId = "ProStar_EMC1" → ∀ t, s.params.get? "modbus_host" = some (.str t) → ρ.text t = t

structure Shape (D : Design) (o : Outline) (s : InstrumentSettings) : Prop where
  sound : D.Sound
  fits : D.Fits .anything o
  standsOut : D.StandsOut
  columned : D.Columned o
  ids : ∀ q ∈ o.slowSequence, Word q.id
  isolated : ∀ ρ : Rewriting, ρ.Keeps D.renameable → s.HostKept D.descriptor.typeId ρ → o.Isolated ρ

theorem Shape.of_tests {D : Design} {o q : Outline} {s : InstrumentSettings}
    (fits : D.Fits .anything o) (isolated : ∀ ρ : Rewriting, ρ.Keeps D.renameable → o.Isolated ρ)
    (sound : D.isSound = true) (standOut : D.standOut = true) (tables : o.tables = q.tables)
    (ids : o.slowSequence.map SlowSequence.id = q.slowSequence.map SlowSequence.id)
    (tidy : q.tidy D.names = true) : Shape D o s where
  sound := Design.sound_of_isSound sound
  fits := fits
  standsOut := .of_test rfl rfl standOut
  columned := .of_test tables tidy
  ids := by
    intro x member
    have test := (Bool.and_eq_true_iff.1 tidy).2
    rw [← ids, Option.all_eq_true] at test
    have passed := test x.id (Option.mem_map_of_mem SlowSequence.id member)
    rw [Bool.and_eq_true, bne_iff_ne] at passed
    exact .of_test passed.1 passed.2
  isolated ρ keep _ := isolated ρ keep

def Shaped (e : CatalogEntry) : Prop :=
  ∀ s, (∃ err, e.build s = .error err) ∨
    ∃ D o, Shape D o s ∧ D.descriptor = e.descriptor ∧ D.dependencies = e.dependencies ∧
      ∀ m, e.build { s with nameInclusion := m } = D.build o { s with nameInclusion := m }

theorem shaped_of_read {e : CatalogEntry} {α : Type} (read : InstrumentSettings → Except Error α)
    (D : α → Design) (o : α → Outline)
    (alike : ∀ s m, read { s with nameInclusion := m } = read s)
    (shape : ∀ s a, read s = .ok a → Shape (D a) (o a) s)
    (own : ∀ a, (D a).descriptor = e.descriptor ∧ (D a).dependencies = e.dependencies)
    (build : ∀ s, e.build s = read s >>= fun a => (D a).build (o a) s) : Shaped e := by
  intro s
  cases outcome : read s with
  | error err => exact .inl ⟨err, by rw [build, outcome]; rfl⟩
  | ok a =>
    refine .inr ⟨D a, o a, shape s a outcome, (own a).1, (own a).2, fun m => ?_⟩
    rw [build, alike, outcome]
    rfl

theorem shaped_of_shape {e : CatalogEntry} (D : Design) (o : Outline) (shape : ∀ s, Shape D o s)
    (own : D.descriptor = e.descriptor ∧ D.dependencies = e.dependencies)
    (build : ∀ s, e.build s = D.build o s) : Shaped e :=
  fun s => .inr ⟨D, o, shape s, own.1, own.2, fun _ => build _⟩

namespace Instruments

/-- No table depends on where on the bus a device is, but for the archive of the soil probe. -/
def anyAddress : Sdi12Address := ⟨'0', by decide⟩

namespace Barometer

theorem shaped : Shaped entry :=
  shaped_of_shape design outline (fun _ => .of_tests (fits _) (fun _ => isolated) (by decide)
    (by decide) rfl rfl (by decide)) ⟨rfl, rfl⟩ fun _ => rfl

end Barometer

namespace HumidityProbe

theorem shaped : Shaped entry :=
  shaped_of_shape design outline (fun _ => .of_tests (fits _) (fun _ => isolated) (by decide)
    (by decide) rfl rfl (by decide)) ⟨rfl, rfl⟩ fun _ => rfl

end HumidityProbe

namespace Pyranometer

theorem shaped : Shaped entry :=
  shaped_of_read (·.number descriptor.typeId "pyran_calib" none) (fun _ => design) outline
    (fun _ _ => rfl)
    (fun _ calibration _ => .of_tests (q := outline .nan) (fits _ calibration)
      (fun _ keep => isolated keep calibration) (by decide) (by decide) rfl rfl (by decide))
    (fun _ => ⟨rfl, rfl⟩) fun _ => rfl

end Pyranometer

namespace PropellerWind

theorem shaped : Shaped entry :=
  shaped_of_shape design outline (fun _ => .of_tests (fits _) (fun _ => isolated) (by decide)
    (by decide) rfl rfl (by decide)) ⟨rfl, rfl⟩ fun _ => rfl

end PropellerWind

namespace UltrasonicWind

theorem shaped : Shaped entry :=
  shaped_of_shape design outline (fun _ => .of_tests (fits _) (fun _ => isolated) (by decide)
    (by decide) rfl rfl (by decide)) ⟨rfl, rfl⟩ fun _ => rfl

end UltrasonicWind

namespace Modem

theorem shaped : Shaped entry :=
  shaped_of_shape design outline (fun _ => .of_tests (fits _) (fun _ => isolated) (by decide)
    (by decide) rfl rfl (by decide)) ⟨rfl, rfl⟩ fun _ => rfl

end Modem

namespace Camera

theorem shape (descriptor : Descriptor) (s : InstrumentSettings) :
    Shape (design descriptor) outline s where
  sound := Design.sound_of_isSound rfl
  fits := fits descriptor _
  standsOut := .of_test (E := design movable) rfl rfl (by decide)
  columned := ⟨nofun, nofun⟩
  ids := nofun
  isolated _ keep _ := isolated keep

theorem shaped (descriptor : Descriptor) : Shaped (entry descriptor) :=
  shaped_of_shape (design descriptor) outline (shape descriptor) ⟨rfl, rfl⟩ fun _ => rfl

end Camera

namespace DoorSwitch

theorem shaped : Shaped entry :=
  shaped_of_shape design outline (fun _ => .of_tests (fits _) (fun _ => isolated) (by decide)
    (by decide) rfl rfl (by decide)) ⟨rfl, rfl⟩ fun _ => rfl

end DoorSwitch

namespace PressureProbe

theorem shaped : Shaped entry :=
  shaped_of_read (·.requireAddress descriptor.typeId) (fun _ => design) outline (fun _ _ => rfl)
    (fun _ address _ => .of_tests (q := outline anyAddress) (fits _ address)
      (fun _ keep => isolated keep address) (by decide) (by decide) rfl rfl (by decide))
    (fun _ => ⟨rfl, rfl⟩) fun _ => rfl

end PressureProbe

namespace PrecipitationGauge

theorem shaped : Shaped entry :=
  shaped_of_read (·.requireAddress descriptor.typeId) (fun _ => design) outline (fun _ _ => rfl)
    (fun _ address _ => .of_tests (q := outline anyAddress) (fits _ address)
      (fun _ keep => isolated keep address) (by decide) (by decide) rfl rfl (by decide))
    (fun _ => ⟨rfl, rfl⟩) fun _ => rfl

end PrecipitationGauge

namespace SnowDepth

theorem shaped : Shaped entry :=
  shaped_of_read read (fun _ => design) (fun r => outline r.1 r.2) (fun _ _ => rfl)
    (fun _ r _ => .of_tests (q := outline anyAddress .nan) (fits _ r.1 r.2)
      (fun _ keep => isolated keep r.1 r.2) (by decide) (by decide) rfl rfl (by decide))
    (fun _ => ⟨rfl, rfl⟩) fun s => by simp [entry, read, Design.build, design]

end SnowDepth

namespace SoilProbe

theorem columns_observations (address : Sdi12Address) : Columns (design address) observations :=
  .of_test (fun _ => List.mem_cons_of_mem (registerName address))
    (by decide : hasColumns ["soil_vwc", "soil_temp", "soil_perm", "soil_ec_blk", "soil_ec_por"]
      observations = true)

theorem columns_archive (address : Sdi12Address) : Columns (design address) (archive address) :=
  .probe address (by decide +kernel : fold "Soils" = "soils") List.mem_cons_self rfl

theorem shape (address : Sdi12Address) (s : InstrumentSettings) :
    Shape (design address) (outline address) s where
  sound := sound address
  fits := fits _ address
  standsOut := .of_test (E := design anyAddress)
    (by rw [renameable_design, renameable_design]) rfl (by decide)
  columned := by
    refine ⟨?_, ?_⟩ <;> rintro _ ⟨⟩
    · change (["FiveMin", "Soils"].map fold).Nodup
      exact nodup_fold_of_test (by decide)
    · simpa using ⟨columns_observations address, columns_archive address⟩
  ids := by
    rintro _ ⟨⟩
    exact (.of_test (by decide) (by decide) : Word "soil")
  isolated _ keep _ := isolated keep

theorem shaped : Shaped entry :=
  shaped_of_read read design outline (fun _ _ => rfl) (fun s address _ => shape address s)
    (fun _ => ⟨rfl, rfl⟩) fun s => by simp [entry, read, Design.build, design]

end SoilProbe

namespace Battery

theorem shaped : Shaped entry :=
  shaped_of_read (·.number descriptor.typeId "shutoff_voltage" (some defaultShutoff))
    (fun _ => design) outline (fun _ _ => rfl)
    (fun _ shutoff _ => .of_tests (q := outline .nan) (fits _ shutoff)
      (fun _ keep => isolated keep shutoff) (by decide) (by decide) rfl rfl (by decide))
    (fun _ => ⟨rfl, rfl⟩) fun _ => rfl

end Battery

namespace PanelTemperature

theorem shaped : Shaped entry :=
  shaped_of_shape design outline (fun _ => .of_tests (fits _) (fun _ => isolated) (by decide)
    (by decide) rfl rfl (by decide)) ⟨rfl, rfl⟩ fun _ => rfl

end PanelTemperature

namespace ChargeController

theorem host_kept {s : InstrumentSettings} {host : String} {ρ : Rewriting}
    (keep : ρ.Keeps design.renameable) (own : s.HostKept design.descriptor.typeId ρ)
    (given : s.string descriptor.typeId "modbus_host" (some defaultHost) = .ok host) :
    ρ.text host = host := by
  unfold InstrumentSettings.string InstrumentSettings.param at given
  split at given
  · rename_i value listed
    cases value with
    | str t =>
      cases given
      exact own rfl host listed
    | _ => cases given
  · cases given
    exact keep.text_eq (by decide)

theorem shaped : Shaped entry :=
  shaped_of_read read (fun _ => design) (fun r => outline r.1 r.2) (fun _ _ => rfl)
    (fun s r made => by
      obtain ⟨host, given, made⟩ := Outcome.bind_eq_ok_iff.1 made
      obtain ⟨shutoff, _, same⟩ := Outcome.bind_eq_ok_iff.1 made
      cases same
      exact {
        sound := Design.sound_of_isSound (by decide)
        fits := fits _ trivial shutoff
        standsOut := .of_test rfl rfl (by decide)
        columned := .of_test (q := outline "" .nan) rfl (by decide)
        ids := by
          rintro _ ⟨⟩
          exact (.of_test (by decide) (by decide) : Word "Charge")
        isolated := fun _ keep own => isolated keep (host_kept keep own given) shutoff })
    (fun _ => ⟨rfl, rfl⟩) fun s => by simp [entry, read, Design.build, design]

end ChargeController

theorem shaped_builtin : ∀ e ∈ builtinEntries, Shaped e := by
  simp only [builtinEntries, List.forall_mem_cons]
  exact ⟨PropellerWind.shaped, UltrasonicWind.shaped, Barometer.shaped, HumidityProbe.shaped,
    SoilProbe.shaped, ChargeController.shaped, Battery.shaped, PanelTemperature.shaped,
    Camera.shaped _, Camera.shaped _, DoorSwitch.shaped, PressureProbe.shaped,
    PrecipitationGauge.shaped, Modem.shaped, SnowDepth.shaped, Pyranometer.shaped, by simp⟩

end Instruments

end Datalogger
