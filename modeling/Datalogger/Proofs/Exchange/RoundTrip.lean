import Datalogger.Definition
import Datalogger.Proofs.Exchange.Records
import Datalogger.Proofs.Identifiers

/-!
What is written reads back. A definition can give a terminal, an address or a unit in several spellings
and can leave out what has a default; once it is read and written, reading it again finds the same value.
-/

namespace Datalogger

open Decode

theorem ReadsBack.of_all {α : Type} {source back : Json → Option α} {write : α → Json}
    (every : ∀ x, back (write x) = some x) : ReadsBack source back write := fun _ x _ => every x

theorem readsBack_string : ReadsBack string string .str := .of_all fun _ => rfl

theorem readsBack_bool : ReadsBack bool bool .bool := .of_all fun _ => rfl

theorem integer_eq_some_iff {least greatest n : Int} {v : Json} :
    integer least greatest v = some n ↔ v = .int n ∧ least ≤ n ∧ n ≤ greatest := by
  cases v with
  | int m =>
    simp only [integer, Bool.and_eq_true, decide_eq_true_eq, Option.ite_none_right_eq_some,
      Option.some.injEq, Json.int.injEq]
    constructor
    · rintro ⟨bounds, rfl⟩
      exact ⟨rfl, bounds⟩
    · rintro ⟨rfl, bounds⟩
      exact ⟨bounds, rfl⟩
  | _ => simp [integer]

theorem readsBack_int32 : ReadsBack int32 int32 .int := by
  intro v n read
  obtain ⟨rfl, _⟩ := integer_eq_some_iff.1 read
  exact read

theorem readsBack_nat32 : ReadsBack nat32 nat32 fun n => .int n := by
  intro v n read
  obtain ⟨k, number, rfl⟩ := Option.map_eq_some_iff.1 read
  obtain ⟨rfl, positive, _⟩ := integer_eq_some_iff.1 number
  change nat32 (.int k.toNat) = _
  rw [Int.toNat_of_nonneg positive]
  exact read

theorem readsBack_anything : ReadsBack anything anything id := by
  intro v x read
  unfold anything at read
  split at read
  · rename_i sound
    cases read
    rw [id, anything, if_pos (Json.sound_normal sound), Json.normal_normal]
  · cases read

namespace TimeUnit

theorem readsBack (f g : Format) : ReadsBack (decode f) (decode g) encode :=
  .of_all fun u => by cases u <;> rfl

end TimeUnit

namespace NameInclusion

theorem readsBack (f g : Format) : ReadsBack (decode f) (decode g) encode :=
  .of_all fun m => by cases m <;> rfl

end NameInclusion

namespace ExecutionMode

theorem readsBack (f g : Format) : ReadsBack (decode f) (decode g) encode :=
  .of_all fun m => by cases m <;> rfl

end ExecutionMode

namespace Sdi12Address

theorem read?_text (a : Sdi12Address) : read? a.text = some a := by
  have word : isWordChar a.symbol = true := by rw [isWordChar, a.alphanumeric, Bool.true_or]
  have visible := isBlank_of_isWordChar word
  have trimmed : (Text.trim a.text).toList = [a.symbol] := by
    simp [text, Text.dropBlankEnd, visible]
  rw [read?, trimmed]
  exact dif_pos a.alphanumeric

theorem readsBack : ReadsBack decode decode encode := by
  refine .of_all fun a => ?_
  simp only [decode, encode, integer, string, Option.bind_some]
  exact read?_text a

end Sdi12Address

namespace Terminal

theorem read?_label_rail : ∀ r ∈ [Rail.analogGround, .ground, .power12, .power5],
    read? (rail r).label = some (rail r) := by
  decide +kernel

theorem read?_label_channel : ∀ b ∈ [Bank.control, .serial, .pulse, .excitation, .singleEnded,
      .differentialHigh, .differentialLow, .switchedPower, .serialGround],
    ∀ n ∈ b.channels, read? (channel b n).label = some (channel b n) := by
  decide +kernel

theorem read?_label {t : Terminal} (listed : t.inRange = true) : read? t.label = some t := by
  cases t with
  | rail r => exact read?_label_rail r (by cases r <;> simp)
  | channel b n =>
    rw [inRange, List.contains_iff_mem] at listed
    exact read?_label_channel b (by cases b <;> simp) n listed

theorem readsBack : ReadsBack decode decode encode := by
  intro v t read
  obtain ⟨spelling, _, value⟩ := Option.bind_eq_some_iff.1 read
  exact read?_label (inRange_of_read? value)

end Terminal

theorem Scan.readsBack (f g : Format) : ReadsBack (decode f) (decode g) encode := by
  refine FieldsReadBack.record
    (fun s : Scan => [("interval", some (.int s.interval)), ("unit", some s.unit.encode),
      ("buffer", some (.int s.buffer)), ("count", some (.int s.count))])
    ?_ (by decide) (fun _ => rfl) f g
  intro fs s read entries present distinct
  obtain ⟨interval, hi, read⟩ := Option.bind_eq_some_iff.1 read
  obtain ⟨unit, hu, read⟩ := Option.bind_eq_some_iff.1 read
  obtain ⟨buffer, hb, read⟩ := Option.bind_eq_some_iff.1 read
  obtain ⟨count, hc, read⟩ := Option.bind_eq_some_iff.1 read
  cases read
  refine Option.bind_eq_some_iff.2
    ⟨_, readsBack_nat32.defaulted rfl hi distinct (present (by simp)), ?_⟩
  refine Option.bind_eq_some_iff.2
    ⟨_, (TimeUnit.readsBack f g).defaulted rfl hu distinct (present (by simp)), ?_⟩
  refine Option.bind_eq_some_iff.2
    ⟨_, readsBack_nat32.defaulted rfl hb distinct (present (by simp)), ?_⟩
  exact Option.bind_eq_some_iff.2
    ⟨_, readsBack_nat32.defaulted rfl hc distinct (present (by simp)), rfl⟩

theorem DependencyTarget.readsBack (f g : Format) : ReadsBack (decode f) (decode g) encode := by
  refine FieldsReadBack.record
    (fun t : DependencyTarget =>
      [("instrument", some (.str t.instrument)), ("variable", some (.str t.variableName))])
    ?_ (by decide) (fun _ => rfl) f g
  intro fs t read entries present distinct
  obtain ⟨instrument, hi, read⟩ := Option.bind_eq_some_iff.1 read
  obtain ⟨name, hn, read⟩ := Option.bind_eq_some_iff.1 read
  cases read
  refine Option.bind_eq_some_iff.2 ⟨_, readsBack_string.required hi distinct (present (by simp)), ?_⟩
  exact Option.bind_eq_some_iff.2 ⟨_, readsBack_string.required hn distinct (present (by simp)), rfl⟩

theorem InstrumentSettings.fieldsReadBack (f g : Format) :
    FieldsReadBack (ofFields f) (ofFields g) toFields := by
  intro fs s read entries present distinct
  obtain ⟨label, hl, read⟩ := Option.bind_eq_some_iff.1 read
  obtain ⟨elevation, he, read⟩ := Option.bind_eq_some_iff.1 read
  obtain ⟨address, ha, read⟩ := Option.bind_eq_some_iff.1 read
  obtain ⟨nameInclusion, hn, read⟩ := Option.bind_eq_some_iff.1 read
  obtain ⟨wiring, hw, read⟩ := Option.bind_eq_some_iff.1 read
  obtain ⟨params, hp, read⟩ := Option.bind_eq_some_iff.1 read
  cases read
  rw [toFields] at present
  refine Option.bind_eq_some_iff.2
    ⟨_, readsBack_string.optional (by simp) hl distinct (present (by simp)), ?_⟩
  refine Option.bind_eq_some_iff.2
    ⟨_, readsBack_int32.optional (by simp) he distinct (present (by simp)), ?_⟩
  refine Option.bind_eq_some_iff.2
    ⟨_, Sdi12Address.readsBack.optional (by simp [Sdi12Address.encode]) ha distinct
      (present (by simp)), ?_⟩
  refine Option.bind_eq_some_iff.2
    ⟨_, (NameInclusion.readsBack f g).defaulted rfl hn distinct (present (by simp)), ?_⟩
  refine Option.bind_eq_some_iff.2
    ⟨_, (Terminal.readsBack.nullable (by simp [Terminal.encode])).dictField hw distinct
      (present (by simp)), ?_⟩
  exact Option.bind_eq_some_iff.2
    ⟨_, readsBack_anything.dictField hp distinct (present (by simp)), rfl⟩

theorem InstrumentSettings.readsBack (f g : Format) : ReadsBack (decode f) (decode g) encode :=
  (fieldsReadBack f g).record toFields (by decide) (fun _ => rfl) f g

namespace InstrumentRequest

theorem readsBack (f g : Format) : ReadsBack (decode f) (decode g) encode := by
  refine FieldsReadBack.record
    (fun r : InstrumentRequest => [("type_id", some (.str r.typeId)),
      ("settings", some r.settings.encode),
      ("dependencies", Json.ofNonempty DependencyTarget.encode r.dependencies)])
    ?_ (by decide) (fun _ => rfl) f g
  intro fs r read entries present distinct
  obtain ⟨typeId, ht, read⟩ := Option.bind_eq_some_iff.1 read
  obtain ⟨settings, hs, read⟩ := Option.bind_eq_some_iff.1 read
  obtain ⟨dependencies, hd, read⟩ := Option.bind_eq_some_iff.1 read
  cases read
  have standard : InstrumentSettings.decode g InstrumentSettings.standard.encode = some .standard :=
    InstrumentSettings.readsBack f g (.obj []) .standard rfl
  refine Option.bind_eq_some_iff.2 ⟨_, readsBack_string.required ht distinct (present (by simp)), ?_⟩
  refine Option.bind_eq_some_iff.2
    ⟨_, (InstrumentSettings.readsBack f g).defaulted standard hs distinct (present (by simp)), ?_⟩
  exact Option.bind_eq_some_iff.2
    ⟨_, (DependencyTarget.readsBack f g).dictField hd distinct (present (by simp)), rfl⟩

theorem readsBack_flat (f g : Format) : ReadsBack (decodeFlat f) (decodeFlat g) encodeFlat := by
  refine FieldsReadBack.record
    (fun r : InstrumentRequest => ("type", some (.str r.typeId)) :: r.settings.toFields.append
      [("dependencies", Json.ofNonempty DependencyTarget.encode r.dependencies)])
    ?_ (by decide) (fun _ => rfl) f g
  intro fs r read entries present distinct
  obtain ⟨typeId, ht, read⟩ := Option.bind_eq_some_iff.1 read
  obtain ⟨settings, hs, read⟩ := Option.bind_eq_some_iff.1 read
  obtain ⟨dependencies, hd, read⟩ := Option.bind_eq_some_iff.1 read
  cases read
  have among : settings.toFields ⊆ entries := fun e member => present (by simp [member])
  refine Option.bind_eq_some_iff.2 ⟨_, readsBack_string.required ht distinct (present (by simp)), ?_⟩
  refine Option.bind_eq_some_iff.2
    ⟨_, InstrumentSettings.fieldsReadBack f g fs settings hs among distinct, ?_⟩
  exact Option.bind_eq_some_iff.2
    ⟨_, (DependencyTarget.readsBack f g).dictField hd distinct (present (by simp)), rfl⟩

end InstrumentRequest

theorem ProgramDefinition.readsBack (f g : Format) : ReadsBack (decode f) (decode g) encode := by
  refine FieldsReadBack.record
    (fun d : ProgramDefinition => [("name", some (.str d.name)), ("station", d.station.map .str),
      ("mode", d.mode.map ExecutionMode.encode),
      ("preserve_variables", d.preserveVariables.map .bool), ("scan", d.scan.map Scan.encode),
      ("instruments", some (.arr (d.instruments.map InstrumentRequest.encodeFlat)))])
    ?_ (by decide) (fun _ => rfl) f g
  intro fs d read entries present distinct
  obtain ⟨name, hn, read⟩ := Option.bind_eq_some_iff.1 read
  obtain ⟨station, hs, read⟩ := Option.bind_eq_some_iff.1 read
  obtain ⟨mode, hm, read⟩ := Option.bind_eq_some_iff.1 read
  obtain ⟨preserve, hp, read⟩ := Option.bind_eq_some_iff.1 read
  obtain ⟨scan, hc, read⟩ := Option.bind_eq_some_iff.1 read
  obtain ⟨instruments, hi, read⟩ := Option.bind_eq_some_iff.1 read
  cases read
  refine Option.bind_eq_some_iff.2 ⟨_, readsBack_string.required hn distinct (present (by simp)), ?_⟩
  refine Option.bind_eq_some_iff.2
    ⟨_, readsBack_string.optional (by simp) hs distinct (present (by simp)), ?_⟩
  refine Option.bind_eq_some_iff.2
    ⟨_, (ExecutionMode.readsBack f g).optional (by simp [ExecutionMode.encode]) hm distinct
      (present (by simp)), ?_⟩
  refine Option.bind_eq_some_iff.2
    ⟨_, readsBack_bool.optional (by simp) hp distinct (present (by simp)), ?_⟩
  refine Option.bind_eq_some_iff.2
    ⟨_, (Scan.readsBack f g).optional (by simp [Scan.encode]) hc distinct (present (by simp)), ?_⟩
  exact Option.bind_eq_some_iff.2
    ⟨_, (InstrumentRequest.readsBack_flat f g).list.defaulted rfl hi distinct (present (by simp)), rfl⟩

/-- Whatever is read as settings, as a request, as an instrument of a definition or as a definition is
written so that it reads back, whichever spellings it was given in and whatever was left out. -/
theorem written_values_read_back (f : Format) (v : Json) :
    (∀ s, InstrumentSettings.decode f v = some s →
      InstrumentSettings.decode .json s.encode = some s) ∧
    (∀ r, InstrumentRequest.decode f v = some r →
      InstrumentRequest.decode .json r.encode = some r) ∧
    (∀ r, InstrumentRequest.decodeFlat f v = some r →
      InstrumentRequest.decodeFlat .json r.encodeFlat = some r) ∧
    (∀ d, ProgramDefinition.decode f v = some d →
      ProgramDefinition.decode .json d.encode = some d) :=
  ⟨InstrumentSettings.readsBack f .json v, InstrumentRequest.readsBack f .json v,
    InstrumentRequest.readsBack_flat f .json v, ProgramDefinition.readsBack f .json v⟩

/-! Settings with a padded terminal, a number for an address, and values that are `null`; a request and an
instrument of a definition with them. -/

namespace RoundTrip

def settingFields : List (String × Json) :=
  [("sdi12_address", .int 4), ("label", .null),
    ("wiring", .obj [("Red", .str " se3 "), ("Clear", .null)]), ("params", .obj [("host", .null)])]

def settings : InstrumentSettings :=
  { InstrumentSettings.standard with
    address := some ⟨'4', rfl⟩
    wiring := .ofList [("Red", some (.channel .singleEnded 3)), ("Clear", none)]
    params := .ofList [("host", .null)] }

def supply : String × Json :=
  ("dependencies", .obj [("supply", .obj [("variable", .str "batt_volt"), ("instrument", .str "Battery")])])

def request : InstrumentRequest :=
  ⟨"ClimaVUE50", settings, .ofList [("supply", ⟨"Battery", "batt_volt"⟩)]⟩

def requestJson : Json :=
  .obj [supply, ("settings", .obj settingFields), ("type_id", .str "ClimaVUE50")]

def flatJson : Json :=
  .obj (("type", .str "ClimaVUE50") :: supply :: settingFields)

def definition : ProgramDefinition :=
  ⟨"Lubrecht", none, none, none, some .standard, [request]⟩

def definitionJson : Json :=
  .obj [("name", .str "Lubrecht"), ("scan", .obj [("unit", .str "sec")]), ("instruments", .arr [flatJson])]

theorem settings_read : InstrumentSettings.decode .json (.obj settingFields) = some settings := by cbv

theorem request_read : InstrumentRequest.decode .json requestJson = some request := by cbv

theorem flat_read : InstrumentRequest.decodeFlat .json flatJson = some request := by cbv

theorem definition_read : ProgramDefinition.decode .json definitionJson = some definition := by
  have given : fields .json ["name", "station", "mode", "preserve_variables", "scan", "instruments"]
      definitionJson = some [("name", .str "Lubrecht"), ("scan", .obj [("unit", .str "sec")]),
        ("instruments", .arr [flatJson])] := by
    cbv
  have scan : Scan.decode .json (.obj [("unit", .str "sec")]) = some .standard := by cbv
  have instruments : list (InstrumentRequest.decodeFlat .json) (.arr [flatJson]) = some [request] := by
    simp [list, flat_read]
  simp [ProgramDefinition.decode, given, required, Decode.optional, defaulted, string, nullable, scan,
    instruments, List.lookup, definition]

end RoundTrip

open RoundTrip in
theorem loose_values_read_back :
    (InstrumentSettings.decode .json (.obj settingFields) = some settings ∧
      InstrumentSettings.decode .json settings.encode = some settings) ∧
    (InstrumentRequest.decode .json requestJson = some request ∧
      InstrumentRequest.decode .json request.encode = some request) ∧
    (InstrumentRequest.decodeFlat .json flatJson = some request ∧
      InstrumentRequest.decodeFlat .json request.encodeFlat = some request) ∧
    ProgramDefinition.decode .json definitionJson = some definition ∧
      ProgramDefinition.decode .json definition.encode = some definition := by
  exact ⟨⟨settings_read, (written_values_read_back .json _).1 _ settings_read⟩,
    ⟨request_read, (written_values_read_back .json _).2.1 _ request_read⟩,
    ⟨flat_read, (written_values_read_back .json _).2.2.1 _ flat_read⟩,
    definition_read, (written_values_read_back .json _).2.2.2 _ definition_read⟩

end Datalogger
