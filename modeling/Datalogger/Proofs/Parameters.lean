import Datalogger.Command.Parameters
import Datalogger.Proofs.Data.JsonTexts
import Datalogger.Proofs.Data.NormalForm

/-!
Parameters from the command line. Each key keeps what its last occurrence assigns. A text that is JSON
stands for its value, of whatever sort, so a text is kept as it was typed exactly if it is not JSON.
-/

namespace Datalogger

open Text (trim)

namespace Parameter

/-- A parameter is a key without an equals sign, an equals sign and a value; blanks around either are
dropped. -/
def Assigns (parameter key value : String) : Prop :=
  ∃ k v, parameter.toList = k ++ '=' :: v ∧ '=' ∉ k ∧
    key = trim (String.ofList k) ∧ value = trim (String.ofList v)

def LastFor (params : List String) (key value : String) : Prop :=
  ∃ front p back, params = front ++ p :: back ∧ Assigns p key value ∧
    ∀ q ∈ back, ∀ v, ¬ Assigns q key v

/-- JSON text of something other than a boolean or a number. -/
def OtherJson (value : String) : Prop :=
  ∃ v, Json.read? value = some v ∧ v.isScalar = false

/-- A boolean or number stands for itself, and every other value for its text. -/
inductive Typed (value : String) : Json → Prop
  | scalar (v : Json) (text : Json.ScalarText value v) : Typed value v
  | text (untyped : ∀ v, ¬ Json.ScalarText value v) : Typed value (.str value)

def stored (value : String) : Json :=
  (Json.read? value).elim (.str value) Json.normal

theorem read_of_assigns {parameter key value : String} (assigns : Assigns parameter key value) :
    read parameter = .ok (key, stored value) := by
  obtain ⟨k, v, whole, free, rfl, rfl⟩ := assigns
  have plain : ∀ c ∈ k, (decide (c ≠ '=')) = true := fun c member =>
    decide_eq_true fun same => free (same ▸ member)
  rw [read, whole, List.takeWhile_append_of_pos plain, List.dropWhile_append_of_pos plain]
  simp only [List.takeWhile_cons, List.dropWhile_cons, ne_eq, not_true, decide_false,
    Bool.false_eq_true, if_false, List.append_nil]
  rw [readValue, stored]
  cases Json.read? (trim (String.ofList v)) <;> rfl

theorem exists_assigns {parameter : String} (split : '=' ∈ parameter.toList) :
    ∃ key value, Assigns parameter key value := by
  obtain ⟨k, v, whole, free⟩ := List.eq_append_cons_of_mem split
  exact ⟨_, _, k, v, whole, free, rfl, rfl⟩

theorem lastFor_concat {params : List String} {p key value : String} :
    LastFor (params ++ [p]) key value ↔
      Assigns p key value ∨ (∀ v, ¬ Assigns p key v) ∧ LastFor params key value := by
  constructor
  · rintro ⟨front, q, back, split, assigns, later⟩
    rcases List.eq_nil_or_concat back with rfl | ⟨back, r, rfl⟩
    · obtain ⟨rfl, same⟩ := List.append_inj' split rfl
      cases same
      exact .inl assigns
    · rw [List.concat_eq_append] at split later
      rw [← List.cons_append, ← List.append_assoc] at split
      obtain ⟨rfl, same⟩ := List.append_inj' split rfl
      cases same
      exact .inr ⟨later p (by simp), front, q, back, rfl, assigns,
        fun q member => later q (List.mem_append_left _ member)⟩
  · rintro (assigns | ⟨free, front, q, back, rfl, assigns, later⟩)
    · exact ⟨params, p, [], rfl, assigns, by simp⟩
    · refine ⟨front, q, back ++ [p], by simp, assigns, fun r member => ?_⟩
      rcases List.mem_append.1 member with before | last
      · exact later r before
      · rw [List.mem_singleton.1 last]
        exact free

/-- Under each key stands what its last occurrence assigns, and nothing stands under other keys. -/
theorem exists_entries {params : List String} (each : ∀ p ∈ params, '=' ∈ p.toList) :
    ∃ entries, params.mapM read = .ok entries ∧
      (∀ key value, LastFor params key value →
        (Dict.ofList entries).get? key = some (stored value)) ∧
      ∀ key v, (Dict.ofList entries).get? key = some v → ∃ value, LastFor params key value := by
  induction params using List.reverseRecOn with
  | nil =>
    refine ⟨[], rfl, ?_, fun _ _ found => by cases found⟩
    rintro key value ⟨front, p, back, split, _⟩
    simp at split
  | append_singleton params p ih =>
    obtain ⟨entries, made, last, found⟩ := ih fun q member => each q (List.mem_append_left _ member)
    obtain ⟨name, text, assigns⟩ := exists_assigns (each p (by simp))
    have only : ∀ key value, Assigns p key value → key = name ∧ stored value = stored text := by
      intro key value again
      have same := (read_of_assigns again).symm.trans (read_of_assigns assigns)
      exact Prod.mk.inj (Except.ok.inj same)
    refine ⟨entries ++ [(name, stored text)], ?_, ?_, ?_⟩
    · rw [List.mapM_append, made, List.mapM_cons, read_of_assigns assigns]
      rfl
    · intro key value lastFor
      rw [Dict.get?_ofList_concat]
      rcases lastFor_concat.1 lastFor with again | ⟨free, before⟩
      · obtain ⟨same, value⟩ := only key value again
        rw [if_pos same, value]
      · have other : key ≠ name := by
          rintro rfl
          exact free text assigns
        rw [if_neg other, last key value before]
    · intro key v there
      rw [Dict.get?_ofList_concat] at there
      split at there
      · rename_i same
        exact ⟨text, lastFor_concat.2 (.inl (same ▸ assigns))⟩
      · rename_i other
        obtain ⟨value, before⟩ := found key v there
        exact ⟨value, lastFor_concat.2 (.inr ⟨fun w again => other (only key w again).1, before⟩)⟩

theorem LastFor.trimmed {params : List String} {key value : String}
    (last : LastFor params key value) : ∃ v, value = trim v := by
  obtain ⟨_, _, _, _, ⟨_, v, _, _, _, same⟩, _⟩ := last
  exact ⟨_, same⟩

theorem stored_of_read {value : String} {v : Json} (read : Json.read? value = some v) :
    stored value = v.normal := by
  rw [stored, read, Option.elim_some]

theorem eq_of_normal_str {v : Json} {t : String} (same : v.normal = .str t) : v = .str t := by
  cases v with
  | str => simpa [Json.normal] using same
  | real x =>
    rw [Json.normal] at same
    split at same <;> cases same
  | _ => simp [Json.normal] at same

theorem stored_eq_text_iff (v : String) :
    stored (trim v) = .str (trim v) ↔ Json.read? (trim v) = none := by
  cases read : Json.read? (trim v) with
  | none => simp [stored, read]
  | some w =>
    rw [stored_of_read read]
    refine iff_of_false (fun same => Json.read?_ne_str v ?_) (by simp)
    rw [read, eq_of_normal_str same]

/-- JSON text is of a boolean, of a number, or of something else. -/
theorem read?_eq_none_iff (v : String) :
    Json.read? (trim v) = none ↔
      ¬ OtherJson (trim v) ∧ ∀ w, ¬ Json.ScalarText (trim v) w := by
  constructor
  · intro none
    refine ⟨?_, fun w text => ?_⟩
    · rintro ⟨w, read, _⟩
      rw [none] at read
      cases read
    · rw [text.read?] at none
      cases none
  · rintro ⟨plain, untyped⟩
    cases read : Json.read? (trim v) with
    | none => rfl
    | some w =>
      cases sort : w.isScalar with
      | true => exact absurd (Json.scalarText_iff.2 ⟨read, sort⟩) (untyped w)
      | false => exact absurd ⟨w, read, sort⟩ plain

theorem exists_typed (v : String) :
    ∃ w, Typed (trim v) w ∧ (stored (trim v) = w ↔ ¬ OtherJson (trim v)) := by
  by_cases scalar : ∃ w, Json.ScalarText (trim v) w
  · obtain ⟨w, text⟩ := scalar
    have plain : ¬ OtherJson (trim v) := by
      rintro ⟨u, read, other⟩
      rw [text.read?] at read
      cases read
      rw [text.isScalar] at other
      cases other
    refine ⟨w, .scalar w text, iff_of_true ?_ plain⟩
    rw [stored_of_read text.read?, Json.normal_of_scalarText text]
  · rw [not_exists] at scalar
    refine ⟨_, .text scalar, ?_⟩
    rw [stored_eq_text_iff, read?_eq_none_iff, and_iff_left scalar]

end Parameter

namespace InstrumentSettings

open Parameter

theorem ofParameters_of_entries {address : Option String} {a : Option Sdi12Address}
    {params : List String} {entries : List (String × Json)}
    (accepted : address.mapM Sdi12Address.read = .ok a) (made : params.mapM Parameter.read = .ok entries)
    (elevation : Option Int) : ofParameters address elevation params =
      .ok { standard with address := a, elevation, params := .ofList entries } := by
  rw [ofParameters, accepted, made]
  rfl

theorem string_eq_typed_iff {s : InstrumentSettings} {key v : String}
    (kept : s.params.get? key = some (stored (trim v))) (instrument : String)
    (default : Option String) :
    s.string instrument key default = .ok (trim v) ↔ Json.read? (trim v) = none := by
  rw [← stored_eq_text_iff]
  simp only [string, param, kept]
  cases stored (trim v) <;> simp [textOf]

/-- Parameters that all have an equals sign are read. Under each key stands what its last occurrence
assigns: a boolean or number as itself, every other value as its text, unless it is JSON text of `null`, of
a string or of a container, which stands for its JSON value. Reading a parameter as a text gives what was
typed exactly if that is no JSON. A number is only taken for a text when it is out of range. -/
theorem parameters_outcome (address : Option String) (elevation : Option Int) (params : List String)
    (a : Option Sdi12Address) (accepted : address.mapM Sdi12Address.read = .ok a)
    (each : ∀ p ∈ params, '=' ∈ p.toList) :
    ∃ s, ofParameters address elevation params = .ok s ∧
      s = { standard with address := a, elevation, params := s.params } ∧
      (∀ key v, s.params.get? key = some v → ∃ value, LastFor params key value) ∧
      ∀ key value, LastFor params key value →
        (∃ v, Typed value v ∧ (s.params.get? key = some v ↔ ¬ OtherJson value)) ∧
        (∀ v, Json.read? value = some v → v.isScalar = false →
          s.params.get? key = some v.normal ∧
            (value = "null" ∨ ∃ c ∈ ['"', '[', '\x7b'], value.toList.head? = some c)) ∧
        (∀ instrument default, s.string instrument key default = .ok value ↔
          ¬ OtherJson value ∧ ∀ v, ¬ Json.ScalarText value v) ∧
        (Json.NumberText value.toList →
          (∃ v, Json.ScalarText value v) ∨ Json.scan? value = some .faulty) := by
  obtain ⟨entries, made, last, found⟩ := exists_entries each
  refine ⟨_, ofParameters_of_entries accepted made elevation, rfl, found, fun key value lastFor => ?_⟩
  have kept := last key value lastFor
  obtain ⟨v, rfl⟩ := lastFor.trimmed
  refine ⟨?typed, ?other, ?text, Json.NumberText.read⟩
  case typed =>
    obtain ⟨w, typed, exact⟩ := exists_typed v
    exact ⟨w, typed, by rw [← exact, kept, Option.some.injEq]⟩
  case other =>
    intro w read sort
    exact ⟨by rw [kept, stored_of_read read], Json.opens_of_read? read sort⟩
  case text =>
    intro instrument default
    rw [string_eq_typed_iff kept, read?_eq_none_iff]

theorem host_kept_as_typed :
    ∃ s, ofParameters (some "3") (some (-10))
        ["modbus_host=1", "pyran_calib=5.27", "modbus_host = tcp=10.0.0.2"] = .ok s ∧
      ∀ instrument, s.string instrument "modbus_host" none = .ok "tcp=10.0.0.2" := by
  obtain ⟨s, made, _, _, last⟩ := parameters_outcome (some "3") (some (-10))
    ["modbus_host=1", "pyran_calib=5.27", "modbus_host = tcp=10.0.0.2"] (some ⟨'3', by decide⟩)
    (by decide +kernel) (by decide +kernel)
  have assigned : LastFor ["modbus_host=1", "pyran_calib=5.27", "modbus_host = tcp=10.0.0.2"]
      "modbus_host" "tcp=10.0.0.2" :=
    ⟨["modbus_host=1", "pyran_calib=5.27"], _, [], rfl,
      ⟨"modbus_host ".toList, " tcp=10.0.0.2".toList, by decide +kernel, by decide +kernel,
        by decide +kernel, by decide +kernel⟩, by simp⟩
  have unread : Json.read? "tcp=10.0.0.2" = none := Option.isNone_iff_eq_none.1 (by decide +kernel)
  refine ⟨s, made, fun instrument => ((last _ _ assigned).2.2.1 instrument none).2 ⟨?_, ?_⟩⟩
  · rintro ⟨v, read, _⟩
    rw [unread] at read
    cases read
  · intro v text
    rw [text.read?] at unread
    cases unread

/-- The word for no value is not kept as it was typed. -/
theorem null_not_kept_as_typed :
    ¬ ∀ (params : List String) (s : InstrumentSettings), (∀ p ∈ params, '=' ∈ p.toList) →
      ofParameters none none params = .ok s →
        ∀ key value, LastFor params key value →
          ∀ v, Typed value v → s.params.get? key = some v := by
  intro all
  have each : ∀ p ∈ ["pyran_calib=null"], '=' ∈ p.toList := by decide +kernel
  have assigned : LastFor ["pyran_calib=null"] "pyran_calib" "null" :=
    ⟨[], _, [], rfl, ⟨"pyran_calib".toList, "null".toList, by decide +kernel, by decide +kernel,
      by decide +kernel, by decide +kernel⟩, by simp⟩
  have untyped : ∀ v, ¬ Json.ScalarText "null" v := by
    intro v text
    have sort : (Json.read? "null").any Json.isScalar = false := by decide +kernel
    rw [text.read?, Option.any_some, text.isScalar] at sort
    cases sort
  obtain ⟨entries, made, last, _⟩ := exists_entries each
  have kept := all _ _ each (ofParameters_of_entries rfl made none) _ _ assigned _ (.text untyped)
  have null : stored "null" = .null := rfl
  rw [last _ _ assigned, null] at kept
  cases kept

end InstrumentSettings

end Datalogger
