import Datalogger.Exchange.Settings
import Datalogger.Proofs.Data.NormalForm
import Datalogger.Proofs.Outcome

/-!
Readers and writers. Reading accepts many forms of a value and writing knows one; `ReadsBack` says that
this one stands for the same value. Pairs of readers and writers are put together the way the data is:
lists, maps, and records whose fields may be left out.
-/

namespace Datalogger

open Decode

/-- Whatever the first reader makes of a data value is written so that the second one finds it again. -/
def ReadsBack {α : Type} (source back : Json → Option α) (write : α → Json) : Prop :=
  ∀ v x, source v = some x → back (write x) = some x

section Readers

variable {α : Type} {source back : Json → Option α} {write : α → Json}

theorem ReadsBack.list (one : ReadsBack source back write) :
    ReadsBack (list source) (list back) fun xs => .arr (xs.map write) := by
  intro v xs read
  cases v with
  | arr items =>
    refine Outcome.mapM_map_eq_some write fun x member => ?_
    obtain ⟨item, _, value⟩ := Outcome.exists_of_forall₂ (Outcome.mapM_eq_some_iff.1 read) member
    exact one item x value
  | _ => cases read

theorem ReadsBack.dict (one : ReadsBack source back write) :
    ReadsBack (dict source) (dict back) (Json.ofDict write) := by
  intro v d read
  cases v with
  | obj fields =>
    obtain ⟨entries, made, rfl⟩ := Option.map_eq_some_iff.1 read
    have each : ∀ e ∈ (Dict.ofList entries).entries, (back (write e.2)).map (e.1, ·) = some e := by
      intro e member
      obtain ⟨field, _, pair⟩ := Outcome.exists_of_forall₂ (Outcome.mapM_eq_some_iff.1 made)
        (Dict.mem_of_mem_ofList member)
      obtain ⟨y, value, rfl⟩ := Option.map_eq_some_iff.1 pair
      rw [one field.2 y value, Option.map_some]
    refine Option.map_eq_some_iff.2 ⟨_, ?_, Dict.ofList_entries _⟩
    exact Outcome.mapM_map_eq_some (fun e : String × α => (e.1, write e.2)) each
  | _ => cases read

theorem nullable_of_ne_null {v : Json} (some_ : v ≠ .null) : nullable back v = (back v).map some := by
  cases v with
  | null => exact absurd rfl some_
  | _ => rfl

theorem ReadsBack.nullable (one : ReadsBack source back write) (written : ∀ x, write x ≠ .null) :
    ReadsBack (nullable source) (nullable back) (Json.ofOption write) := by
  intro v o read
  cases o with
  | none => rfl
  | some x =>
    have there : v ≠ .null := by
      rintro rfl
      cases read
    rw [nullable_of_ne_null there] at read
    obtain ⟨y, value, same⟩ := Option.map_eq_some_iff.1 read
    cases same
    rw [Json.ofOption, Option.elim_some, nullable_of_ne_null (written x), one v x value]
    rfl

end Readers

def presentFields (entries : List (String × Option Json)) : Fields :=
  entries.filterMap fun (k, v) => v.map (k, ·)

theorem names_presentFields (entries : List (String × Option Json)) :
    ((presentFields entries).map Prod.fst).Sublist (entries.map Prod.fst) := by
  induction entries with
  | nil => exact .slnil
  | cons e rest ih =>
    obtain ⟨k, v⟩ := e
    cases v with
    | none => exact ih.cons k
    | some v => exact ih.cons_cons k

section Records

variable {entries : List (String × Option Json)}

theorem fields_ofFields (distinct : (entries.map Prod.fst).Nodup) (f : Format) (names : List String) :
    fields f names (Json.ofFields entries) = some (presentFields entries) := by
  have once : knownOnce names (presentFields entries) = true := by
    refine List.all_eq_true.2 fun n _ => decide_eq_true ?_
    have count := List.nodup_iff_count_le_one.1 ((names_presentFields entries).nodup distinct) n
    rw [List.count_eq_countP, List.countP_map, List.countP_eq_length_filter] at count
    refine le_trans (le_of_eq ?_) count
    congr 1
  change (if knownOnce names (presentFields entries) = true then _ else _) = _
  rw [if_pos once]
  rfl

theorem lookup_presentFields (distinct : (entries.map Prod.fst).Nodup) {name : String}
    {o : Option Json} (member : (name, o) ∈ entries) : (presentFields entries).lookup name = o := by
  induction entries with
  | nil => cases member
  | cons e rest ih =>
    obtain ⟨k, v⟩ := e
    rw [List.map_cons, List.nodup_cons] at distinct
    obtain ⟨fresh, distinct⟩ := distinct
    rcases List.mem_cons.1 member with same | there
    · cases same
      cases o with
      | none =>
        change (presentFields rest).lookup name = none
        exact lookup_eq_none_iff.2 fun listed => fresh ((names_presentFields rest).subset listed)
      | some w => exact List.lookup_cons_self
    · have other : name ≠ k := by
        rintro rfl
        exact fresh (List.mem_map.2 ⟨_, there, rfl⟩)
      cases v with
      | none => exact ih distinct there
      | some w =>
        change ((k, w) :: presentFields rest).lookup name = o
        rw [lookup_cons_ite, if_neg other, ih distinct there]

variable {α : Type} {source back : Json → Option α} {write : α → Json}
variable {fs : Fields} {name : String}

theorem ReadsBack.required (one : ReadsBack source back write) {x : α}
    (read : required fs name source = some x) (distinct : (entries.map Prod.fst).Nodup)
    (member : (name, some (write x)) ∈ entries) :
    required (presentFields entries) name back = some x := by
  obtain ⟨v, _, value⟩ := Option.bind_eq_some_iff.1 read
  rw [Decode.required, lookup_presentFields distinct member]
  exact one v x value

theorem ReadsBack.defaulted (one : ReadsBack source back write) {x default : α}
    (fallback : back (write default) = some default) (read : defaulted fs name source default = some x)
    (distinct : (entries.map Prod.fst).Nodup) (member : (name, some (write x)) ∈ entries) :
    defaulted (presentFields entries) name back default = some x := by
  rw [Decode.defaulted, lookup_presentFields distinct member]
  unfold Decode.defaulted at read
  split at read
  · exact one _ x read
  · cases read
    exact fallback

theorem ReadsBack.optional (one : ReadsBack source back write) (written : ∀ x, write x ≠ .null)
    {o : Option α} (read : optional fs name source = some o)
    (distinct : (entries.map Prod.fst).Nodup) (member : (name, o.map write) ∈ entries) :
    optional (presentFields entries) name back = some o := by
  rw [Decode.optional, Decode.defaulted, lookup_presentFields distinct member]
  cases o with
  | none => rfl
  | some x =>
    unfold Decode.optional Decode.defaulted at read
    split at read
    · exact one.nullable written _ _ read
    · cases read

theorem ReadsBack.dictField (one : ReadsBack source back write) {d : Dict α}
    (read : Decode.defaulted fs name (Decode.dict source) .empty = some d)
    (distinct : (entries.map Prod.fst).Nodup) (member : (name, Json.ofNonempty write d) ∈ entries) :
    Decode.defaulted (presentFields entries) name (Decode.dict back) .empty = some d := by
  rw [Json.ofNonempty] at member
  split at member
  · rename_i empty
    rw [Decode.defaulted, lookup_presentFields distinct member]
    exact congrArg some (Dict.ext (List.isEmpty_iff.1 empty).symm)
  · exact one.dict.defaulted rfl read distinct member

/-- What a reader makes of some fields, another one finds again wherever they were written. -/
def FieldsReadBack (source back : Fields → Option α) (written : α → List (String × Option Json)) :
    Prop :=
  ∀ fs x, source fs = some x →
    ∀ {entries : List (String × Option Json)}, written x ⊆ entries →
      (entries.map Prod.fst).Nodup → back (presentFields entries) = some x

theorem FieldsReadBack.record {source back : Fields → Option α} {names : List String}
    (written : α → List (String × Option Json)) (inner : FieldsReadBack source back written)
    (distinct : names.Nodup) (named : ∀ x, (written x).map Prod.fst = names) (f g : Format) :
    ReadsBack (fun v => (fields f names v).bind source) (fun v => (fields g names v).bind back)
      fun x => Json.ofFields (written x) := by
  intro v x read
  obtain ⟨fs, _, read⟩ := Option.bind_eq_some_iff.1 read
  have once : ((written x).map Prod.fst).Nodup := by rwa [named]
  change (fields g names (Json.ofFields (written x))).bind back = some x
  rw [fields_ofFields once]
  exact inner fs x read (List.Subset.refl _) once

end Records

end Datalogger
