import Mathlib.Data.List.Induction
import Datalogger.Data.Json

/-!
Entries and normal forms. Inserting entries in ascending order appends them, so a map is made again from
its entries, and a value in normal form is its own normal form.
-/

namespace Datalogger

theorem lookup_eq_none_iff {α : Type} {key : String} {entries : List (String × α)} :
    entries.lookup key = none ↔ key ∉ entries.map Prod.fst := by
  induction entries with
  | nil => simp
  | cons e rest ih =>
    rw [lookup_cons_ite, List.map_cons, List.mem_cons, not_or, ← ih]
    by_cases same : key = e.1 <;> simp [same]

theorem insertEntry_of_greatest {α : Type} {key : String} {value : α} {entries : List (String × α)}
    (greatest : ∀ e ∈ entries, e.1 < key) :
    insertEntry key value entries = entries ++ [(key, value)] := by
  induction entries with
  | nil => rfl
  | cons head rest ih =>
    obtain ⟨k, v⟩ := head
    have below : k < key := greatest _ List.mem_cons_self
    have notBelow : ¬ key < k := fun above => String.lt_irrefl _ (String.lt_trans below above)
    have other : key ≠ k := fun same => String.lt_irrefl k (same ▸ below)
    rw [insertEntry, if_neg notBelow, if_neg other,
      ih fun e member => greatest e (List.mem_cons_of_mem _ member), List.cons_append]

theorem Ascending.greatest {α : Type} {front back : List (String × α)} {e : String × α}
    (ascending : Ascending (front ++ e :: back)) : ∀ x ∈ front, x.1 < e.1 := fun x member =>
  (List.pairwise_append.1 ascending).2.2 x member e List.mem_cons_self

namespace Dict

variable {α : Type}

theorem entries_foldl_insert {rest : List (String × α)} {d : Dict α}
    (ascending : Ascending (d.entries ++ rest)) :
    (rest.foldl (fun d e => d.insert e.1 e.2) d).entries = d.entries ++ rest := by
  induction rest generalizing d with
  | nil => simp
  | cons e rest ih =>
    have next : (d.insert e.1 e.2).entries = d.entries ++ [e] :=
      insertEntry_of_greatest ascending.greatest
    rw [List.foldl_cons, ih (by rwa [next, List.append_assoc]), next, List.append_assoc,
      List.singleton_append]

theorem mem_of_mem_ofList {entries : List (String × α)} {e : String × α}
    (member : e ∈ (ofList entries).entries) : e ∈ entries := by
  have grown : ∀ (rest : List (String × α)) (d : Dict α),
      e ∈ (rest.foldl (fun d e => d.insert e.1 e.2) d).entries → e ∈ rest ∨ e ∈ d.entries := by
    intro rest
    induction rest with
    | nil => exact fun _ member => .inr member
    | cons x rest ih =>
      intro d member
      rcases ih _ member with later | now
      · exact .inl (List.mem_cons_of_mem x later)
      · rcases key_of_mem_insertEntry now with rfl | before
        · exact .inl List.mem_cons_self
        · exact .inr before
  rcases grown entries .empty member with member | never
  · exact member
  · cases never

@[simp] theorem ofList_entries (d : Dict α) : ofList d.entries = d :=
  ext (entries_foldl_insert d.ascending)

theorem mem_of_get? {d : Dict α} {key : String} {v : α} (found : d.get? key = some v) :
    (key, v) ∈ d.entries := by
  obtain ⟨front, back, same, _⟩ := List.lookup_eq_some_iff.1 found
  rw [same]
  exact List.mem_append_right _ List.mem_cons_self

theorem get?_ofList_concat (entries : List (String × α)) (e : String × α) (key : String) :
    (ofList (entries ++ [e])).get? key = if key = e.1 then some e.2 else (ofList entries).get? key := by
  rw [ofList, List.foldl_append]
  exact get?_insert _ e.1 key e.2

/-- Entries with keys of their own are all found. -/
theorem get?_ofList_of_mem {entries : List (String × α)} (distinct : (entries.map Prod.fst).Nodup)
    {key : String} {v : α} (member : (key, v) ∈ entries) : (ofList entries).get? key = some v := by
  induction entries using List.reverseRecOn with
  | nil => cases member
  | append_singleton entries e ih =>
    rw [List.map_append, List.nodup_append] at distinct
    rw [get?_ofList_concat]
    rcases List.mem_append.1 member with before | last
    · have other : key ≠ e.1 :=
        distinct.2.2 key (List.mem_map_of_mem before) e.1 (List.mem_singleton_self _)
      rw [if_neg other, ih distinct.1 before]
    · cases List.mem_singleton.1 last
      rw [if_pos rfl]

end Dict

namespace Json

structure Settled (fields : List (String × Json)) : Prop where
  ascending : Ascending fields
  normal : ∀ e ∈ fields, e.2.normal = e.2

theorem Settled.insertEntry {fields : List (String × Json)} {key : String} {v : Json}
    (settled : Settled fields) (normal : v.normal = v) : Settled (insertEntry key v fields) where
  ascending := settled.ascending.insertEntry
  normal := by
    intro e member
    rcases key_of_mem_insertEntry member with rfl | member
    · exact normal
    · exact settled.normal e member

theorem normalFields_of_settled {rest sorted : List (String × Json)}
    (settled : Settled (sorted ++ rest)) : normalFields rest sorted = sorted ++ rest := by
  induction rest generalizing sorted with
  | nil => simp [normalFields]
  | cons e rest ih =>
    obtain ⟨k, v⟩ := e
    have same : v.normal = v := settled.normal (k, v) (by simp)
    have shifted : sorted ++ [(k, v)] ++ rest = sorted ++ (k, v) :: rest := by simp
    rw [normalFields, same, insertEntry_of_greatest settled.ascending.greatest,
      ih (by rwa [shifted]), shifted]

mutual

@[simp] theorem normal_normal : ∀ v : Json, v.normal.normal = v.normal
  | null | bool _ | int _ | str _ | faulty => by simp [normal]
  | real x => by
    rw [normal]
    split
    · rename_i finite
      rw [normal, if_pos finite]
    · rw [normal]
  | arr items => by rw [normal, normal, normalItems_normalItems items]
  | obj fields => by
    have settled := settled_normalFields fields ⟨.nil, by simp⟩
    rw [normal, normal, @normalFields_of_settled _ [] settled, List.nil_append]

theorem normalItems_normalItems : ∀ vs : List Json, normalItems (normalItems vs) = normalItems vs
  | [] => rfl
  | v :: vs => by
    rw [normalItems, normalItems, normal_normal v, normalItems_normalItems vs]

theorem settled_normalFields : ∀ (fields : List (String × Json)) {sorted : List (String × Json)},
    Settled sorted → Settled (normalFields fields sorted)
  | [], _, settled => by rwa [normalFields]
  | (_, v) :: rest, _, settled => by
    rw [normalFields]
    exact settled_normalFields rest (settled.insertEntry (normal_normal v))

end

theorem soundFields_iff {fields : List (String × Json)} :
    soundFields fields = true ↔ ∀ e ∈ fields, e.2.sound = true := by
  induction fields with
  | nil => simp [soundFields]
  | cons e rest ih => simp [soundFields, ih]

mutual

theorem sound_normal : ∀ {v : Json}, v.sound = true → v.normal.sound = true
  | null, _ | bool _, _ | int _, _ | str _, _ => by simp [normal, sound]
  | real x, _ => by
    rw [normal]
    split <;> rfl
  | faulty, never => by simp [sound] at never
  | arr items, h => by
    rw [sound] at h
    rw [normal, sound]
    exact soundItems_normalItems h
  | obj fields, h => by
    rw [sound] at h
    rw [normal, sound]
    exact soundFields_normalFields h (by simp [soundFields])

theorem soundItems_normalItems : ∀ {vs : List Json}, soundItems vs = true →
    soundItems (normalItems vs) = true
  | [], _ => rfl
  | v :: vs, h => by
    rw [soundItems, Bool.and_eq_true] at h
    rw [normalItems, soundItems, sound_normal h.1, soundItems_normalItems h.2, Bool.and_self]

theorem soundFields_normalFields : ∀ {fields sorted : List (String × Json)},
    soundFields fields = true → soundFields sorted = true →
      soundFields (normalFields fields sorted) = true
  | [], _, _, hs => by rwa [normalFields]
  | (k, v) :: rest, sorted, h, hs => by
    rw [soundFields, Bool.and_eq_true] at h
    rw [normalFields]
    refine soundFields_normalFields h.2 (soundFields_iff.2 fun e member => ?_)
    rcases key_of_mem_insertEntry member with rfl | member
    · exact sound_normal h.1
    · exact soundFields_iff.1 hs e member

end

end Json

end Datalogger
