import Datalogger.Proofs.Gathering

/-!
What merging returns. Tables that were given under one name, ignoring case, come out as one table: the
first of them, at the place where it was first seen, with the items of all of them in order. Merging
fails exactly if two of them have different settings, and then it names the first that differs from
the first of its name.
-/

namespace Datalogger.Table

open Text (fold)

abbrev Contributed := List (String × Table String)

namespace Contributed

/-- The names without regard to case, in first-seen order. -/
def keys (given : Contributed) : List String :=
  (given.map fun g => fold g.2.name).eraseDups

def first? (given : Contributed) (key : String) : Option (String × Table String) :=
  given.find? fun g => fold g.2.name = key

def itemsUnder (given : Contributed) (key : String) : List (TableItem String) :=
  (given.filter fun g => fold g.2.name = key).flatMap fun g => g.2.items

/-- The first table of a name, with the items of all of them, and who gave the first. -/
def placeOf? (given : Contributed) (key : String) : Option Placed :=
  (given.first? key).map fun g => ⟨{ g.2 with items := given.itemsUnder key }, g.1⟩

def places (given : Contributed) : List Placed :=
  given.keys.filterMap given.placeOf?

def Agreeing (given : Contributed) : Prop :=
  ∀ a ∈ given, ∀ b ∈ given, fold a.2.name = fold b.2.name → a.2.settings = b.2.settings

/-- The tables up to some point agree, and the next one differs from the first of its name. -/
inductive Conflict (given : Contributed) : Error → Prop
  | intro (earlier later : Contributed) (first second : String) (seed t : Table String)
      (detail : String) (split : given = earlier ++ (second, t) :: later)
      (before : earlier.Agreeing) (seen : earlier.first? (fold t.name) = some (first, seed))
      (differ : seed.settings.difference t.settings = some detail) :
      Conflict given (.tableConflict seed.name first second detail)

variable {given : Contributed} {x : String × Table String} {key : String}

theorem mem_keys : key ∈ given.keys ↔ ∃ g ∈ given, fold g.2.name = key := by
  simp [keys]

theorem first?_eq_none_iff : given.first? key = none ↔ key ∉ given.keys := by
  simp [first?, mem_keys]

theorem mem_of_first? (seen : given.first? key = some x) : x ∈ given ∧ fold x.2.name = key := by
  refine ⟨List.mem_of_find?_eq_some seen, ?_⟩
  simpa using List.find?_some seen

theorem keys_concat_of_mem (known : fold x.2.name ∈ given.keys) :
    keys (given ++ [x]) = given.keys := by
  rw [keys, List.map_append, List.map_singleton, eraseDups_concat, if_pos (List.mem_eraseDups.1 known)]
  rfl

theorem keys_concat_of_not_mem (fresh : fold x.2.name ∉ given.keys) :
    keys (given ++ [x]) = given.keys ++ [fold x.2.name] := by
  have unseen : fold x.2.name ∉ given.map fun g => fold g.2.name := fun there =>
    fresh (List.mem_eraseDups.2 there)
  rw [keys, List.map_append, List.map_singleton, eraseDups_concat, if_neg unseen]
  rfl

theorem itemsUnder_concat_self :
    itemsUnder (given ++ [x]) (fold x.2.name) = given.itemsUnder (fold x.2.name) ++ x.2.items := by
  simp [itemsUnder, List.filter_append]

theorem itemsUnder_concat_of_ne (other : fold x.2.name ≠ key) :
    itemsUnder (given ++ [x]) key = given.itemsUnder key := by
  simp [itemsUnder, List.filter_append, other]

theorem itemsUnder_of_not_mem (fresh : key ∉ given.keys) : given.itemsUnder key = [] := by
  have none : (given.filter fun g => fold g.2.name = key) = [] := by
    rw [List.filter_eq_nil_iff]
    intro g member same
    exact fresh (mem_keys.2 ⟨g, member, by simpa using same⟩)
  rw [itemsUnder, none, List.flatMap_nil]

theorem first?_concat (known : key ∈ given.keys) : first? (given ++ [x]) key = given.first? key := by
  cases seen : given.first? key with
  | none => exact absurd known (first?_eq_none_iff.1 seen)
  | some g =>
    rw [first?] at seen ⊢
    rw [List.find?_append, seen]
    rfl

theorem fold_name_of_placeOf? {p : Placed} (placed : given.placeOf? key = some p) :
    fold p.table.name = key := by
  obtain ⟨g, seen, rfl⟩ := Option.map_eq_some_iff.1 placed
  exact (mem_of_first? seen).2

theorem exists_placeOf? (known : key ∈ given.keys) : ∃ p, given.placeOf? key = some p := by
  cases seen : given.first? key with
  | none => exact absurd known (first?_eq_none_iff.1 seen)
  | some g => exact ⟨_, by rw [placeOf?, seen]; rfl⟩

def added (t : Table String) (p : Placed) : Placed :=
  if fold p.table.name = fold t.name then p.extend t.items else p

theorem placeOf?_concat (known : key ∈ given.keys) :
    placeOf? (given ++ [x]) key = (given.placeOf? key).map (added x.2) := by
  rw [placeOf?, first?_concat known, placeOf?, Option.map_map]
  refine Option.map_congr fun g seen => ?_
  have name : fold g.2.name = key := (mem_of_first? seen).2
  by_cases same : fold x.2.name = key
  · subst same
    simp [added, name, Placed.extend, itemsUnder_concat_self]
  · have miss : key ≠ fold x.2.name := Ne.symm same
    simp [added, name, miss, itemsUnder_concat_of_ne same]

theorem places_concat_of_mem (known : fold x.2.name ∈ given.keys) :
    places (given ++ [x]) = given.places.map (added x.2) := by
  rw [places, keys_concat_of_mem known, places, List.map_filterMap]
  exact List.filterMap_congr fun key member => placeOf?_concat member

theorem places_concat_of_not_mem (fresh : fold x.2.name ∉ given.keys) :
    places (given ++ [x]) = given.places ++ [⟨x.2, x.1⟩] := by
  have others : ∀ key ∈ given.keys, placeOf? (given ++ [x]) key = given.placeOf? key := by
    intro key member
    have apart : fold x.2.name ≠ key := fun same => fresh (same ▸ member)
    rw [placeOf?, first?_concat member, itemsUnder_concat_of_ne apart, placeOf?]
  have last : placeOf? (given ++ [x]) (fold x.2.name) = some ⟨x.2, x.1⟩ := by
    have unseen := first?_eq_none_iff.2 fresh
    rw [placeOf?, itemsUnder_concat_self, itemsUnder_of_not_mem fresh]
    rw [first?] at unseen ⊢
    rw [List.find?_append, unseen]
    simp
  rw [places, keys_concat_of_not_mem fresh, List.filterMap_append, places,
    List.filterMap_congr others]
  simp [last]

theorem map_fold_places (given : Contributed) :
    (given.places.map fun p => fold p.table.name) = given.keys := by
  have each : ∀ key ∈ given.keys, (given.placeOf? key).map (fun p => fold p.table.name) = some key := by
    intro key member
    obtain ⟨p, placed⟩ := exists_placeOf? member
    rw [placed, Option.map_some, fold_name_of_placeOf? placed]
  rw [places, List.map_filterMap, List.filterMap_congr each, List.filterMap_some]

theorem nodup_keys (given : Contributed) : (keys given).Nodup := by
  induction given using List.reverseRecOn with
  | nil => exact List.nodup_nil
  | append_singleton given x ih =>
    by_cases known : fold x.2.name ∈ keys given
    · rwa [keys_concat_of_mem known]
    · rw [keys_concat_of_not_mem known, List.nodup_append]
      refine ⟨ih, List.nodup_singleton _, fun key member last there => ?_⟩
      rw [List.mem_singleton.1 there]
      exact fun same => known (same ▸ member)

end Contributed

open Contributed

theorem place_of_fresh {owner : String} {t : Table String} {m : Merging}
    (fresh : ∀ p ∈ m.items, fold p.table.name ≠ fold t.name) :
    ∃ m', place owner t m = .ok m' ∧ m'.items = m.items ++ [⟨t, owner⟩] := by
  have unknown := IndexedList.get?_eq_none_iff.2 fresh
  unfold place
  split
  · exact ⟨_, rfl, rfl⟩
  · rename_i i found
    rw [unknown] at found
    cases found

theorem map_added_of_apart {t : Table String} {rest : List Placed}
    (apart : ∀ q ∈ rest, fold q.table.name ≠ fold t.name) : rest.map (added t) = rest := by
  have each : ∀ q ∈ rest, added t q = q := fun q member => if_neg (apart q member)
  rw [List.map_congr_left each, List.map_id']

theorem place_of_known {owner : String} {t : Table String} {m : Merging} {p : Placed}
    (distinct : (m.items.map fun q => fold q.table.name).Nodup) (member : p ∈ m.items)
    (same : fold p.table.name = fold t.name) :
    (∃ detail, p.table.settings.difference t.settings = some detail ∧
      place owner t m = .error (.tableConflict p.table.name p.owner owner detail)) ∨
    p.table.settings = t.settings ∧
      ∃ m', place owner t m = .ok m' ∧ m'.items = m.items.map (added t) := by
  unfold place
  split
  · rename_i unknown
    exact absurd same (IndexedList.get?_eq_none_iff.1 unknown p member)
  · rename_i i found
    obtain ⟨before, after, split, named, earlier, changed⟩ := IndexedList.exists_split found
    have here : m.element found ∈ m.items := by
      rw [split]
      simp
    obtain rfl : p = m.element found :=
      List.inj_on_of_nodup_map distinct member here (same.trans named.symm)
    have later : ∀ q ∈ after, fold q.table.name ≠ fold t.name := by
      rw [split, List.map_append, List.map_cons, List.nodup_middle, List.nodup_cons] at distinct
      intro q hq equal
      refine distinct.1 (List.mem_append_right _ (List.mem_map.2 ⟨q, hq, equal.trans named.symm⟩))
    cases differ : (m.element found).table.settings.difference t.settings with
    | some detail => exact .inl ⟨detail, rfl, by simp only [differ]⟩
    | none =>
      refine .inr ⟨TableSettings.difference_eq_none_iff.1 differ,
        m.modify i (.extend t.items) (Placed.fold_name_extend t.items), by simp only [differ], ?_⟩
      rw [changed, split, List.map_append, List.map_cons, map_added_of_apart earlier,
        map_added_of_apart later, added, if_pos named]

/-- One more table: a place of its own, its items added to the place of its name, or a conflict with
the first table of its name. -/
theorem place_places {given : Contributed} {m : Merging} (holds : m.items = given.places)
    (owner : String) (t : Table String) :
    (∃ first seed detail, given.first? (fold t.name) = some (first, seed) ∧
      seed.settings.difference t.settings = some detail ∧
      place owner t m = .error (.tableConflict seed.name first owner detail)) ∨
    ((∀ first seed, given.first? (fold t.name) = some (first, seed) → seed.settings = t.settings) ∧
      ∃ m', place owner t m = .ok m' ∧ m'.items = places (given ++ [(owner, t)])) := by
  have names := map_fold_places given
  cases seen : given.first? (fold t.name) with
  | none =>
    have fresh := first?_eq_none_iff.1 seen
    refine .inr ⟨by simp, ?_⟩
    rw [places_concat_of_not_mem fresh, ← holds]
    refine place_of_fresh fun p member same => fresh ?_
    rw [← same, ← names, ← holds]
    exact List.mem_map_of_mem member
  | some g =>
    obtain ⟨first, seed⟩ := g
    have known : fold t.name ∈ given.keys := by
      refine Classical.byContradiction fun fresh => ?_
      rw [first?_eq_none_iff.2 fresh] at seen
      cases seen
    have placed : placeOf? given (fold t.name) =
        some ⟨{ seed with items := given.itemsUnder (fold t.name) }, first⟩ := by
      rw [placeOf?, seen]
      rfl
    have member := List.mem_filterMap.2 ⟨_, known, placed⟩
    rw [← places, ← holds] at member
    have distinct : (m.items.map fun q => fold q.table.name).Nodup := by
      rw [holds, names]
      exact nodup_keys given
    rcases place_of_known distinct member (mem_of_first? seen).2 with
      ⟨detail, differ, stopped⟩ | ⟨alike, made⟩
    · exact .inl ⟨first, seed, detail, rfl, differ, stopped⟩
    · rw [places_concat_of_mem known, ← holds]
      refine .inr ⟨?_, made⟩
      rintro _ _ ⟨⟩
      exact alike

theorem Contributed.Agreeing.concat {given : Contributed} {owner : String} {t : Table String}
    (agree : given.Agreeing)
    (first : ∀ o seed, given.first? (fold t.name) = some (o, seed) → seed.settings = t.settings) :
    Agreeing (given ++ [(owner, t)]) := by
  have matching : ∀ a ∈ given, fold a.2.name = fold t.name → a.2.settings = t.settings := by
    intro a member same
    cases seen : given.first? (fold t.name) with
    | none => exact absurd (mem_keys.2 ⟨a, member, same⟩) (first?_eq_none_iff.1 seen)
    | some g =>
      obtain ⟨there, name⟩ := mem_of_first? seen
      rw [agree a member g there (same.trans name.symm), first g.1 g.2 seen]
  intro a ha b hb same
  rcases List.mem_append.1 ha with ha | ha <;> rcases List.mem_append.1 hb with hb | hb
  · exact agree a ha b hb same
  · rw [List.mem_singleton.1 hb] at same ⊢
    exact matching a ha same
  · rw [List.mem_singleton.1 ha] at same ⊢
    exact (matching b hb same.symm).symm
  · rw [List.mem_singleton.1 ha, List.mem_singleton.1 hb]

theorem placeAll_append (earlier rest : Contributed) (m : Merging) :
    placeAll (earlier ++ rest) m = placeAll earlier m >>= placeAll rest := by
  induction earlier generalizing m with
  | nil => rfl
  | cons c earlier ih =>
    rw [List.cons_append, placeAll, placeAll]
    cases place c.1 c.2 m with
    | error e => rfl
    | ok next => exact ih next

/-- The tables so far agree; a run over the rest ends with the places of all of them or in a conflict. -/
theorem placeAll_places {given rest : Contributed} {m : Merging} (holds : m.items = given.places)
    (agree : given.Agreeing) :
    (Agreeing (given ++ rest) ∧
      ∃ m', placeAll rest m = .ok m' ∧ m'.items = places (given ++ rest)) ∨
      ∃ e, Conflict (given ++ rest) e ∧ placeAll rest m = .error e := by
  induction rest generalizing given m with
  | nil => exact .inl ⟨by simpa using agree, m, rfl, by simpa using holds⟩
  | cons c rest ih =>
    obtain ⟨owner, t⟩ := c
    have regroup : given ++ (owner, t) :: rest = (given ++ [(owner, t)]) ++ rest := by simp
    rw [placeAll]
    rcases place_places holds owner t with ⟨first, seed, detail, seen, differ, stopped⟩ |
      ⟨alike, m', made, holds'⟩
    · rw [stopped]
      exact .inr ⟨_, .intro given rest first owner seed t detail rfl agree seen differ, rfl⟩
    · rw [made, regroup]
      exact ih holds' (agree.concat alike)

theorem Contributed.Conflict.not_agreeing {given : Contributed} {e : Error} (conflict : given.Conflict e) :
    ¬ given.Agreeing := by
  cases conflict with
  | intro earlier later first second seed t detail split before seen differ =>
    intro agree
    obtain ⟨member, name⟩ := mem_of_first? seen
    have equal : seed.settings = t.settings := by
      refine agree (first, seed) ?_ (second, t) ?_ name
      · rw [split]
        exact List.mem_append_left _ member
      · rw [split]
        simp
    rw [TableSettings.difference_eq_none_iff.2 equal] at differ
    cases differ

theorem Contributed.Conflict.placeAll_eq {given : Contributed} {e : Error}
    (conflict : given.Conflict e) : placeAll given .empty = .error e := by
  cases conflict with
  | intro earlier later first second seed t detail split before seen differ =>
    rw [split, placeAll_append]
    rcases @placeAll_places [] earlier .empty rfl (by simp [Agreeing]) with
      ⟨_, m, made, holds⟩ | ⟨e, never, _⟩
    · rw [made]
      change placeAll ((second, t) :: later) m = _
      rcases place_places holds second t with ⟨_, _, _, seen', differ', stopped⟩ | ⟨alike, _⟩
      · rw [List.nil_append, seen] at seen'
        cases seen'
        rw [differ] at differ'
        cases differ'
        rw [placeAll, stopped]
      · rw [TableSettings.difference_eq_none_iff.2 (alike first seed seen)] at differ
        cases differ
    · exact absurd before never.not_agreeing

def combined (given : Contributed) : List (Table String) :=
  given.places.map Placed.table

theorem map_fold_combined (given : Contributed) :
    ((combined given).map fun t => fold t.name) = given.keys := by
  rw [combined, List.map_map]
  exact map_fold_places given

theorem Contributed.agreeing_or_conflict (given : Contributed) :
    (given.Agreeing ∧ ∃ m, placeAll given .empty = .ok m ∧ m.items = given.places) ∨
      ∃ e, given.Conflict e := by
  rcases @placeAll_places [] given .empty rfl (by simp [Agreeing]) with made | ⟨e, conflict, _⟩
  · exact .inl made
  · exact .inr ⟨e, conflict⟩

theorem merge_of_agreeing {contributions : List (String × List (Table String))}
    (agree : Agreeing (contributed contributions)) :
    merge contributions = .ok (combined (contributed contributions)) := by
  rcases agreeing_or_conflict (contributed contributions) with ⟨_, m, made, holds⟩ | ⟨e, conflict⟩
  · rw [merge, made, combined, ← holds]
  · exact absurd agree conflict.not_agreeing

theorem merge_exact (contributions : List (String × List (Table String))) :
    (∀ tables, merge contributions = .ok tables ↔
      Agreeing (contributed contributions) ∧ tables = combined (contributed contributions)) ∧
    ∀ e, merge contributions = .error e ↔ Conflict (contributed contributions) e := by
  refine Outcome.exact_of_exhaustive ?_ ?_ ?_
  · rintro _ ⟨agree, rfl⟩
    exact merge_of_agreeing agree
  · intro e conflict
    rw [merge, conflict.placeAll_eq]
  · rcases agreeing_or_conflict (contributed contributions) with ⟨agree, _⟩ | conflict
    · exact .inl ⟨_, agree, rfl⟩
    · exact .inr conflict

end Datalogger.Table
