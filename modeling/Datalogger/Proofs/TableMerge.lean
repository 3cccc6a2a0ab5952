import Datalogger.Proofs.Design
import Datalogger.Proofs.MergeOutcome

/-!
Merged tables. They gather what was contributed under each name. Tables whose settings follow from their
names always merge, and the merged tables are as plain as the contributed ones.
-/

namespace Datalogger.Table

open Text (fold)
open Contributed

variable {L : TextLaw}

theorem exists_of_mem_combined {given : Contributed} {t : Table String} (member : t ∈ combined given) :
    ∃ g ∈ given, t = { g.2 with items := given.itemsUnder (fold g.2.name) } := by
  obtain ⟨p, placed, rfl⟩ := List.mem_map.1 member
  obtain ⟨key, _, found⟩ := List.mem_filterMap.1 placed
  obtain ⟨g, seen, rfl⟩ := Option.map_eq_some_iff.1 found
  obtain ⟨there, rfl⟩ := mem_of_first? seen
  exact ⟨g, there, rfl⟩

theorem gathered_merge {contributions : List (String × List (Table String))}
    {tables : List (Table String)} (merged : merge contributions = .ok tables) :
    Gathered foldedName settings items (given contributions) tables := by
  obtain ⟨agree, rfl⟩ := ((merge_exact contributions).1 tables).1 merged
  have names : (combined (contributed contributions)).map foldedName =
      keys (contributed contributions) := map_fold_combined _
  refine ⟨?distinct, fun k => ?keys, fun w hw a ha same => ?agree, fun w hw => ?parts⟩
  case distinct =>
    rw [names]
    exact nodup_keys _
  case keys =>
    rw [names, mem_keys, given, List.map_map, List.mem_map]
    rfl
  case agree =>
    obtain ⟨g, hg, rfl⟩ := exists_of_mem_combined hw
    obtain ⟨b, hb, rfl⟩ := List.mem_map.1 ha
    exact agree b hb g hg same
  case parts =>
    obtain ⟨g, _, rfl⟩ := exists_of_mem_combined hw
    rw [given, List.filter_map, List.flatMap_map]
    rfl

theorem nodup_merge {contributions : List (String × List (Table String))} {tables : List (Table String)}
    (merged : merge contributions = .ok tables) : (tables.map fun t => fold t.name).Nodup :=
  (gathered_merge merged).distinct

/-- Tables merge exactly if those of one name have the same settings. -/
theorem merge_ok_iff {contributions : List (String × List (Table String))} :
    (∃ tables, merge contributions = .ok tables) ↔
      ∀ a ∈ given contributions, ∀ b ∈ given contributions,
        fold a.name = fold b.name → a.settings = b.settings := by
  simp only [(merge_exact contributions).1, given, List.forall_mem_map]
  exact ⟨fun ⟨_, agree, _⟩ => agree, fun agree => ⟨_, agree, rfl⟩⟩

theorem plain_merge {contributions : List Contribution}
    (plain : ∀ c ∈ contributions, PlainContribution L c) :
    ∃ tables, merge (Assembly.collectTables contributions) = .ok tables ∧
      ∀ t ∈ tables, PlainTable L t := by
  have each : ∀ c ∈ contributed (Assembly.collectTables contributions), PlainTable L c.2 := by
    intro c member
    obtain ⟨⟨owner, ts⟩, collected, inside⟩ := List.mem_flatMap.1 member
    obtain ⟨x, hx, same⟩ := List.mem_filterMap.1 collected
    obtain ⟨ts', given, pair⟩ := Option.map_eq_some_iff.1 same
    cases pair
    obtain ⟨t, ht, rfl⟩ := List.mem_map.1 inside
    exact (plain x hx).tables ts given t ht
  have agree : Agreeing (contributed (Assembly.collectTables contributions)) := by
    intro a ha b hb same
    rw [(each a ha).settings, (each b hb).settings, same]
  refine ⟨_, merge_of_agreeing agree, fun t member => ?_⟩
  obtain ⟨g, hg, rfl⟩ := exists_of_mem_combined member
  refine ⟨(each g hg).name, (each g hg).settings, fun i hi => ?_, fun i hi => ?_⟩
  · obtain ⟨c, hc, own⟩ := List.mem_flatMap.1 hi
    exact (each c (List.mem_filter.1 hc).1).outputs i own
  · obtain ⟨c, hc, own⟩ := List.mem_flatMap.1 hi
    exact (each c (List.mem_filter.1 hc).1).fields i own

end Datalogger.Table
