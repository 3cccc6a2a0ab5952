import Datalogger.Proofs.Gathering
import Datalogger.Proofs.Text.LineBreaks

/-!
What grouping returns. Slow sequences that were given under one id come out as one: with the cadence of
the first of them, at the place where the id was first seen, and with the lines of all of them in the
order in which they were given. Who gives a sequence plays no part.
-/

namespace Datalogger.SlowSequence

open Text (joinLines)

variable {α : Type}

def given (contributions : List (String × SlowSequence α)) : List (SlowSequence α) :=
  contributions.map Prod.snd

def Opens (given : List (SlowSequence α)) (first : SlowSequence α) : Prop :=
  ∃ earlier later, given = earlier ++ first :: later ∧ ∀ s ∈ earlier, s.id ≠ first.id

def under (given : List (SlowSequence α)) (id : String) : List (SlowSequence α) :=
  given.filter fun s => s.id = id

structure Merges (given : List (SlowSequence String)) (s : SlowSequence String) : Prop where
  cadence : ∃ first, Opens given first ∧ first.id = s.id ∧ s.scan = first.scan
  lines : s.lines = (under given s.id).flatMap SlowSequence.lines
  /-- A sequence without lines adds neither a text nor a line feed. -/
  logic : s.logic = joinLines (((under given s.id).filter fun g => !g.lines.isEmpty).map logic)

theorem Opens.concat {given : List (SlowSequence α)} {first : SlowSequence α} (opens : Opens given first)
    (s : SlowSequence α) : Opens (given ++ [s]) first := by
  obtain ⟨earlier, later, split, others⟩ := opens
  exact ⟨earlier, later ++ [s], by simp [split], others⟩

theorem opens_concat_self {given : List (SlowSequence α)} {s : SlowSequence α}
    (fresh : s.id ∉ given.map SlowSequence.id) : Opens (given ++ [s]) s :=
  ⟨given, [], rfl, fun _ member same => fresh (same ▸ List.mem_map_of_mem member)⟩

def grouping (given : List (SlowSequence α)) : Grouping α :=
  given.foldl (fun g s => place s g) .empty

theorem group_concat (given : List (SlowSequence α)) (s : SlowSequence α) :
    group (given ++ [s]) = (place s (grouping given)).items := by
  rw [group, List.foldl_append]
  rfl

theorem map_id_group (given : List (SlowSequence α)) :
    (group given).map SlowSequence.id = (given.map SlowSequence.id).eraseDups := by
  induction given using List.reverseRecOn with
  | nil => rfl
  | append_singleton given s ih =>
    change (grouping given).items.map SlowSequence.id = _ at ih
    rw [group_concat, (joins_place s (grouping given)).map_key, ih, List.map_append, List.map_singleton,
      eraseDups_concat]
    simp only [List.mem_eraseDups]

/-- A place keeps its cadence, and a new one has that of the sequence that made it. -/
theorem scan_of_mem_place {s w : SlowSequence α} {g : Grouping α} (member : w ∈ (place s g).items) :
    (∃ p ∈ g.items, p.id = w.id ∧ p.scan = w.scan) ∨ w = s ∧ s.id ∉ g.items.map SlowSequence.id := by
  rcases items_place s g with ⟨absent, placed⟩ | ⟨front, first, back, split, named, placed⟩
  · rw [placed] at member
    rcases List.mem_append.1 member with member | member
    · exact .inl ⟨w, member, rfl, rfl⟩
    · exact .inr ⟨List.mem_singleton.1 member, absent⟩
  · rw [placed] at member
    rw [split]
    rcases List.mem_append.1 member with member | member
    · exact .inl ⟨w, List.mem_append_left _ member, rfl, rfl⟩
    · rcases List.mem_cons.1 member with rfl | member
      · exact .inl ⟨first, by simp, rfl, rfl⟩
      · exact .inl ⟨w, List.mem_append_right _ (List.mem_cons_of_mem _ member), rfl, rfl⟩

theorem exists_opens {given : List (SlowSequence α)} {w : SlowSequence α} (member : w ∈ group given) :
    ∃ first, Opens given first ∧ first.id = w.id ∧ w.scan = first.scan := by
  -- Sequences are placed from the left, so the last one is taken off.
  induction given using List.reverseRecOn generalizing w with
  | nil => cases member
  | append_singleton given s ih =>
    rw [group_concat] at member
    rcases scan_of_mem_place member with ⟨p, there, named, kept⟩ | ⟨rfl, fresh⟩
    · obtain ⟨first, opens, same, cadence⟩ := ih there
      exact ⟨first, opens.concat s, same.trans named, kept.symm.trans cadence⟩
    · have unseen : w.id ∉ given.map SlowSequence.id := fun known =>
        fresh (((gathered_group given).keys _).2 known)
      exact ⟨w, opens_concat_self unseen, rfl, rfl⟩

theorem flatMap_lines_filter (xs : List (SlowSequence α)) :
    (xs.filter fun g => !g.lines.isEmpty).flatMap lines = xs.flatMap lines := by
  induction xs with
  | nil => rfl
  | cons x xs ih =>
    by_cases empty : x.lines = []
    · rw [List.filter_cons_of_neg (by simp [empty]), ih, List.flatMap_cons, empty, List.nil_append]
    · rw [List.filter_cons_of_pos (by simpa using empty), List.flatMap_cons, ih, List.flatMap_cons]

theorem joinLines_flatMap_lines (xs : List (SlowSequence String)) :
    joinLines (xs.flatMap lines) =
      joinLines ((xs.filter fun g => !g.lines.isEmpty).map SlowSequence.logic) := by
  have filled : ∀ g ∈ (xs.filter fun g => !g.lines.isEmpty).map lines, g ≠ [] := by
    intro g member
    obtain ⟨x, hx, rfl⟩ := List.mem_map.1 member
    simpa using (List.mem_filter.1 hx).2
  have joined := Text.joinLines_flatten filled
  rw [List.map_map, ← List.flatMap_def, flatMap_lines_filter] at joined
  exact joined.symm

theorem merges_of_mem_group {given : List (SlowSequence String)} {s : SlowSequence String}
    (member : s ∈ group given) : Merges given s := by
  have gathered : s.lines = (under given s.id).flatMap SlowSequence.lines :=
    (gathered_group given).parts s member
  refine ⟨exists_opens member, gathered, ?_⟩
  rw [SlowSequence.logic, gathered, joinLines_flatMap_lines]

/-- Grouping returns one sequence for each id, in first-seen order, and each is made of all sequences of
its id. The lines under an id are those that were given under it, whatever was given between them. -/
theorem grouping_outcome (contributions : List (String × SlowSequence String)) :
    (group (given contributions)).map SlowSequence.id =
        ((given contributions).map SlowSequence.id).eraseDups ∧
      (∀ s ∈ group (given contributions), Merges (given contributions) s) ∧
      ∀ id, (under (group (given contributions)) id).flatMap lines =
        (under (given contributions) id).flatMap lines :=
  ⟨map_id_group _, fun _ member => merges_of_mem_group member, (gathered_group _).parts_under⟩

/-! Two probes that share a sequence, with a gauge between them and an instrument without lines. -/

namespace SequenceGrouping

def contributions : List (String × SlowSequence String) :=
  [("probe_1", ⟨"soil", .every 1 .minutes, ["first"]⟩),
    ("gauge", ⟨"pluvio", .every 1 .minutes, ["poll"]⟩),
    ("spare", ⟨"soil", .every 2 .hours, []⟩),
    ("probe_2", ⟨"soil", .every 10 .minutes, ["", "If ready Then\nEndIf"]⟩)]

def soil : SlowSequence String :=
  ⟨"soil", .every 1 .minutes, ["first", "", "If ready Then\nEndIf"]⟩

end SequenceGrouping

open SequenceGrouping in
theorem probes_grouped :
    (group (given contributions)).map SlowSequence.id = ["soil", "pluvio"] ∧
      soil ∈ group (given contributions) ∧ Merges (given contributions) soil ∧
      (under (given contributions) "soil").flatMap lines = soil.lines := by
  have member : soil ∈ group (given contributions) := by decide +kernel
  obtain ⟨ids, merged, _⟩ := grouping_outcome contributions
  exact ⟨ids.trans (by decide +kernel), member, merged soil member, (merged soil member).lines.symm⟩

end Datalogger.SlowSequence
