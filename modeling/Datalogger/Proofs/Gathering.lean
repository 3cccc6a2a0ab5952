import Datalogger.Assembly
import Datalogger.Proofs.Outcome

/-!
Gathering by key. Tables are gathered by their folded names and slow sequences by their ids: what was
given under one key ends up in one place, in the order in which it was given. So the order of those who
give decides only about order.
-/

namespace Datalogger

open Text (fold)

theorem filter_key {α κ : Type} [DecidableEq κ] {key : α → κ} {xs : List α}
    (distinct : (xs.map key).Nodup) (k : κ) :
    xs.filter (fun x => key x = k) = [] ∨
      ∃ x ∈ xs, key x = k ∧ xs.filter (fun x => key x = k) = [x] := by
  induction xs with
  | nil => exact .inl rfl
  | cons x xs ih =>
    obtain ⟨fresh, distinct⟩ := List.nodup_cons.1 distinct
    by_cases here : key x = k
    · have none : xs.filter (fun x => key x = k) = [] := by
        rw [List.filter_eq_nil_iff]
        rintro y hy same
        have again : key y = key x := (of_decide_eq_true same).trans here.symm
        exact fresh (again ▸ List.mem_map_of_mem hy)
      exact .inr ⟨x, List.mem_cons_self, here, by rw [List.filter_cons_of_pos (by simpa using here), none]⟩
    · rw [List.filter_cons_of_neg (by simpa using here)]
      rcases ih distinct with none | ⟨y, hy, there, one⟩
      · exact .inl none
      · exact .inr ⟨y, List.mem_cons_of_mem x hy, there, one⟩

section Gathering

variable {α β κ σ : Type} {key : α → κ} {attr : α → σ} {parts : α → List β}

/-- What adding one element does: it makes a place of its own, or it joins the place with its key if
they have the same attributes. -/
inductive Joins (key : α → κ) (attr : α → σ) (parts : α → List β) (x : α) : List α → List α → Prop
  | fresh (placed : List α) (absent : key x ∉ placed.map key) :
      Joins key attr parts x placed (placed ++ [x])
  | joined (front back : List α) {y z : α} (same : key x = key y) (agree : attr x = attr y)
      (kept : key z = key y) (held : attr z = attr y) (both : parts z = parts y ++ parts x) :
      Joins key attr parts x (front ++ y :: back) (front ++ z :: back)

variable [DecidableEq κ]

theorem eraseDups_concat (keys : List κ) (k : κ) :
    (keys ++ [k]).eraseDups = if k ∈ keys then keys.eraseDups else keys.eraseDups ++ [k] := by
  rw [List.eraseDups_append]
  by_cases known : k ∈ keys
  · simp [List.removeAll, known]
  · simp [List.removeAll, known, List.eraseDups_cons]

/-- A place of its own stands last, so the keys are in the order in which they were first given. -/
theorem Joins.map_key {x : α} {placed placed' : List α}
    (step : Joins key attr parts x placed placed') :
    placed'.map key =
      if key x ∈ placed.map key then placed.map key else placed.map key ++ [key x] := by
  cases step with
  | fresh _ absent => rw [if_neg absent, List.map_append, List.map_singleton]
  | joined front back same agree kept held both =>
    rw [if_pos (by simp [same])]
    simp [kept]

structure Gathered (key : α → κ) (attr : α → σ) (parts : α → List β) (given placed : List α) :
    Prop where
  distinct : (placed.map key).Nodup
  keys : ∀ k, k ∈ placed.map key ↔ k ∈ given.map key
  agree : ∀ w ∈ placed, ∀ g ∈ given, key g = key w → attr g = attr w
  parts : ∀ w ∈ placed, parts w = (given.filter fun g => key g = key w).flatMap parts

theorem gathered_nil : Gathered key attr parts [] [] where
  distinct := List.nodup_nil
  keys := by simp
  agree := by simp
  parts := by simp

theorem Gathered.fresh {x : α} {given placed : List α} (g : Gathered key attr parts given placed)
    (absent : key x ∉ placed.map key) : Gathered key attr parts (given ++ [x]) (placed ++ [x]) := by
  have unseen : ∀ a ∈ given, key a ≠ key x := by
    intro a member same
    exact absent ((g.keys _).2 (same ▸ List.mem_map_of_mem member))
  have others : ∀ w ∈ placed, key x ≠ key w := by
    intro w member same
    exact absent (same ▸ List.mem_map_of_mem member)
  constructor
  · rw [List.map_append]
    exact List.nodup_append.2 ⟨g.distinct, by simp, by simpa using fun w hw same => others w hw same.symm⟩
  · intro k
    rw [List.map_append, List.map_append, List.mem_append, List.mem_append, g.keys]
  · intro w hw a ha same
    rcases List.mem_append.1 hw with hw | hw <;> rcases List.mem_append.1 ha with ha | ha
    · exact g.agree w hw a ha same
    · rw [List.mem_singleton.1 ha] at same
      exact absurd same (others w hw)
    · rw [List.mem_singleton.1 hw] at same
      exact absurd same (unseen a ha)
    · rw [List.mem_singleton.1 ha, List.mem_singleton.1 hw]
  · intro w hw
    rw [List.filter_append, List.flatMap_append]
    rcases List.mem_append.1 hw with hw | hw
    · simp [← g.parts w hw, others w hw]
    · rw [List.mem_singleton.1 hw, List.filter_eq_nil_iff.2 (by simpa using unseen)]
      simp

theorem Gathered.joined {x y z : α} {given front back : List α}
    (g : Gathered key attr parts given (front ++ y :: back)) (same : key x = key y)
    (agree : attr x = attr y) (kept : key z = key y) (held : attr z = attr y)
    (both : parts z = parts y ++ parts x) :
    Gathered key attr parts (given ++ [x]) (front ++ z :: back) := by
  have here : y ∈ front ++ y :: back := by simp
  have keys : (front ++ z :: back).map key = (front ++ y :: back).map key := by simp [kept]
  have known : key x ∈ given.map key := (g.keys _).1 (same ▸ List.mem_map_of_mem here)
  -- All places but one are as before, and their keys are others.
  have places : ∀ w ∈ front ++ z :: back, w = z ∨ w ∈ front ++ y :: back ∧ key x ≠ key w := by
    intro w member
    have apart := g.distinct
    rw [List.map_append, List.map_cons, List.nodup_middle, List.nodup_cons, ← List.map_append] at apart
    have elsewhere : w ∈ front ++ back → w ∈ front ++ y :: back ∧ key x ≠ key w := by
      intro member
      refine ⟨by simp at member ⊢; tauto, fun same' => apart.1 ?_⟩
      rw [← same, same']
      exact List.mem_map_of_mem member
    rcases List.mem_append.1 member with member | member
    · exact .inr (elsewhere (List.mem_append_left _ member))
    · rcases List.mem_cons.1 member with rfl | member
      · exact .inl rfl
      · exact .inr (elsewhere (List.mem_append_right _ member))
  constructor
  · rw [keys]
    exact g.distinct
  · intro k
    rw [keys, g.keys, List.map_append, List.mem_append]
    constructor
    · exact .inl
    · rintro (member | member)
      · exact member
      · simp at member
        exact member ▸ known
  · intro w hw a ha key_eq
    rcases places w hw with rfl | ⟨hw, other⟩ <;> rcases List.mem_append.1 ha with ha | ha
    · rw [held]
      exact g.agree y here a ha (key_eq.trans kept)
    · rw [List.mem_singleton.1 ha, agree, held]
    · exact g.agree w hw a ha key_eq
    · rw [List.mem_singleton.1 ha] at key_eq
      exact absurd key_eq other
  · intro w hw
    rw [List.filter_append, List.flatMap_append]
    rcases places w hw with rfl | ⟨hw, other⟩
    · rw [both, kept, g.parts y here]
      simp [same]
    · simp [← g.parts w hw, other]

theorem Gathered.step {x : α} {given placed placed' : List α}
    (g : Gathered key attr parts given placed) (step : Joins key attr parts x placed placed') :
    Gathered key attr parts (given ++ [x]) placed' := by
  cases step with
  | fresh _ absent => exact g.fresh absent
  | joined _ _ same agree kept held both => exact g.joined same agree kept held both

/-- Under each key there are the parts that were given under it, and no others. -/
theorem Gathered.parts_under {given placed : List α} (g : Gathered key attr parts given placed) (k : κ) :
    (placed.filter fun w => key w = k).flatMap parts =
      (given.filter fun a => key a = k).flatMap parts := by
  rcases filter_key g.distinct k with none | ⟨w, member, rfl, one⟩
  · have absent : (given.filter fun a => key a = k) = [] := by
      rw [List.filter_eq_nil_iff] at none ⊢
      intro a there same
      have here : k ∈ given.map key := List.mem_map.2 ⟨a, there, by simpa using same⟩
      obtain ⟨w, hw, placed⟩ := List.mem_map.1 ((g.keys k).2 here)
      exact none w hw (by simpa using placed)
    rw [none, absent]
  · rw [one, List.flatMap_singleton, g.parts w member]

theorem Gathered.perm {given given' placed placed' : List α} (order : given.Perm given')
    (g : Gathered key attr parts given placed) (g' : Gathered key attr parts given' placed') :
    (∀ k, k ∈ placed.map key ↔ k ∈ placed'.map key) ∧
      ∀ w ∈ placed, ∀ w' ∈ placed', key w = key w' → attr w = attr w' ∧ (parts w).Perm (parts w') := by
  have keys : ∀ k, k ∈ placed.map key ↔ k ∈ placed'.map key := by
    intro k
    rw [g.keys, g'.keys]
    exact (order.map key).mem_iff
  refine ⟨keys, fun w hw w' hw' same => ⟨?_, ?_⟩⟩
  · obtain ⟨a, ha, here⟩ := List.mem_map.1 ((g.keys (key w)).1 (List.mem_map_of_mem hw))
    rw [← g.agree w hw a ha here, g'.agree w' hw' a (order.mem_iff.1 ha) (here.trans same)]
  · rw [g.parts w hw, g'.parts w' hw', same]
    exact (order.filter _).flatMap_right _

end Gathering

namespace Table

def foldedName (t : Table String) : String :=
  fold t.name

def given (contributions : List (String × List (Table String))) : List (Table String) :=
  (contributed contributions).map Prod.snd

end Table

namespace SlowSequence

theorem joins_place {α : Type} (s : SlowSequence α) (g : Grouping α) :
    Joins SlowSequence.id (fun _ => ()) lines s g.items (place s g).items := by
  rcases items_place s g with ⟨absent, placed⟩ | ⟨front, first, back, split, named, placed⟩
  · rw [placed]
    exact .fresh g.items absent
  · rw [placed, split]
    exact .joined front back named.symm rfl rfl rfl rfl

theorem gathered_group {α : Type} (given : List (SlowSequence α)) :
    Gathered SlowSequence.id (fun _ => ()) lines given (group given) := by
  have run : ∀ (later earlier : List (SlowSequence α)) (g : Grouping α),
      Gathered SlowSequence.id (fun _ => ()) lines earlier g.items →
      Gathered SlowSequence.id (fun _ => ()) lines (earlier ++ later)
        (later.foldl (fun g s => place s g) g).items := by
    intro later
    induction later with
    | nil => intro earlier g gathered; simpa using gathered
    | cons s rest ih =>
      intro earlier g gathered
      simpa using ih _ _ (gathered.step (joins_place s g))
  exact run given [] .empty gathered_nil

end SlowSequence

namespace Assembly

theorem mem_addFunction {functions : List String} {body f : String} :
    f ∈ addFunction functions body ↔ f ∈ functions ∨ f = body := by
  unfold addFunction
  split
  · rename_i known
    constructor
    · exact .inl
    · rintro (member | rfl)
      · exact member
      · simpa using known
  · simp

theorem mem_collectFunctions {contributions : List Contribution} {f : String} :
    f ∈ collectFunctions contributions ↔ ∃ c ∈ contributions, ∃ fs ∈ c.functions, f ∈ fs := by
  have run : ∀ (bodies functions : List String),
      f ∈ bodies.foldl addFunction functions ↔ f ∈ functions ∨ f ∈ bodies := by
    intro bodies
    induction bodies with
    | nil => simp
    | cons body rest ih =>
      intro functions
      rw [List.foldl_cons, ih, mem_addFunction, List.mem_cons, or_assoc]
  have given : ∀ c : Contribution, f ∈ c.functions.getD [] ↔ ∃ fs ∈ c.functions, f ∈ fs := by
    intro c
    cases c.functions <;> simp
  simp only [collectFunctions, run, List.not_mem_nil, false_or, List.mem_flatMap, given]

end Assembly

end Datalogger
