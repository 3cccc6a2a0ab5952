import Datalogger.Proofs.Wiring
import Mathlib.Data.List.Induction

/-!
What overrides do. They are made if every key is the role of exactly one wire, ignoring case, no role is
mentioned twice, and no connected wire is to be left open; then the wires that they name go to the
given terminals, all others stay, and making them again changes nothing. Otherwise the first key that
breaks a rule decides the error, and only the overrides before it were made.
-/

namespace Datalogger

open Text (fold)

abbrev Overrides := List (String × Option Terminal)

/-- A wire after overrides: a terminal that is given for its role is its own, and without one it stays
as it was. -/
structure Wire.Overridden (overrides : Overrides) (x y : Wire) : Prop where
  role : y.role = x.role
  description : y.description = x.description
  moved : ∀ o ∈ overrides, fold o.1 = fold x.role → ∀ t, o.2 = some t → y.terminal = some t
  kept : (∀ o ∈ overrides, fold o.1 = fold x.role → o.2 = none) → y.terminal = x.terminal

namespace Wiring

structure Overridden (w : Wiring) (overrides : Overrides) (w' : Wiring) : Prop where
  wires : List.Forall₂ (Wire.Overridden overrides) w.wires w'.wires
  note : w'.note = w.note

/-- The one wire with a role, ignoring case. -/
def Only (w : Wiring) (role : String) (wire : Wire) : Prop :=
  ∃ before after, w.wires = before ++ wire :: after ∧ fold wire.role = fold role ∧
    ∀ x ∈ before ++ after, fold x.role ≠ fold role

/-- Each key names one wire, no two keys name the same, and a key without a terminal names a wire that
has none. -/
structure Accepts (w : Wiring) (overrides : Overrides) : Prop where
  named : ∀ o ∈ overrides, ∃ wire, w.Only o.1 wire
  apart : overrides.Pairwise fun a b => fold a.1 ≠ fold b.1
  free : ∀ o ∈ overrides, o.2 = none → ∀ wire, w.Only o.1 wire → wire.terminal = none

inductive Offends (w : Wiring) (instrument : String) (earlier : Overrides) (role : String) :
    Option Terminal → Error → Prop
  | unknown (target : Option Terminal) (absent : ∀ x ∈ w.wires, fold x.role ≠ fold role) :
      Offends w instrument earlier role target (.wiringRoleNotFound role instrument)
  | ambiguous (target : Option Terminal) (before between after : List Wire) (a b : Wire)
      (split : w.wires = before ++ a :: (between ++ b :: after)) (first : fold a.role = fold role)
      (second : fold b.role = fold role) :
      Offends w instrument earlier role target (.ambiguousWiringRole role instrument)
  | repeated (target : Option Terminal) (wire : Wire) (only : w.Only role wire)
      (again : ∃ o ∈ earlier, fold o.1 = fold role) :
      Offends w instrument earlier role target (.ambiguousWiringRole wire.role instrument)
  | disconnected (wire : Wire) (only : w.Only role wire) (fresh : ∀ o ∈ earlier, fold o.1 ≠ fold role)
      (connected : wire.terminal ≠ none) :
      Offends w instrument earlier role none (.instrumentConfig instrument "wiring"
        ("role '" ++ wire.role ++ "' is connected and cannot be disconnected"))

/-- Overrides are made up to some point, and the next one is refused. -/
inductive Stops (w : Wiring) (instrument : String) (overrides : Overrides) : Error → Wiring → Prop
  | intro (earlier later : Overrides) (role : String) (target : Option Terminal) (e : Error)
      (w' : Wiring) (split : overrides = earlier ++ (role, target) :: later)
      (accepted : w.Accepts earlier) (offends : w.Offends instrument earlier role target e)
      (overridden : w.Overridden earlier w') : Stops w instrument overrides e w'

variable {w : Wiring} {role instrument : String} {wire : Wire}

theorem hasRole_iff {x : Wire} : x.hasRole role = true ↔ fold x.role = fold role :=
  Text.sameFolded_iff

theorem only_iff : w.Only role wire ↔ w.wires.filter (Wire.hasRole role) = [wire] := by
  rw [List.filter_eq_cons_iff]
  constructor
  · rintro ⟨before, after, split, same, others⟩
    refine ⟨before, after, split, ?_, hasRole_iff.2 same, List.filter_eq_nil_iff.2 ?_⟩
    · intro x member has
      exact others x (List.mem_append_left after member) (hasRole_iff.1 has)
    · intro x member has
      exact others x (List.mem_append_right before member) (hasRole_iff.1 has)
  · rintro ⟨before, after, split, front, has, back⟩
    refine ⟨before, after, split, hasRole_iff.1 has, fun x member same => ?_⟩
    rcases List.mem_append.1 member with member | member
    · exact front x member (hasRole_iff.2 same)
    · exact List.filter_eq_nil_iff.1 back x member (hasRole_iff.2 same)

theorem find_of_only (only : w.Only role wire) : w.find role instrument = .ok wire :=
  find_eq_ok_iff.2 (only_iff.1 only)

theorem find_of_absent (absent : ∀ x ∈ w.wires, fold x.role ≠ fold role) :
    w.find role instrument = .error (.wiringRoleNotFound role instrument) := by
  have none : w.wires.filter (Wire.hasRole role) = [] :=
    List.filter_eq_nil_iff.2 fun x member has => absent x member (hasRole_iff.1 has)
  rw [find, none]

theorem find_of_two {before between after : List Wire} {a b : Wire}
    (split : w.wires = before ++ a :: (between ++ b :: after)) (first : fold a.role = fold role)
    (second : fold b.role = fold role) :
    w.find role instrument = .error (.ambiguousWiringRole role instrument) := by
  have two : 2 ≤ (w.wires.filter (Wire.hasRole role)).length := by
    rw [split, List.filter_append, List.filter_cons_of_pos (hasRole_iff.2 first), List.filter_append,
      List.filter_cons_of_pos (hasRole_iff.2 second)]
    simp only [List.length_append, List.length_cons]
    omega
  unfold find
  generalize w.wires.filter (Wire.hasRole role) = found at two
  match found with
  | [] | [_] => simp at two
  | _ :: _ :: _ => rfl

theorem only_or_not (w : Wiring) (role : String) :
    (∃ wire, w.Only role wire) ∨ (∀ x ∈ w.wires, fold x.role ≠ fold role) ∨
      ∃ before a between b after, w.wires = before ++ a :: (between ++ b :: after) ∧
        fold a.role = fold role ∧ fold b.role = fold role := by
  cases found : w.wires.filter (Wire.hasRole role) with
  | nil =>
    refine .inr (.inl fun x member same => ?_)
    exact List.filter_eq_nil_iff.1 found x member (hasRole_iff.2 same)
  | cons a rest =>
    cases rest with
    | nil => exact .inl ⟨a, only_iff.2 found⟩
    | cons b rest =>
      obtain ⟨before, behind, split, _, first, found⟩ := List.filter_eq_cons_iff.1 found
      obtain ⟨between, after, split', _, second, _⟩ := List.filter_eq_cons_iff.1 found
      exact .inr (.inr ⟨before, a, between, b, after, by rw [split, split'], hasRole_iff.1 first,
        hasRole_iff.1 second⟩)

theorem terminal_eq_ok_iff {t : Terminal} :
    w.terminal role instrument = .ok t ↔ ∃ wire, w.Only role wire ∧ wire.terminal = some t := by
  rw [terminal]
  constructor
  · intro given
    split at given
    · cases given
    · rename_i wire found
      split at given
      · rename_i t' there
        cases given
        exact ⟨wire, only_iff.2 (find_eq_ok_iff.1 found), there⟩
      · cases given
  · rintro ⟨wire, only, there⟩
    simp [find_of_only only, there]

end Wiring

namespace Wire

def target? (overrides : Overrides) (x : Wire) : Option Terminal :=
  overrides.findSome? fun o => if fold o.1 = fold x.role then o.2 else none

def after (overrides : Overrides) (x : Wire) : Wire :=
  { x with terminal := (x.target? overrides).or x.terminal }

variable {overrides : Overrides} {x y : Wire}

theorem target?_of_fresh (fresh : ∀ o ∈ overrides, fold o.1 ≠ fold x.role) :
    x.target? overrides = none := by
  rw [target?, List.findSome?_eq_none_iff]
  intro o member
  rw [if_neg (fresh o member)]

theorem after_of_fresh (fresh : ∀ o ∈ overrides, fold o.1 ≠ fold x.role) : x.after overrides = x := by
  rw [after, target?_of_fresh fresh, Option.none_or]

theorem after_concat (x : Wire) (overrides : Overrides) (role : String) (target : Option Terminal) :
    x.after (overrides ++ [(role, target)]) =
      { x with
        terminal := ((x.target? overrides).or (if fold role = fold x.role then target else none)).or
          x.terminal } := by
  rw [after, target?, List.findSome?_append, List.findSome?_singleton]
  rfl

theorem target?_of_mem (apart : overrides.Pairwise fun a b => fold a.1 ≠ fold b.1)
    {o : String × Option Terminal} (member : o ∈ overrides) (same : fold o.1 = fold x.role) :
    x.target? overrides = o.2 := by
  obtain ⟨before, behind, rfl⟩ := List.append_of_mem member
  rw [List.pairwise_append, List.pairwise_cons] at apart
  obtain ⟨_, ⟨later, _⟩, earlier⟩ := apart
  have front : x.target? before = none := target?_of_fresh fun p there equal =>
    earlier p there o List.mem_cons_self (equal.trans same.symm)
  have back : x.target? behind = none := target?_of_fresh fun p there equal =>
    later p there (same.trans equal.symm)
  rw [target?] at front back ⊢
  rw [List.findSome?_append, front, List.findSome?_cons, if_pos same, back]
  cases o.2 <;> rfl

theorem overridden_iff (apart : overrides.Pairwise fun a b => fold a.1 ≠ fold b.1) :
    x.Overridden overrides y ↔ y = x.after overrides := by
  constructor
  · rintro ⟨role, description, moved, kept⟩
    have terminal : y.terminal = (x.target? overrides).or x.terminal := by
      cases given : x.target? overrides with
      | some t =>
        obtain ⟨o, member, hit⟩ := List.exists_of_findSome?_eq_some given
        split at hit
        · rename_i same
          exact moved o member same t hit
        · cases hit
      | none =>
        rw [Option.none_or]
        refine kept fun o member same => ?_
        rw [← target?_of_mem apart member same, given]
    cases x
    cases y
    simp_all [after]
  · rintro rfl
    refine ⟨rfl, rfl, fun o member same t given => ?_, fun open_ => ?_⟩
    · rw [after, target?_of_mem apart member same, given, Option.some_or]
    · have none : x.target? overrides = none := by
        rw [target?, List.findSome?_eq_none_iff]
        intro o member
        split
        · rename_i same
          exact open_ o member same
        · rfl
      rw [after, none, Option.none_or]

theorem after_after (x : Wire) (overrides : Overrides) :
    (x.after overrides).after overrides = x.after overrides := by
  have same : (x.after overrides).target? overrides = x.target? overrides := rfl
  rw [after, same, after]
  cases x.target? overrides <;> rfl

end Wire

namespace Wiring

def after (w : Wiring) (overrides : Overrides) : Wiring :=
  { w with wires := w.wires.map (Wire.after overrides) }

variable {w w' : Wiring} {role instrument : String} {wire : Wire} {overrides : Overrides}

theorem overridden_iff (apart : overrides.Pairwise fun a b => fold a.1 ≠ fold b.1) :
    w.Overridden overrides w' ↔ w' = w.after overrides := by
  have each : ∀ x y, Wire.Overridden overrides x y ↔ y = x.after overrides := fun x y =>
    Wire.overridden_iff apart
  constructor
  · rintro ⟨wires, note⟩
    have reached : List.Forall₂ (· = ·) (w.wires.map (Wire.after overrides)) w'.wires :=
      List.forall₂_map_left_iff.2 (wires.imp fun x y moved => ((each x y).1 moved).symm)
    rw [List.forall₂_eq_eq_eq] at reached
    cases w'
    simp_all [after]
  · rintro rfl
    refine ⟨?_, rfl⟩
    rw [after, List.forall₂_map_right_iff, List.forall₂_same]
    exact fun x _ => (each x _).2 rfl

theorem filter_after (w : Wiring) (overrides : Overrides) (role : String) :
    (w.after overrides).wires.filter (Wire.hasRole role) =
      (w.wires.filter (Wire.hasRole role)).map (Wire.after overrides) := by
  rw [after, List.filter_map]
  rfl

theorem only_after (only : w.Only role wire) (overrides : Overrides) :
    (w.after overrides).Only role (wire.after overrides) := by
  rw [only_iff, filter_after, only_iff.1 only, List.map_singleton]

theorem exists_of_only_after (only : (w.after overrides).Only role wire) :
    ∃ x, w.Only role x ∧ wire = x.after overrides := by
  rw [only_iff, filter_after, List.map_eq_singleton_iff] at only
  obtain ⟨x, found, same⟩ := only
  exact ⟨x, only_iff.2 found, same.symm⟩

theorem Only.role_eq (only : w.Only role wire) : fold wire.role = fold role := by
  obtain ⟨_, _, _, same, _⟩ := only
  exact same

theorem Accepts.concat (accepted : w.Accepts overrides) {target : Option Terminal}
    (only : w.Only role wire) (fresh : ∀ o ∈ overrides, fold o.1 ≠ fold role)
    (free : target = none → wire.terminal = none) : w.Accepts (overrides ++ [(role, target)]) := by
  constructor
  · intro o member
    rcases List.mem_append.1 member with member | last
    · exact accepted.named o member
    · rw [List.mem_singleton.1 last]
      exact ⟨wire, only⟩
  · refine List.pairwise_append.2 ⟨accepted.apart, List.pairwise_singleton _ _, fun o member p last => ?_⟩
    rw [List.mem_singleton.1 last]
    exact fresh o member
  · intro o member open_ x named
    rcases List.mem_append.1 member with member | last
    · exact accepted.free o member open_ x named
    · rw [List.mem_singleton.1 last] at open_ named
      have same : [x] = [wire] := (only_iff.1 named).symm.trans (only_iff.1 only)
      cases same
      exact free open_

theorem accepts_or_offends (w : Wiring) (instrument : String) (overrides : Overrides) :
    w.Accepts overrides ∨ ∃ earlier later role target e, overrides = earlier ++ (role, target) :: later ∧
      w.Accepts earlier ∧ w.Offends instrument earlier role target e := by
  induction overrides using List.reverseRecOn with
  | nil => exact .inl ⟨by simp, .nil, by simp⟩
  | append_singleton overrides o ih =>
    obtain ⟨role, target⟩ := o
    rcases ih with accepted | ⟨earlier, later, role', target', e, rfl, accepted, offends⟩
    · have stop : ∀ e, w.Offends instrument overrides role target e →
          ∃ earlier later role' target' e, overrides ++ [(role, target)] =
            earlier ++ (role', target') :: later ∧ w.Accepts earlier ∧
              w.Offends instrument earlier role' target' e := fun e offends =>
        ⟨overrides, [], role, target, e, rfl, accepted, offends⟩
      rcases w.only_or_not role with ⟨wire, only⟩ | absent | ⟨before, a, between, b, behind, two⟩
      · by_cases again : ∃ o ∈ overrides, fold o.1 = fold role
        · exact .inr (stop _ (.repeated target wire only again))
        · have fresh : ∀ o ∈ overrides, fold o.1 ≠ fold role := fun o member same =>
            again ⟨o, member, same⟩
          by_cases free : target = none → wire.terminal = none
          · exact .inl (accepted.concat only fresh free)
          · rw [Classical.not_imp] at free
            obtain ⟨rfl, connected⟩ := free
            exact .inr (stop _ (.disconnected wire only fresh connected))
      · exact .inr (stop _ (.unknown target absent))
      · exact .inr (stop _ (.ambiguous target before between behind a b two.1 two.2.1 two.2.2))
    · exact .inr ⟨earlier, later ++ [(role, target)], role', target', e, by simp, accepted, offends⟩

/-- The roles that were mentioned before, as a run keeps them. -/
def assignedBy (overrides : Overrides) : List String :=
  (overrides.map fun o => fold o.1).reverse

theorem find_after (w : Wiring) (overrides : Overrides) (role instrument : String) :
    (w.after overrides).find role instrument =
      (w.find role instrument).map (Wire.after overrides) := by
  unfold find
  rw [filter_after]
  generalize w.wires.filter (Wire.hasRole role) = found
  match found with
  | [] | [_] | _ :: _ :: _ => rfl

theorem contains_assignedBy : (assignedBy overrides).contains (fold role) = true ↔
    ∃ o ∈ overrides, fold o.1 = fold role := by
  simp [assignedBy]

theorem contains_assignedBy_of_fresh (fresh : ∀ o ∈ overrides, fold o.1 ≠ fold role) :
    (assignedBy overrides).contains (fold role) = false := by
  rw [← Bool.not_eq_true, contains_assignedBy]
  rintro ⟨o, member, same⟩
  exact fresh o member same

/-- Connecting a role that no override named is one more override. -/
theorem connect_after (fresh : ∀ o ∈ overrides, fold o.1 ≠ fold role) (t : Terminal) :
    (w.after overrides).connect role t = w.after (overrides ++ [(role, some t)]) := by
  have each : ∀ x : Wire, (if (x.after overrides).hasRole role = true
      then { x.after overrides with terminal := some t } else x.after overrides) =
        x.after (overrides ++ [(role, some t)]) := by
    intro x
    by_cases has : fold role = fold x.role
    · have none : x.target? overrides = none := Wire.target?_of_fresh fun o member same =>
        fresh o member (same.trans has.symm)
      have hit : (x.after overrides).hasRole role = true := hasRole_iff.2 has.symm
      rw [if_pos hit, Wire.after_concat, none, if_pos has]
      rfl
    · have miss : ¬ (x.after overrides).hasRole role = true := fun hit => has (hasRole_iff.1 hit).symm
      rw [if_neg miss, Wire.after_concat, if_neg has, Option.or_none]
      rfl
  rw [connect, after, List.map_map, after]
  exact congrArg (Wiring.mk · w.note) (List.map_congr_left fun x _ => each x)

theorem after_concat_none (w : Wiring) (overrides : Overrides) (role : String) :
    w.after (overrides ++ [(role, none)]) = w.after overrides := by
  have each : ∀ x : Wire, x.after (overrides ++ [(role, none)]) = x.after overrides := by
    intro x
    rw [Wire.after_concat, ite_self, Option.or_none]
    rfl
  rw [after, after]
  exact congrArg (Wiring.mk · w.note) (List.map_congr_left fun x _ => each x)

theorem override_some {assigned : List String} (found : w.find role instrument = .ok wire)
    (fresh : assigned.contains (fold role) = false) (t : Terminal) :
    w.override instrument assigned role (some t) = .ok (w.connect role t) := by
  simp only [override, found, fresh, Bool.false_eq_true, if_false]

theorem override_none {assigned : List String} (found : w.find role instrument = .ok wire)
    (fresh : assigned.contains (fold role) = false) (open_ : wire.terminal = none) :
    w.override instrument assigned role none = .ok w := by
  simp only [override, found, fresh, open_, Option.isSome_none, Bool.false_eq_true, if_false]

theorem override_after {target : Option Terminal} (only : w.Only role wire)
    (fresh : ∀ o ∈ overrides, fold o.1 ≠ fold role) (free : target = none → wire.terminal = none) :
    (w.after overrides).override instrument (assignedBy overrides) role target =
      .ok (w.after (overrides ++ [(role, target)])) := by
  have same : wire.after overrides = wire := Wire.after_of_fresh fun o member equal =>
    fresh o member (equal.trans only.role_eq)
  have found := @find_of_only _ _ instrument _ (only_after only overrides)
  have unmentioned := contains_assignedBy_of_fresh fresh
  rw [same] at found
  cases target with
  | some t => rw [override_some found unmentioned, connect_after fresh]
  | none => rw [override_none found unmentioned (free rfl), after_concat_none]

theorem override_of_offends {target : Option Terminal} {e : Error}
    (offends : w.Offends instrument overrides role target e) :
    (w.after overrides).override instrument (assignedBy overrides) role target = .error e := by
  rw [override, find_after]
  cases offends with
  | unknown target absent => rw [find_of_absent absent]; rfl
  | ambiguous target before between behind a b split first second =>
    rw [find_of_two split first second]
    rfl
  | repeated target wire only again =>
    rw [find_of_only only]
    exact if_pos (contains_assignedBy.2 again)
  | disconnected wire only fresh connected =>
    have same : wire.after overrides = wire := Wire.after_of_fresh fun o member equal =>
      fresh o member (equal.trans only.role_eq)
    have unmentioned : ¬ (assignedBy overrides).contains (fold role) = true := by
      simp only [contains_assignedBy_of_fresh fresh, Bool.false_eq_true, not_false_eq_true]
    rw [find_of_only only, Except.map, same]
    exact (if_neg unmentioned).trans (if_pos (Option.isSome_iff_ne_none.2 connected))

theorem overrideEach_cons {assigned : List String} {target : Option Terminal}
    (made : w.override instrument assigned role target = .ok w') (rest : Overrides) :
    overrideEach instrument ((role, target) :: rest) assigned w =
      overrideEach instrument rest (fold role :: assigned) w' := by
  rw [overrideEach, made]

theorem overrideEach_append {done more : Overrides} (accepted : w.Accepts (done ++ more))
    (rest : Overrides) :
    overrideEach instrument (more ++ rest) (assignedBy done) (w.after done) =
      overrideEach instrument rest (assignedBy (done ++ more)) (w.after (done ++ more)) := by
  induction more generalizing done with
  | nil => simp
  | cons o more ih =>
    obtain ⟨role, target⟩ := o
    have regroup : done ++ (role, target) :: more = (done ++ [(role, target)]) ++ more := by simp
    have member : (role, target) ∈ done ++ (role, target) :: more := by simp
    obtain ⟨wire, only⟩ := accepted.named _ member
    have fresh : ∀ o ∈ done, fold o.1 ≠ fold role := fun o there =>
      (List.pairwise_append.1 accepted.apart).2.2 o there _ List.mem_cons_self
    have noted : fold role :: assignedBy done = assignedBy (done ++ [(role, target)]) := by
      simp [assignedBy]
    rw [List.cons_append,
      overrideEach_cons (override_after only fresh fun open_ => accepted.free _ member open_ wire only)]
    rw [regroup] at accepted ⊢
    exact noted ▸ ih accepted

theorem after_nil (w : Wiring) : w.after [] = w := by
  have each : ∀ x ∈ w.wires, x.after [] = x := fun x _ => Wire.after_of_fresh (by simp)
  rw [after, List.map_congr_left each, List.map_id']

theorem overrideEach_front {front : Overrides} (accepted : w.Accepts front) (rest : Overrides) :
    overrideEach instrument (front ++ rest) [] w =
      overrideEach instrument rest (assignedBy front) (w.after front) := by
  have run := @overrideEach_append w instrument [] front accepted rest
  rwa [after_nil] at run

theorem overrideEach_of_accepts (accepted : w.Accepts overrides) :
    overrideEach instrument overrides [] w = (w.after overrides, none) := by
  have run := @overrideEach_front w instrument overrides accepted []
  rwa [List.append_nil, overrideEach] at run

theorem overrideEach_of_offends {earlier later : Overrides} {target : Option Terminal} {e : Error}
    (accepted : w.Accepts earlier) (offends : w.Offends instrument earlier role target e) :
    overrideEach instrument (earlier ++ (role, target) :: later) [] w =
      (w.after earlier, some e) := by
  rw [overrideEach_front accepted, overrideEach, override_of_offends offends]

theorem Accepts.overridden (accepted : w.Accepts overrides) :
    w.Overridden overrides (w.after overrides) :=
  (overridden_iff accepted.apart).2 rfl

/-- What can be overridden once can be overridden again. -/
theorem Accepts.again (accepted : w.Accepts overrides) : (w.after overrides).Accepts overrides where
  named o member := by
    obtain ⟨wire, only⟩ := accepted.named o member
    exact ⟨_, only_after only overrides⟩
  apart := accepted.apart
  free o member open_ wire only := by
    obtain ⟨x, before, rfl⟩ := exists_of_only_after only
    have none := Wire.target?_of_mem accepted.apart member before.role_eq.symm
    rw [Wire.after, none, open_, Option.none_or]
    exact accepted.free o member open_ x before

theorem after_after (w : Wiring) (overrides : Overrides) :
    (w.after overrides).after overrides = w.after overrides := by
  rw [after, after, List.map_map]
  exact congrArg (Wiring.mk · w.note) (List.map_congr_left fun x _ => Wire.after_after x overrides)

theorem Stops.eq_overrideEach {e : Error} (stops : w.Stops instrument overrides e w') :
    overrideEach instrument overrides [] w = (w', some e) := by
  cases stops with
  | intro earlier later role target e w' split accepted offends overridden =>
    rw [split, overrideEach_of_offends accepted offends, (overridden_iff accepted.apart).1 overridden]

theorem accepts_or_stops (w : Wiring) (instrument : String) (overrides : Overrides) :
    w.Accepts overrides ∨ ∃ e w', w.Stops instrument overrides e w' := by
  rcases w.accepts_or_offends instrument overrides with
    accepted | ⟨earlier, later, role, target, e, split, accepted, offends⟩
  · exact .inl accepted
  · exact .inr ⟨e, _, .intro earlier later role target e _ split accepted offends accepted.overridden⟩

variable {overrides : Dict (Option Terminal)} {e : Error}

theorem applyOverrides_eq_none_iff : w.applyOverrides overrides instrument = (w', none) ↔
    w.Accepts overrides.entries ∧ w' = w.after overrides.entries := by
  rw [applyOverrides]
  rcases w.accepts_or_stops instrument overrides.entries with accepted | ⟨e, w'', stops⟩
  · simp [overrideEach_of_accepts accepted, accepted, eq_comm]
  · refine iff_of_false (by simp [stops.eq_overrideEach]) fun ⟨accepted, _⟩ => ?_
    have both := (overrideEach_of_accepts accepted).symm.trans stops.eq_overrideEach
    cases both

theorem applyOverrides_eq_some_iff : w.applyOverrides overrides instrument = (w', some e) ↔
    w.Stops instrument overrides.entries e w' := by
  refine ⟨fun failed => ?_, Stops.eq_overrideEach⟩
  rcases w.accepts_or_stops instrument overrides.entries with accepted | ⟨e', w'', stops⟩
  · rw [applyOverrides, overrideEach_of_accepts accepted] at failed
    cases failed
  · rw [applyOverrides, stops.eq_overrideEach] at failed
    cases failed
    exact stops

theorem exists_overridden_iff (instrument : String) :
    (∃ w', w.overridden overrides instrument = .ok w') ↔ w.Accepts overrides.entries := by
  simp only [overridden_eq_ok_iff, applyOverrides_eq_none_iff, exists_and_left, exists_eq, and_true]

theorem movedTo_after (w : Wiring) (overrides : Overrides) : w.MovedTo (w.after overrides) := by
  refine ⟨?_, rfl⟩
  rw [after, List.forall₂_map_right_iff, List.forall₂_same]
  exact fun x _ => ⟨rfl, rfl, fun goes => by simp [Wire.after, goes]⟩

/-- Whether they are all made or not, overrides only move wires. -/
theorem movedTo_applyOverrides (w : Wiring) (overrides : Dict (Option Terminal)) (instrument : String) :
    w.MovedTo (w.applyOverrides overrides instrument).1 := by
  obtain ⟨w', stopped⟩ : ∃ w', w' = w.applyOverrides overrides instrument := ⟨_, rfl⟩
  obtain ⟨w', _ | e⟩ := w'
  · obtain ⟨_, rfl⟩ := applyOverrides_eq_none_iff.1 stopped.symm
    exact stopped ▸ movedTo_after w _
  · cases applyOverrides_eq_some_iff.1 stopped.symm with
    | intro earlier _ _ _ _ _ _ accepted _ overridden =>
      rw [← stopped, (overridden_iff accepted.apart).1 overridden]
      exact movedTo_after w earlier

theorem movedTo_overridden (made : w.overridden overrides instrument = .ok w') : w.MovedTo w' := by
  have moved := w.movedTo_applyOverrides overrides instrument
  rwa [overridden_eq_ok_iff.1 made] at moved

theorem Offends.refusedFor {earlier : Overrides} {target : Option Terminal}
    (offends : w.Offends instrument earlier role target e) : RefusedFor instrument e := by
  cases offends with
  | unknown => exact .notFound role
  | ambiguous => exact .ambiguous role
  | repeated => exact .ambiguous _
  | disconnected => exact .config _ _

theorem refusedFor_of_overridden (failed : w.overridden overrides instrument = .error e) :
    RefusedFor instrument e := by
  unfold overridden at failed
  split at failed
  · cases failed
  · rename_i stopped
    cases failed
    cases applyOverrides_eq_some_iff.1 stopped with
    | intro _ _ _ _ _ _ _ _ offends _ => exact offends.refusedFor

end Wiring

open Wiring in
/-- Overrides that are accepted take their wires to the given terminals and could be made again; others
stop at the first that is refused. Neither changes anything but terminals, and no wire loses one. -/
theorem overrides_outcome (w : Wiring) (overrides : Dict (Option Terminal)) (instrument : String) :
    ((∃ w', w.applyOverrides overrides instrument = (w', none)) ↔ w.Accepts overrides.entries) ∧
    (∀ w', w.applyOverrides overrides instrument = (w', none) →
      w.Overridden overrides.entries w' ∧ w'.applyOverrides overrides instrument = (w', none)) ∧
    (∀ w' e, w.applyOverrides overrides instrument = (w', some e) ↔
      w.Stops instrument overrides.entries e w') ∧
    w.MovedTo (w.applyOverrides overrides instrument).1 ∧
    ∀ role t, (w.applyOverrides overrides instrument).1.terminal role instrument = .ok t ↔
      ∃ wire, (w.applyOverrides overrides instrument).1.Only role wire ∧ wire.terminal = some t := by
  refine ⟨?_, ?_, fun w' e => applyOverrides_eq_some_iff, movedTo_applyOverrides w overrides instrument,
    fun role t => terminal_eq_ok_iff⟩
  · simp only [applyOverrides_eq_none_iff, exists_and_left, exists_eq, and_true]
  · intro w' made
    obtain ⟨accepted, rfl⟩ := applyOverrides_eq_none_iff.1 made
    refine ⟨accepted.overridden, applyOverrides_eq_none_iff.2 ⟨accepted.again, ?_⟩⟩
    rw [Wiring.after_after]

/-! A wind monitor whose signal is moved and whose shield stays as it is. -/

namespace WiringOverrides

def monitor (signal : Nat) : Wiring :=
  .ofWires [.connected "Green" (.channel .singleEnded signal) "WD Signal",
    .unconnected "Shield" "not used"]

def moves : Dict (Option Terminal) :=
  .ofList [("shield", none), ("green", some (.channel .singleEnded 3))]

end WiringOverrides

open Wiring WiringOverrides in
theorem monitor_overridden :
    (monitor 7).applyOverrides moves "wind" = (monitor 3, none) ∧
      (monitor 7).Overridden moves.entries (monitor 3) ∧
      (monitor 3).applyOverrides moves "wind" = (monitor 3, none) := by
  have entries : moves.entries = [("green", some (.channel .singleEnded 3)), ("shield", none)] := by
    decide +kernel
  have names : fold "Green" = "green" ∧ fold "green" = "green" ∧ fold "Shield" = "shield" ∧
      fold "shield" = "shield" := by decide +kernel
  have signal : (monitor 7).find "green" "wind" =
      .ok (.connected "Green" (.channel .singleEnded 7) "WD Signal") :=
    find_eq_ok_iff.2 (by simp [monitor, ofWires, Wire.connected, Wire.unconnected, Wire.hasRole,
      Text.sameFolded, names])
  have moved : (monitor 7).connect "green" (.channel .singleEnded 3) = monitor 3 := by
    simp [monitor, ofWires, Wire.connected, Wire.unconnected, Wire.hasRole, Text.sameFolded, names,
      connect]
  have shield : (monitor 3).find "shield" "wind" = .ok (.unconnected "Shield" "not used") :=
    find_eq_ok_iff.2 (by simp [monitor, ofWires, Wire.connected, Wire.unconnected, Wire.hasRole,
      Text.sameFolded, names])
  have made : (monitor 7).applyOverrides moves "wind" = (monitor 3, none) := by
    have fresh : [fold "green"].contains (fold "shield") = false := by simp [names]
    rw [applyOverrides, entries, overrideEach_cons (override_some signal rfl _), moved,
      overrideEach_cons (override_none shield fresh rfl), overrideEach]
  exact ⟨made, (overrides_outcome (monitor 7) moves "wind").2.1 _ made⟩

end Datalogger
