import Datalogger.Proofs.Statement.Nesting

/-!
Passages: consecutive lines of a program that open and close their blocks themselves. They can be put
one behind the other, and statements whose lines are plain make one at any depth.
-/

namespace Datalogger

open Text (OneLine joinLines indent)

structure Passage (P : String → Prop) (depth : Nat) (ls : List String) : Prop where
  oneLine : ∀ l ∈ ls, OneLine l
  balanced : Balanced depth ls
  every : ∀ l ∈ ls, P l

structure Routine (ls : List String) : Prop extends Passage Ordinary 0 ls where
  nonempty : ls ≠ []

theorem ordinary_empty : Ordinary "" := by
  intro k member front
  simp only [structural, List.mem_cons, List.not_mem_nil, or_false] at member
  rcases member with rfl | rfl | rfl | rfl <;> simp [content] at front

@[simp] theorem atDepth_zero (t : String) : Statement.atDepth 0 t = t := by
  simp [Statement.atDepth, Text.margin]

namespace Passage

variable {P Q : String → Prop} {depth : Nat}

theorem nil : Passage P depth [] :=
  ⟨by simp, .nil depth, by simp⟩

theorem append {a b : List String} (ha : Passage P depth a) (hb : Passage P depth b) :
    Passage P depth (a ++ b) := by
  refine ⟨?_, ha.balanced.append hb.balanced, ?_⟩
  · exact List.forall_mem_append.2 ⟨ha.oneLine, hb.oneLine⟩
  · exact List.forall_mem_append.2 ⟨ha.every, hb.every⟩

theorem flatMap {α : Type} {xs : List α} {f : α → List String}
    (each : ∀ x ∈ xs, Passage P depth (f x)) : Passage P depth (xs.flatMap f) := by
  induction xs with
  | nil => exact nil
  | cons x xs ih =>
    have first := each x List.mem_cons_self
    exact first.append (ih fun y member => each y (List.mem_cons_of_mem x member))

theorem imp {ls : List String} (h : Passage P depth ls) (weaker : ∀ l, P l → Q l) :
    Passage Q depth ls :=
  ⟨h.oneLine, h.balanced, fun l member => weaker l (h.every l member)⟩

theorem blank (empty : P "") : Passage P depth [""] :=
  ⟨by simpa using Text.oneLine_empty, .blank depth, by simpa using empty⟩

theorem level {ts : List String} (one : ∀ t ∈ ts, OneLine t) (visible : ∀ t ∈ ts, StartsVisibly t)
    (plain : ∀ t ∈ ts, role t.toList = .plain)
    (every : ∀ t ∈ ts, P (Statement.atDepth depth t)) :
    Passage P depth (ts.map (Statement.atDepth depth)) := by
  refine ⟨?_, .of_forall ?_, List.forall_mem_map.2 every⟩
  · intro l member
    obtain ⟨t, ht, rfl⟩ := List.mem_map.1 member
    exact Text.oneLine_append.2 ⟨Text.oneLine_margin depth, one t ht⟩
  · intro l member stack deep
    obtain ⟨t, ht, rfl⟩ := List.mem_map.1 member
    exact readLine_plain (visible t ht) (plain t ht) deep

theorem plain {ts : List String} (each : ∀ t ∈ ts, PlainText t) :
    Passage Ordinary depth (ts.map (Statement.atDepth depth)) :=
  .level (fun t ht => (each t ht).oneLine) (fun t ht => (each t ht).visible)
    (fun t ht => (each t ht).role_eq) fun t ht => (each t ht).ordinaryText.ordinary depth

theorem block {head last : String} {b : Block} {body : List String}
    (startsHead : StartsVisibly head) (opens : role head.toList = .opens b)
    (startsLast : StartsVisibly last) (closes : role last.toList = .closes b)
    (oneHead : OneLine head) (oneLast : OneLine last)
    (atHead : P (Statement.atDepth depth head)) (atLast : P (Statement.atDepth depth last))
    (inner : Passage P (depth + 1) body) :
    Passage P depth
      (Statement.atDepth depth head :: body ++ [Statement.atDepth depth last]) := by
  have margin : ∀ {t}, OneLine t → OneLine (Statement.atDepth depth t) := fun h =>
    Text.oneLine_append.2 ⟨Text.oneLine_margin depth, h⟩
  refine ⟨?_, .block startsHead opens startsLast closes (inner.balanced.inside b), ?_⟩
  · intro l member
    simp only [List.mem_append, List.mem_cons, List.not_mem_nil, or_false] at member
    rcases member with (rfl | member) | rfl
    · exact margin oneHead
    · exact inner.oneLine l member
    · exact margin oneLast
  · intro l member
    simp only [List.mem_append, List.mem_cons, List.not_mem_nil, or_false] at member
    rcases member with (rfl | member) | rfl
    · exact atHead
    · exact inner.every l member
    · exact atLast

theorem statements {body : List (Statement String)}
    (h : Statement.EveryIn PlainText OneLine Word body) :
    Passage Ordinary depth (Statement.bodyLinesAt depth body) where
  oneLine := by
    have every := h.imp (fun _ plain => plain.lineText) (fun _ part => part) fun _ name =>
      name.oneLine
    intro l member
    exact (Statement.lineText_of_mem_bodyLinesAt every member).oneLine
  balanced := Statement.balanced_bodyLinesAt h
  every _ member := ordinary_of_mem_bodyLinesAt h member

end Passage

theorem routine_of_plain {ls : List String} (ne : ls ≠ []) (each : ∀ l ∈ ls, PlainText l) :
    Routine ls := by
  have same : ls.map (Statement.atDepth 0) = ls :=
    (List.map_congr_left fun t _ => atDepth_zero t).trans (List.map_id' ls)
  have whole : Passage Ordinary 0 (ls.map (Statement.atDepth 0)) := .plain each
  exact ⟨same ▸ whole, ne⟩

end Datalogger
