import Datalogger.Data.Dict

/-!
Lists with an index: the position of the first element of every key, so that elements are added and
changed without a search. What the index says is what a search would find.
-/

namespace Datalogger

structure IndexedList (α : Type) (key : α → String) where
  items : List α
  index : Dict Nat
  inStep : ∀ k, index.get? k = items.findIdx? fun x => key x = k

namespace IndexedList

variable {α : Type} {key : α → String}

def empty : IndexedList α key := ⟨[], .empty, fun _ => rfl⟩

def append (l : IndexedList α key) (x : α) (fresh : l.index.get? (key x) = none) :
    IndexedList α key where
  items := l.items ++ [x]
  index := l.index.insert (key x) l.items.length
  inStep k := by
    rw [Dict.get?_insert, List.findIdx?_append, ← l.inStep]
    by_cases same : k = key x
    · simp [same, fresh]
    · simp [same, Ne.symm same]

theorem map_key_modify {f : α → α} (kept : ∀ x, key (f x) = key x) (items : List α) (i : Nat) :
    (items.modify i f).map key = items.map key := by
  induction items generalizing i with
  | nil => cases i <;> rfl
  | cons x rest ih => cases i <;> simp [kept, ih]

def modify (l : IndexedList α key) (i : Nat) (f : α → α) (kept : ∀ x, key (f x) = key x) :
    IndexedList α key where
  items := l.items.modify i f
  index := l.index
  inStep k := by
    have byKeys : ∀ items : List α,
        (items.findIdx? fun x => key x = k) = (items.map key).findIdx? fun x => x = k := by
      intro items
      rw [List.findIdx?_map]
      rfl
    rw [l.inStep, byKeys, byKeys, map_key_modify kept]

theorem get?_eq_none_iff {l : IndexedList α key} {k : String} :
    l.index.get? k = none ↔ ∀ x ∈ l.items, key x ≠ k := by
  simp [l.inStep]

theorem lt_of_get? {l : IndexedList α key} {k : String} {i : Nat} (found : l.index.get? k = some i) :
    i < l.items.length := by
  rw [l.inStep] at found
  exact (List.findIdx?_eq_some_iff_findIdx_eq.1 found).1

def element (l : IndexedList α key) {k : String} {i : Nat} (found : l.index.get? k = some i) : α :=
  l.items.get ⟨i, lt_of_get? found⟩

/-- It is the first of its key, and what is changed at its position is this element alone. -/
theorem exists_split {l : IndexedList α key} {k : String} {i : Nat} (found : l.index.get? k = some i) :
    ∃ before after, l.items = before ++ l.element found :: after ∧ key (l.element found) = k ∧
      (∀ x ∈ before, key x ≠ k) ∧
      ∀ f kept, (l.modify i f kept).items = before ++ f (l.element found) :: after := by
  have below := lt_of_get? found
  have search := found
  rw [l.inStep, List.findIdx?_eq_some_iff_getElem] at search
  obtain ⟨_, here, earlier⟩ := search
  refine ⟨l.items.take i, l.items.drop (i + 1), ?_, of_decide_eq_true here, ?_, fun f _ =>
    List.modify_eq_take_cons_drop below⟩
  · rw [element, List.get_eq_getElem, List.getElem_cons_drop, List.take_append_drop]
  · intro x member
    obtain ⟨j, hj, rfl⟩ := List.mem_take_iff_getElem.1 member
    simpa using earlier j (by omega)

end IndexedList

end Datalogger
