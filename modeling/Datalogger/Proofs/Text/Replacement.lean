import Datalogger.Dependency
import Datalogger.Proofs.Identifiers
import Datalogger.Proofs.Text.Rewriting
import Mathlib.Data.List.Infix

/-!
Replacing every occurrence of a text by another one, from left to right and without overlaps. What stands
in angle brackets for the dependencies of an instrument is replaced in this way by their names.
-/

namespace Datalogger

/-- Replaces the occurrences of a pattern behind the characters that are skipped. -/
def replaceFrom (pattern new : List Char) : Nat → List Char → List Char
  | _, [] => []
  | skip + 1, _ :: cs => replaceFrom pattern new skip cs
  | 0, c :: cs =>
    if pattern.isPrefixOf (c :: cs) then new ++ replaceFrom pattern new (pattern.length - 1) cs
    else c :: replaceFrom pattern new 0 cs

def replaceAll (pattern new text : String) : String :=
  String.ofList (replaceFrom pattern.toList new.toList 0 text.toList)

/-- A dependency as it is shown before it is bound. -/
def placeholder (name : String) : String :=
  "<" ++ name ++ ">"

def fillPlaceholders (name : String → String) : List Dependency → String → String
  | [], text => text
  | d :: rest, text =>
    fillPlaceholders name rest (replaceAll (placeholder d.name) (name d.name) text)

section Replacement

variable {pattern new : List Char}

theorem prefix_append_cons_iff {c : Char} (other : c ∉ pattern) (a b : List Char) :
    pattern <+: a ++ c :: b ↔ pattern <+: a := by
  constructor
  · intro front
    by_cases short : pattern.length ≤ a.length
    · exact List.prefix_of_prefix_length_le front (List.prefix_append a _) short
    · have whole : a ++ [c] <+: a ++ c :: b := ⟨b, by simp⟩
      have inside : a ++ [c] <+: pattern := by
        refine List.prefix_of_prefix_length_le whole front ?_
        rw [List.length_append, List.length_singleton]
        omega
      exact absurd (inside.subset (by simp)) other
  · exact fun front => front.trans (List.prefix_append a _)

theorem replaceFrom_split {c : Char} (other : c ∉ pattern) (ne : pattern ≠ []) {skip : Nat}
    (a b : List Char) (within : skip ≤ a.length) :
    replaceFrom pattern new skip (a ++ c :: b) =
      replaceFrom pattern new skip a ++ c :: replaceFrom pattern new 0 b := by
  induction a generalizing skip with
  | nil =>
    obtain rfl : skip = 0 := Nat.le_zero.1 within
    have differs : ¬ pattern.isPrefixOf (c :: b) = true := fun front =>
      ne (List.prefix_nil.1 ((prefix_append_cons_iff other [] b).1 (List.isPrefixOf_iff_prefix.1 front)))
    simp [replaceFrom, differs]
  | cons x a ih =>
    cases skip with
    | succ skip =>
      rw [List.cons_append, replaceFrom, replaceFrom]
      exact ih (Nat.le_of_succ_le_succ within)
    | zero =>
      have same : pattern.isPrefixOf (x :: (a ++ c :: b)) = pattern.isPrefixOf (x :: a) := by
        rw [Bool.eq_iff_iff, List.isPrefixOf_iff_prefix, List.isPrefixOf_iff_prefix]
        exact prefix_append_cons_iff other (x :: a) b
      rw [List.cons_append, replaceFrom, replaceFrom, same]
      split
      · rename_i front
        have length := (List.isPrefixOf_iff_prefix.1 front).length_le
        rw [List.length_cons] at length
        rw [ih (by omega), List.append_assoc]
      · rw [ih (Nat.zero_le _), List.cons_append]

theorem replaceFrom_run (run : Rewriting.IsRun new) {w : List Char} (apart : Rewriting.IsRun w)
    (skip : Nat) : Rewriting.IsRun (replaceFrom pattern new skip w) := by
  induction w generalizing skip with
  | nil => simpa [replaceFrom] using apart
  | cons c w ih =>
    have later : Rewriting.IsRun w := fun x member => apart x (List.mem_cons_of_mem c member)
    cases skip with
    | succ skip => exact ih later skip
    | zero =>
      rw [replaceFrom]
      intro x member
      split at member
      · rcases List.mem_append.1 member with member | member
        · exact run x member
        · exact ih later _ x member
      · rcases List.mem_cons.1 member with rfl | member
        · exact apart _ List.mem_cons_self
        · exact ih later 0 x member

theorem replaceFrom_eq_self {cs : List Char} (absent : ¬ pattern <:+: cs) :
    replaceFrom pattern new 0 cs = cs := by
  induction cs with
  | nil => rfl
  | cons c cs ih =>
    have differs : ¬ pattern.isPrefixOf (c :: cs) = true := fun front =>
      absent (List.isPrefixOf_iff_prefix.1 front).isInfix
    rw [replaceFrom, if_neg differs, ih fun inside => absent (inside.trans (List.suffix_cons c cs).isInfix)]

theorem replaceFrom_of_skip {cs : List Char} {skip : Nat} (all : cs.length ≤ skip) :
    replaceFrom pattern new skip cs = [] := by
  induction cs generalizing skip with
  | nil => rfl
  | cons c cs ih =>
    cases skip with
    | zero => simp at all
    | succ skip => exact ih (Nat.le_of_succ_le_succ all)

theorem replaceFrom_pattern (ne : pattern ≠ []) : replaceFrom pattern new 0 pattern = new := by
  cases pattern with
  | nil => exact absurd rfl ne
  | cons c cs =>
    have whole : (c :: cs).isPrefixOf (c :: cs) = true :=
      List.isPrefixOf_iff_prefix.2 List.prefix_rfl
    rw [replaceFrom, if_pos whole, replaceFrom_of_skip (by simp), List.append_nil]

end Replacement

theorem replaceAll_eq_self {pattern new text : String} (absent : ¬ pattern.toList <:+: text.toList) :
    replaceAll pattern new text = text := by
  rw [replaceAll, replaceFrom_eq_self absent, String.ofList_toList]

def Rewriting.replacing (pattern new : List Char) (some : pattern ≠ []) (run : IsRun pattern)
    (filled : new ≠ []) (word : IsRun new) : Rewriting where
  apply := replaceFrom pattern new 0
  nil := rfl
  split a _ b sep := replaceFrom_split (Rewriting.not_mem_run run sep) some a b (Nat.zero_le _)
  run w ne apart := by
    refine ⟨?_, replaceFrom_run word apart 0⟩
    cases w with
    | nil => exact absurd rfl ne
    | cons c w =>
      rw [replaceFrom]
      split <;> simp [filled]

@[simp] theorem toList_placeholder (name : String) :
    (placeholder name).toList = '<' :: (name.toList ++ ['>']) := by
  simp [placeholder]

theorem isRun_of_word {s : String} (word : Word s) : Rewriting.IsRun s.toList := by
  intro c member
  simp [isSeparator, word.chars c member]

theorem isRun_placeholder {name : String} (word : Word name) :
    Rewriting.IsRun (placeholder name).toList := by
  intro c member
  rw [toList_placeholder, List.mem_cons, List.mem_append, List.mem_singleton] at member
  rcases member with rfl | member | rfl
  · decide
  · exact isRun_of_word word c member
  · decide

def marksPlaceholder : List Char → Bool
  | c :: d :: cs => (c == '<' && isWordChar d) || marksPlaceholder (d :: cs)
  | _ => false

theorem marksPlaceholder_of_contained {d : Char} (word : isWordChar d = true) {rest cs : List Char}
    (inside : '<' :: d :: rest <:+: cs) : marksPlaceholder cs = true := by
  obtain ⟨front, back, rfl⟩ := inside
  induction front with
  | nil => simp [marksPlaceholder, word]
  | cons c front ih =>
    cases front with
    | nil => simp [marksPlaceholder, word]
    | cons x front =>
      have later := ih
      simp only [List.cons_append] at later ⊢
      rw [marksPlaceholder, later, Bool.or_true]

theorem not_infix_of_marks {name text : String} (word : Word name)
    (none : marksPlaceholder text.toList = false) :
    ¬ (placeholder name).toList <:+: text.toList := by
  intro inside
  rw [toList_placeholder] at inside
  cases chars : name.toList with
  | nil => exact word.nonempty (by simpa using chars)
  | cons d rest =>
    rw [chars, List.cons_append] at inside
    have first : isWordChar d = true := word.chars d (by simp [chars])
    rw [marksPlaceholder_of_contained first inside] at none
    cases none

/-- No placeholder occurs in another one. -/
theorem eq_of_infix_placeholder {a b : String} (hb : Word b)
    (inside : (placeholder a).toList <:+: (placeholder b).toList) : a = b := by
  have closing : '>' ∉ b.toList := fun member => isWordChar_ne (hb.chars _ member) (by decide) rfl
  rw [toList_placeholder, toList_placeholder] at inside
  obtain ⟨front, back, same⟩ := inside
  cases front with
  | nil =>
    have tail : a.toList ++ '>' :: back = b.toList ++ '>' :: [] := by simpa using same
    have whole := (List.append_cons_inj_of_notMem closing (by simp)).1 tail.symm
    exact String.toList_inj.1 whole.1.symm
  | cons c front =>
    have tail : front ++ '<' :: (a.toList ++ ['>']) ++ back = b.toList ++ ['>'] := by
      simpa using (List.cons.inj same).2
    have member : '<' ∈ b.toList ++ ['>'] := by
      rw [← tail]
      simp
    rcases List.mem_append.1 member with member | never
    · exact absurd rfl (isWordChar_ne (hb.chars _ member) (by decide))
    · simp at never

section Placeholders

variable {name : String → String} {ds : List Dependency}

theorem fillPlaceholders_of_marks (words : ∀ d ∈ ds, Word d.name) {text : String}
    (none : marksPlaceholder text.toList = false) : fillPlaceholders name ds text = text := by
  induction ds with
  | nil => rfl
  | cons d ds ih =>
    have first := not_infix_of_marks (words d List.mem_cons_self) none
    rw [fillPlaceholders, replaceAll_eq_self first]
    exact ih fun x member => words x (List.mem_cons_of_mem d member)

theorem marksPlaceholder_of_word {s : String} (word : Word s) :
    marksPlaceholder s.toList = false := by
  have angle : ∀ cs : List Char, (∀ c ∈ cs, isWordChar c = true) → marksPlaceholder cs = false := by
    intro cs
    induction cs with
    | nil => exact fun _ => rfl
    | cons c cs ih =>
      intro all
      cases cs with
      | nil => rfl
      | cons d cs =>
        have other : c ≠ '<' := isWordChar_ne (all c List.mem_cons_self) (by decide)
        rw [marksPlaceholder, ih fun x member => all x (List.mem_cons_of_mem c member)]
        simp [other]
  exact angle _ word.chars

theorem fillPlaceholders_placeholder (words : ∀ d ∈ ds, Word d.name ∧ Word (name d.name))
    {d : Dependency} (member : d ∈ ds) :
    fillPlaceholders name ds (placeholder d.name) = name d.name := by
  have filled := (words d member).2
  induction ds with
  | nil => cases member
  | cons x ds ih =>
    have later : ∀ d ∈ ds, Word d.name ∧ Word (name d.name) := fun y hy =>
      words y (List.mem_cons_of_mem x hy)
    rw [fillPlaceholders]
    by_cases same : x.name = d.name
    · have some : (placeholder d.name).toList ≠ [] := by simp
      rw [same, replaceAll, replaceFrom_pattern some, String.ofList_toList]
      exact fillPlaceholders_of_marks (fun y hy => (later y hy).1) (marksPlaceholder_of_word filled)
    · have other : d ∈ ds := by
        rcases List.mem_cons.1 member with rfl | member
        · exact absurd rfl same
        · exact member
      have apart : ¬ (placeholder x.name).toList <:+: (placeholder d.name).toList := fun inside =>
        same (eq_of_infix_placeholder (words d member).1 inside)
      rw [replaceAll_eq_self apart]
      exact ih later other

theorem exists_rewriting_fillPlaceholders (words : ∀ d ∈ ds, Word d.name ∧ Word (name d.name)) :
    ∃ ρ : Rewriting, ∀ text, ρ.text text = fillPlaceholders name ds text := by
  induction ds with
  | nil => exact ⟨.identity, fun text => by simp [Rewriting.text, Rewriting.identity, fillPlaceholders]⟩
  | cons d ds ih =>
    obtain ⟨word, filled⟩ := words d List.mem_cons_self
    obtain ⟨σ, same⟩ := ih fun x member => words x (List.mem_cons_of_mem d member)
    have ne : (name d.name).toList ≠ [] := by simpa using filled.nonempty
    refine ⟨σ.comp (.replacing (placeholder d.name).toList (name d.name).toList (by simp)
      (isRun_placeholder word) ne (isRun_of_word filled)), fun text => ?_⟩
    rw [fillPlaceholders, ← same]
    simp [Rewriting.text, Rewriting.comp, Rewriting.replacing, replaceAll]

end Placeholders

end Datalogger
