import Datalogger.Proofs.Identifiers

/-!
Rewritings that act between separators. Letters, digits, underscores and angle brackets make up the runs
of a text, every other character separates them. A rewriting changes each run on its own and leaves all
separators where they are, so it commutes with joining and indenting lines.
-/

namespace Datalogger

open Text (isBlank isBlankText joinLines indent indentLine margin pieces dropReturn endedLines)

def isSeparator (c : Char) : Bool :=
  !(isWordChar c || c == '<' || c == '>')

structure Rewriting where
  apply : List Char → List Char
  nil : apply [] = []
  split : ∀ a c b, isSeparator c = true → apply (a ++ c :: b) = apply a ++ c :: apply b
  run : ∀ w, w ≠ [] → (∀ c ∈ w, isSeparator c = false) →
    apply w ≠ [] ∧ ∀ c ∈ apply w, isSeparator c = false

namespace Rewriting

variable (ρ : Rewriting)

def text (s : String) : String :=
  String.ofList (ρ.apply s.toList)

@[simp] theorem toList_text (s : String) : (ρ.text s).toList = ρ.apply s.toList := by
  simp [text]

@[simp] theorem text_empty : ρ.text "" = "" := by
  rw [← String.toList_inj, toList_text, String.toList_empty, ρ.nil]

def identity : Rewriting :=
  ⟨id, rfl, fun _ _ _ _ => rfl, fun _ ne apart => ⟨ne, apart⟩⟩

def comp (σ ρ : Rewriting) : Rewriting where
  apply cs := σ.apply (ρ.apply cs)
  nil := by rw [ρ.nil, σ.nil]
  split a c b h := by rw [ρ.split a c b h, σ.split _ c _ h]
  run w ne apart := σ.run _ (ρ.run w ne apart).1 (ρ.run w ne apart).2

theorem apply_cons {c : Char} (h : isSeparator c = true) (cs : List Char) :
    ρ.apply (c :: cs) = c :: ρ.apply cs := by
  simpa [ρ.nil] using ρ.split [] c cs h

theorem apply_append_of_starts {a b : List Char} (h : b.head?.any isSeparator = true) :
    ρ.apply (a ++ b) = ρ.apply a ++ ρ.apply b := by
  cases b with
  | nil => cases h
  | cons c b => rw [ρ.split a c b h, ρ.apply_cons h]

theorem apply_append_of_ends {a b : List Char} (h : a.getLast?.any isSeparator = true) :
    ρ.apply (a ++ b) = ρ.apply a ++ ρ.apply b := by
  rcases List.eq_nil_or_concat a with rfl | ⟨a, c, rfl⟩
  · cases h
  · have sep : isSeparator c = true := by simpa using h
    rw [List.concat_eq_append, List.append_assoc, List.singleton_append, ρ.split a c b sep,
      ρ.split a c [] sep, ρ.nil]
    simp

theorem text_append_of_starts {a b : String} (h : b.toList.head?.any isSeparator = true) :
    ρ.text (a ++ b) = ρ.text a ++ ρ.text b := by
  rw [← String.toList_inj]
  simpa using ρ.apply_append_of_starts h

theorem text_append_of_ends {a b : String} (h : a.toList.getLast?.any isSeparator = true) :
    ρ.text (a ++ b) = ρ.text a ++ ρ.text b := by
  rw [← String.toList_inj]
  simpa using ρ.apply_append_of_ends h

/-- A text between separators keeps apart what stands around it. -/
theorem text_around {s : String} (starts : s.toList.head?.any isSeparator = true)
    (ends : s.toList.getLast?.any isSeparator = true) (kept : ρ.text s = s) (a b : String) :
    ρ.text (a ++ s ++ b) = ρ.text a ++ s ++ ρ.text b := by
  have opens : (s ++ b).toList.head?.any isSeparator = true := by
    rw [String.toList_append]
    cases chars : s.toList with
    | nil => simp [chars] at starts
    | cons c cs => simpa [chars] using starts
  rw [String.append_assoc, ρ.text_append_of_starts opens, ρ.text_append_of_ends ends, kept,
    String.append_assoc]

theorem text_intercalate {s : String} (starts : s.toList.head?.any isSeparator = true)
    (ends : s.toList.getLast?.any isSeparator = true) (kept : ρ.text s = s) (parts : List String) :
    ρ.text (s.intercalate parts) = s.intercalate (parts.map ρ.text) := by
  induction parts with
  | nil => exact ρ.text_empty
  | cons p rest ih =>
    cases rest with
    | nil => simp
    | cons q rest =>
      rw [String.intercalate_cons_cons, ρ.text_around starts ends kept, ih]
      simp [String.intercalate_cons_cons]

theorem apply_of_separators {cs : List Char} (h : ∀ c ∈ cs, isSeparator c = true) :
    ρ.apply cs = cs := by
  induction cs with
  | nil => exact ρ.nil
  | cons c cs ih =>
    rw [ρ.apply_cons (h c List.mem_cons_self), ih fun x member => h x (List.mem_cons_of_mem c member)]

theorem text_separator {c : Char} (sep : isSeparator c = true) :
    ρ.text (String.singleton c) = String.singleton c := by
  rw [← String.toList_inj, toList_text]
  exact ρ.apply_of_separators (by simpa using sep)

theorem text_joinLines (ls : List String) : ρ.text (joinLines ls) = joinLines (ls.map ρ.text) := by
  have kept : ρ.text "\n" = "\n" := ρ.text_separator (c := '\n') (by decide)
  exact ρ.text_intercalate (by decide) (by decide) kept ls

def IsRun (w : List Char) : Prop :=
  ∀ c ∈ w, isSeparator c = false

theorem isRun_or_split (cs : List Char) :
    IsRun cs ∨ ∃ w c b, cs = w ++ c :: b ∧ IsRun w ∧ isSeparator c = true := by
  induction cs with
  | nil => exact .inl (by simp [IsRun])
  | cons x cs ih =>
    cases sep : isSeparator x with
    | true => exact .inr ⟨[], x, cs, rfl, by simp [IsRun], sep⟩
    | false =>
      rcases ih with apart | ⟨w, c, b, rfl, apart, split⟩
      · exact .inl (List.forall_mem_cons.2 ⟨sep, apart⟩)
      · exact .inr ⟨x :: w, c, b, rfl, List.forall_mem_cons.2 ⟨sep, apart⟩, split⟩

/-- A text is a run, or a run and a separator in front of another text. -/
theorem runs_induction {P : List Char → Prop} (run : ∀ w, IsRun w → P w)
    (step : ∀ w c b, IsRun w → isSeparator c = true → P b → P (w ++ c :: b)) (cs : List Char) :
    P cs := by
  rcases isRun_or_split cs with apart | ⟨w, c, b, rfl, apart, sep⟩
  · exact run cs apart
  · exact step w c b apart sep (runs_induction run step b)
termination_by cs.length
decreasing_by simp_all; omega

theorem isRun_apply {w : List Char} (apart : IsRun w) : IsRun (ρ.apply w) := by
  cases w with
  | nil => simp [ρ.nil, IsRun]
  | cons c w => exact (ρ.run (c :: w) (by simp) apart).2

theorem apply_eq_nil_iff {cs : List Char} : ρ.apply cs = [] ↔ cs = [] := by
  rcases isRun_or_split cs with apart | ⟨w, c, b, rfl, apart, sep⟩
  · cases cs with
    | nil => simp [ρ.nil]
    | cons c w => simp [(ρ.run (c :: w) (by simp) apart).1]
  · simp [ρ.split w c b sep]

theorem not_mem_run {w : List Char} (apart : IsRun w) {c : Char} (sep : isSeparator c = true) :
    c ∉ w := by
  intro member
  rw [apart c member] at sep
  cases sep

theorem getLast?_apply {c : Char} (sep : isSeparator c = true) (cs : List Char) :
    (ρ.apply cs).getLast? = some c ↔ cs.getLast? = some c := by
  have of_run : ∀ {w : List Char}, IsRun w → w.getLast? ≠ some c := fun apart last =>
    not_mem_run apart sep (List.mem_of_getLast? last)
  induction cs using runs_induction with
  | run w apart => exact iff_of_false (of_run (ρ.isRun_apply apart)) (of_run apart)
  | step w x b apart split ih =>
    rw [ρ.split w x b split, List.getLast?_append_cons, List.getLast?_append_cons]
    by_cases empty : b = []
    · simp [empty, ρ.nil]
    · have filled : ρ.apply b ≠ [] := fun none => empty (ρ.apply_eq_nil_iff.1 none)
      rwa [List.getLast?_cons_of_ne_nil filled, List.getLast?_cons_of_ne_nil empty]

theorem isBlank_of_run {c : Char} (h : isSeparator c = false) : isBlank c = false := by
  simp only [isSeparator, Bool.not_eq_false', Bool.or_eq_true, beq_iff_eq] at h
  rcases h with (word | rfl) | rfl
  · exact isBlank_of_isWordChar word
  · decide
  · decide

theorem all_isBlank_run {w : List Char} (apart : IsRun w) : w.all isBlank = w.isEmpty := by
  cases w with
  | nil => rfl
  | cons c w => simp [isBlank_of_run (apart c List.mem_cons_self)]

theorem all_isBlank_apply (cs : List Char) : (ρ.apply cs).all isBlank = cs.all isBlank := by
  have run : ∀ w, IsRun w → (ρ.apply w).all isBlank = w.all isBlank := by
    intro w apart
    rw [all_isBlank_run (ρ.isRun_apply apart), all_isBlank_run apart, Bool.eq_iff_iff,
      List.isEmpty_iff, List.isEmpty_iff, apply_eq_nil_iff]
  induction cs using runs_induction with
  | run w apart => exact run w apart
  | step w c b apart sep ih =>
    rw [ρ.split w c b sep, List.all_append, List.all_append, List.all_cons, List.all_cons,
      run w apart, ih]

theorem isBlankText_text (s : String) : isBlankText (ρ.text s) = isBlankText s := by
  rw [isBlankText, isBlankText, toList_text, all_isBlank_apply]

theorem dropReturn_apply (cs : List Char) : dropReturn (ρ.apply cs) = ρ.apply (dropReturn cs) := by
  unfold dropReturn
  by_cases last : cs.getLast? = some '\r'
  · obtain ⟨front, rfl⟩ := List.getLast?_eq_some_iff.1 last
    have split := ρ.split front '\r' [] (by decide)
    rw [ρ.nil] at split
    rw [if_pos last, split]
    simp
  · rw [if_neg last, if_neg fun there => last ((ρ.getLast?_apply (by decide) cs).1 there)]

theorem pieces_apply (cs : List Char) : pieces (ρ.apply cs) = (pieces cs).map ρ.apply := by
  have feed : isSeparator '\n' = true := by decide
  induction cs using runs_induction with
  | run w apart =>
    rw [Text.pieces_of_not_mem (not_mem_run apart feed),
      Text.pieces_of_not_mem (not_mem_run (ρ.isRun_apply apart) feed), List.map_singleton]
  | step w c b apart sep ih =>
    have front : '\n' ∉ w := not_mem_run apart feed
    have front' : '\n' ∉ ρ.apply w := not_mem_run (ρ.isRun_apply apart) feed
    rw [ρ.split w c b sep]
    by_cases new : c = '\n'
    · rw [new, Text.pieces_append_newline front, Text.pieces_append_newline front', ih, List.map_cons]
    · obtain ⟨p, ps, some⟩ := List.exists_cons_of_ne_nil (Text.pieces_ne_nil b)
      have here : ∀ {b p : List Char} {ps}, pieces b = p :: ps → pieces (c :: b) = (c :: p) :: ps := by
        intro b p ps some
        rw [pieces, if_neg new, some]
      have later : pieces (ρ.apply b) = ρ.apply p :: ps.map ρ.apply := by rw [ih, some, List.map_cons]
      rw [Text.pieces_append_of_not_mem front (here some), Text.pieces_append_of_not_mem front' (here later),
        List.map_cons, ρ.split w c p sep]

theorem endedLines_map (ps : List (List Char)) :
    endedLines (ps.map ρ.apply) = (endedLines ps).map ρ.apply := by
  induction ps with
  | nil => rfl
  | cons p ps ih =>
    cases ps with
    | nil =>
      rw [List.map_singleton, endedLines, endedLines]
      by_cases empty : p = []
      · simp [empty, ρ.nil]
      · rw [if_neg empty, if_neg fun none => empty (ρ.apply_eq_nil_iff.1 none), List.map_singleton]
    | cons q ps =>
      rw [List.map_cons] at ih
      rw [List.map_cons, List.map_cons, endedLines, endedLines, ih, dropReturn_apply, List.map_cons]

theorem lines_text (s : String) : Text.lines (ρ.text s) = (Text.lines s).map ρ.text := by
  rw [Text.lines, Text.lines, toList_text, pieces_apply, endedLines_map, List.map_map, List.map_map]
  refine List.map_congr_left fun cs _ => ?_
  simp [text]

theorem text_margin (level : Nat) (s : String) :
    ρ.text (String.ofList (margin level) ++ s) = String.ofList (margin level) ++ ρ.text s := by
  have spaces : ∀ n : Nat, ρ.apply (List.replicate n ' ' ++ s.toList) =
      List.replicate n ' ' ++ ρ.apply s.toList := by
    intro n
    induction n with
    | zero => rfl
    | succ n ih =>
      rw [List.replicate_succ, List.cons_append, List.cons_append, ρ.apply_cons (by decide), ih]
  rw [← String.toList_inj]
  simpa [margin] using spaces (4 * level)

theorem text_indent (s : String) (level : Nat) :
    ρ.text (indent s level) = indent (ρ.text s) level := by
  have line : ∀ l, ρ.text (indentLine level l) = indentLine level (ρ.text l) := by
    intro l
    rw [indentLine, indentLine, isBlankText_text]
    split
    · exact ρ.text_empty
    · exact ρ.text_margin level l
  rw [indent, indent, text_joinLines, lines_text, List.map_map, List.map_map]
  exact congrArg joinLines (List.map_congr_left fun l _ => line l)

end Rewriting

end Datalogger
