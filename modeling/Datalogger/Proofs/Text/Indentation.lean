import Datalogger.Proofs.Text.LineBreaks
import Mathlib.Data.List.Forall2

/-!
Laws of indentation. Indenting twice is indenting once by both levels, and texts may be indented before
or after they are joined, unless a line break at the end of a text gets lost on the way. Each piece of an
indented text is empty or a visible line of the text behind its margin.
-/

namespace Datalogger.Text

variable {t : String}

theorem isBlankText_indentLine (n : Nat) (l : String) : isBlankText (indentLine n l) = isBlankText l := by
  cases blank : isBlankText l with
  | true => rw [indentLine_of_blank n blank]; rfl
  | false => rw [indentLine_of_not_blank n blank, isBlankText_append, blank, Bool.and_false]

theorem indentLine_indentLine (a b : Nat) (l : String) :
    indentLine b (indentLine a l) = indentLine (a + b) l := by
  cases blank : isBlankText l with
  | true =>
    have empty : isBlankText "" = true := rfl
    rw [indentLine_of_blank a blank, indentLine_of_blank (a + b) blank, indentLine_of_blank b empty]
  | false =>
    have visible : isBlankText (indentLine a l) = false := by rw [isBlankText_indentLine, blank]
    rw [indentLine_of_not_blank b visible, indentLine_of_not_blank a blank,
      indentLine_of_not_blank (a + b) blank, Nat.add_comm a b, margin_add, String.ofList_append,
      String.append_assoc]

theorem map_indentLine_indentLine (a b : Nat) (ls : List String) :
    (ls.map (indentLine a)).map (indentLine b) = ls.map (indentLine (a + b)) := by
  rw [List.map_map]
  exact List.map_congr_left fun l _ => indentLine_indentLine a b l

theorem oneLine_indentLine {l : String} (one : OneLine l) (n : Nat) : OneLine (indentLine n l) := by
  unfold indentLine
  split
  · exact oneLine_empty
  · exact oneLine_append.2 ⟨oneLine_margin n, one⟩

theorem newline_not_mem_indentLine {l : String} (clear : '\n' ∉ l.toList) (n : Nat) :
    '\n' ∉ (indentLine n l).toList := by
  unfold indentLine
  split
  · simp
  · intro feed
    rw [String.toList_append, List.mem_append] at feed
    rcases feed with front | back
    · exact (oneLine_margin n).newline_not_mem front
    · exact clear back

theorem oneLine_of_mem_lines (clear : '\r' ∉ t.toList) {l : String} (member : l ∈ lines t) :
    OneLine l := by
  obtain ⟨p, piece, front⟩ := exists_piece_of_mem_lines member
  intro c mem
  constructor
  · rintro rfl
    exact newline_not_mem_of_mem_lines member mem
  · rintro rfl
    exact clear (mem_of_mem_pieces piece (front.subset mem))

theorem indent_indent_of_visible (clear : '\r' ∉ t.toList) {init : List String} {last : String}
    (spelled : lines t = init ++ [last]) (visible : isBlankText last = false) (a b : Nat) :
    indent (indent t a) b = indent t (a + b) := by
  have one : ∀ l ∈ (lines t).map (indentLine a), OneLine l :=
    List.forall_mem_map.2 fun l member => oneLine_indentLine (oneLine_of_mem_lines clear member) a
  have ended : ((lines t).map (indentLine a)).getLast? ≠ some "" := by
    rw [spelled, List.map_append, List.map_singleton, List.getLast?_concat]
    intro empty
    have blank := isBlankText_indentLine a last
    rw [Option.some.inj empty, visible] at blank
    cases blank
  calc indent (indent t a) b
      = joinLines (((lines t).map (indentLine a)).map (indentLine b)) := indent_joinLines one ended b
    _ = indent t (a + b) := by rw [map_indentLine_indentLine, indent]

/-- A blank line at the end leaves nothing but the line break before it. -/
theorem indent_of_blank_end {init : List String} {last : String} (spelled : lines t = init ++ [last])
    (blank : isBlankText last = true) (ne : init ≠ []) (n : Nat) :
    indent t n = joinLines (init.map (indentLine n)) ++ "\n" := by
  rw [indent, spelled, List.map_append, List.map_singleton, indentLine_of_blank n blank,
    joinLines_append_empty (by simpa using ne)]

/-- The second indentation takes that line break for the end of the line above. -/
theorem indent_indent_of_blank_end (clear : '\r' ∉ t.toList) {init : List String} {last : String}
    (spelled : lines t = init ++ [last]) (blank : isBlankText last = true) (ne : init ≠ []) (a b : Nat) :
    indent t (a + b) = indent (indent t a) b ++ "\n" := by
  have one : ∀ l ∈ init.map (indentLine a), OneLine l := by
    refine List.forall_mem_map.2 fun l member => ?_
    have shown : l ∈ lines t := spelled ▸ List.mem_append_left _ member
    exact oneLine_indentLine (oneLine_of_mem_lines clear shown) a
  have read : lines (indent t a) = init.map (indentLine a) := by
    rw [indent_of_blank_end spelled blank ne a, lines_joinLines_append_newline one (by simpa using ne)]
  have again : indent (indent t a) b = joinLines (init.map (indentLine (a + b))) := by
    rw [indent, read, map_indentLine_indentLine]
  rw [again, indent_of_blank_end spelled blank ne (a + b)]

theorem indent_of_blank_line {line : String} (spelled : lines t = [line])
    (blank : isBlankText line = true) (n : Nat) : indent t n = "" := by
  rw [indent, spelled, List.map_singleton, indentLine_of_blank n blank]
  simp [joinLines]

theorem indent_indent_eq_iff (clear : '\r' ∉ t.toList) (a b : Nat) :
    indent (indent t a) b = indent t (a + b) ↔
      t = "" ∨ (∃ l, (lines t).getLast? = some l ∧ isBlankText l = false) ∨ (lines t).length = 1 := by
  rcases List.eq_nil_or_concat (lines t) with none | ⟨init, last, spelled⟩
  · obtain rfl := lines_eq_nil_iff.1 none
    exact ⟨fun _ => .inl rfl, fun _ => rfl⟩
  · rw [List.concat_eq_append] at spelled
    have filled : t ≠ "" := fun empty => by simp [lines_eq_nil_iff.2 empty] at spelled
    rw [spelled, List.getLast?_concat]
    cases blank : isBlankText last with
    | false =>
      have law := indent_indent_of_visible clear spelled blank a b
      simp [law, blank]
    | true =>
      -- One blank line leaves nothing that could get lost; after other lines, its line break does.
      by_cases single : init = []
      · rw [single, List.nil_append] at spelled
        have law : indent (indent t a) b = indent t (a + b) := by
          rw [indent_of_blank_line spelled blank a, indent_of_blank_line spelled blank (a + b)]
          rfl
        simp [law, single]
      · have shorter := indent_indent_of_blank_end clear spelled blank single a b
        have differs : indent (indent t a) b ≠ indent t (a + b) := by
          rw [shorter]
          intro same
          simpa using String.append_eq_left_iff.1 same.symm
        simp [differs, filled, blank, single]

theorem joinLines_pieces (t : String) : joinLines ((pieces t.toList).map String.ofList) = t := by
  rw [← String.toList_inj, toList_joinLines, List.map_map]
  simp [Function.comp_def, intercalate_pieces]

theorem getLast?_eq_newline_iff {init : List (List Char)} {last : List Char}
    (same : pieces t.toList = init ++ [last]) :
    t.toList.getLast? = some '\n' ↔ init ≠ [] ∧ last = [] := by
  have piece : last ∈ pieces t.toList := by simp [same]
  have clear : '\n' ∉ last := not_mem_of_mem_pieces piece
  have whole := congrArg String.toList (joinLines_pieces t)
  by_cases single : init = []
  · have alone : last = t.toList := by simpa [same, single] using whole
    rw [← alone]
    simp only [single, ne_eq, not_true_eq_false, false_and, iff_false]
    exact fun ended => clear (List.mem_of_getLast? ended)
  · have parted : (joinLines (init.map String.ofList)).toList ++ '\n' :: last = t.toList := by
      rw [same, List.map_append, joinLines_append (by simpa using single) (by simp)] at whole
      simpa using whole
    rw [← parted, List.getLast?_append, List.getLast?_cons]
    cases ended : last.getLast? with
    | none => simpa [single] using ended
    | some c =>
      have member := List.mem_of_getLast? ended
      have other : c ≠ '\n' := fun feed => clear (feed ▸ member)
      simp [other, List.ne_nil_of_mem member]

theorem map_dropReturn_pieces (clear : '\r' ∉ t.toList) :
    (pieces t.toList).map dropReturn = pieces t.toList := by
  have kept : ∀ p ∈ pieces t.toList, dropReturn p = id p := fun p piece =>
    dropReturn_of_not_mem fun bad => clear (mem_of_mem_pieces piece bad)
  rw [List.map_congr_left kept, List.map_id]

theorem lines_of_pieces (clear : '\r' ∉ t.toList) {init : List (List Char)} {last : List Char}
    (same : pieces t.toList = init ++ [last]) :
    lines t = init.map String.ofList ++ if last = [] then [] else [String.ofList last] := by
  have kept := map_dropReturn_pieces clear
  rw [same, List.map_append] at kept
  rw [lines, same, endedLines_append_singleton, (List.append_inj' kept rfl).1, List.map_append]
  split <;> rfl

theorem lines_append_newline (clear : '\r' ∉ t.toList) (u : String) :
    lines (t ++ "\n" ++ u) = (pieces t.toList).map String.ofList ++ lines u := by
  have parted : (t ++ "\n" ++ u).toList = t.toList ++ '\n' :: u.toList := by simp
  rw [lines, parted, pieces_newline_append, endedLines_append _ (pieces_ne_nil u.toList),
    map_dropReturn_pieces clear, List.map_append, lines]

/-- Between the pieces of a text stand all its line breaks; indentation leaves out the last one if the
text ends with it. -/
theorem joinLines_map_pieces (clear : '\r' ∉ t.toList) (n : Nat) :
    joinLines (((pieces t.toList).map String.ofList).map (indentLine n)) =
      indent t n ++ if t.toList.getLast? = some '\n' then "\n" else "" := by
  obtain ⟨init, last, same⟩ := exists_pieces_eq_concat t.toList
  have ends := getLast?_eq_newline_iff same
  rw [indent, lines_of_pieces clear same, same]
  by_cases empty : last = []
  · have blank : indentLine n "" = "" := indentLine_of_blank n rfl
    by_cases single : init = []
    · simp [ends, empty, single, blank, joinLines]
    · have filled : (init.map String.ofList).map (indentLine n) ≠ [] := by simpa using single
      rw [List.map_append, List.map_append, List.map_singleton, List.map_singleton, empty,
        String.ofList_nil, blank, joinLines_append_empty filled]
      simp [ends, empty, single]
  · simp [ends, empty]

theorem indent_append_eq_iff (clear : '\r' ∉ t.toList) (u : String) (n : Nat) :
    indent (t ++ "\n" ++ u) n = indent t n ++ "\n" ++ indent u n ↔
      (t.toList.getLast? ≠ some '\n' ∧ u ≠ "") ∨ (t.toList.getLast? = some '\n' ∧ u = "") := by
  have front := joinLines_map_pieces clear n
  have whole : indent (t ++ "\n" ++ u) n =
      joinLines (((pieces t.toList).map String.ofList).map (indentLine n) ++
        (lines u).map (indentLine n)) := by
    rw [indent, lines_append_newline clear, List.map_append]
  rw [whole]
  -- A line break at the end of the first text is kept when the text is joined. It makes up for the break
  -- that an empty second text does not open, and is one too many before any other.
  by_cases empty : u = ""
  · have unlined := lines_eq_nil_iff.2 empty
    have bare : indent u n = "" := by rw [indent, unlined]; rfl
    rw [unlined, List.map_nil, List.append_nil, front, bare, String.append_empty, String.append_right_inj]
    simp [empty]
  · have filled : (lines u).map (indentLine n) ≠ [] := by simpa [lines_eq_nil_iff] using empty
    have begun : ((pieces t.toList).map String.ofList).map (indentLine n) ≠ [] := by
      simpa using pieces_ne_nil t.toList
    rw [joinLines_append begun filled, front, ← indent, String.append_left_inj, String.append_left_inj,
      String.append_eq_left_iff]
    simp [empty]

/-- What stands for a line: nothing if it is blank, and otherwise itself behind four spaces a level. -/
inductive Shifted (n : Nat) (line : String) : List Char → Prop
  | blank (h : isBlankText line = true) : Shifted n line []
  | visible (h : isBlankText line = false) :
    Shifted n line (List.replicate (4 * n) ' ' ++ line.toList)

theorem shifted_indentLine (n : Nat) (l : String) : Shifted n l (indentLine n l).toList := by
  cases blank : isBlankText l with
  | true =>
    rw [indentLine_of_blank n blank]
    exact .blank blank
  | false =>
    rw [indentLine_of_not_blank n blank, String.toList_append, String.toList_ofList]
    exact .visible blank

theorem splitOn_indent (filled : t ≠ "") (n : Nat) :
    (indent t n).toList.splitOn '\n' = (lines t).map fun l => (indentLine n l).toList := by
  have clear : ∀ p ∈ (lines t).map fun l => (indentLine n l).toList, '\n' ∉ p := by
    intro p member
    obtain ⟨l, line, rfl⟩ := List.mem_map.1 member
    exact newline_not_mem_indentLine (newline_not_mem_of_mem_lines line) n
  have ne : ((lines t).map fun l => (indentLine n l).toList) ≠ [] := by
    simpa [lines_eq_nil_iff] using filled
  rw [indent, toList_joinLines, List.map_map]
  exact List.splitOn_intercalate '\n' clear ne

theorem visible_of_mem_splitOn_indent {n : Nat} {p : List Char}
    (member : p ∈ (indent t n).toList.splitOn '\n') : p = [] ∨ ∃ c ∈ p, isBlank c = false := by
  by_cases empty : t = ""
  · subst empty
    exact .inl (List.mem_singleton.1 member)
  · rw [splitOn_indent empty] at member
    obtain ⟨l, _, rfl⟩ := List.mem_map.1 member
    cases blank : isBlankText l with
    | true => exact .inl (by rw [indentLine_of_blank n blank]; rfl)
    | false =>
      have shown : isBlankText (indentLine n l) = false := by rw [isBlankText_indentLine, blank]
      exact .inr (List.all_eq_false.1 shown |>.imp fun c h => ⟨h.1, by simpa using h.2⟩)

/-- Laws of indentation for a text without carriage returns. Indenting it twice is indenting it once by
the sum of the levels, unless it has several lines and the last one is blank. It may be joined to a second
text before or after both are indented if it does not end with a line feed and the second text is not
empty, and otherwise only if it does and the second text is. Between the line feeds of the indented text
stand its lines, one by one, and no piece is white space only. -/
theorem indentation_laws (clear : '\r' ∉ t.toList) (u : String) (a b n : Nat) :
    (indent (indent t a) b = indent t (a + b) ↔
      t = "" ∨ (∃ l, (lines t).getLast? = some l ∧ isBlankText l = false) ∨ (lines t).length = 1) ∧
    (indent (t ++ "\n" ++ u) n = indent t n ++ "\n" ++ indent u n ↔
      (t.toList.getLast? ≠ some '\n' ∧ u ≠ "") ∨ (t.toList.getLast? = some '\n' ∧ u = "")) ∧
    (t = "" ∧ indent t n = "" ∨
      List.Forall₂ (Shifted n) (lines t) ((indent t n).toList.splitOn '\n')) ∧
    ∀ p ∈ (indent t n).toList.splitOn '\n', p = [] ∨ ∃ c ∈ p, isBlank c = false := by
  refine ⟨indent_indent_eq_iff clear a b, indent_append_eq_iff clear u n, ?_,
    fun p member => visible_of_mem_splitOn_indent member⟩
  by_cases empty : t = ""
  · subst empty
    exact .inl ⟨rfl, rfl⟩
  · rw [splitOn_indent empty, List.forall₂_map_right_iff, List.forall₂_same]
    exact .inr fun l _ => shifted_indentLine n l

/-! A block with a blank line in it, cut before its last line. -/

namespace PumpBlock

def front : String := "If level > 3 Then\n \t\n    pump = 1"

def back : String := "EndIf\n"

end PumpBlock

open PumpBlock in
theorem pump_block_indented :
    '\r' ∉ front.toList ∧ isBlankText "    pump = 1" = false ∧
      front.toList.getLast? ≠ some '\n' ∧ back ≠ "" ∧
      indent (indent front 1) 2 = indent front 3 ∧
      indent (front ++ "\n" ++ back) 1 = indent front 1 ++ "\n" ++ indent back 1 ∧
      List.Forall₂ (Shifted 1) ["If level > 3 Then", " \t", "    pump = 1"]
        ((indent front 1).toList.splitOn '\n') ∧
      ∀ p ∈ (indent front 1).toList.splitOn '\n', p = [] ∨ ∃ c ∈ p, isBlank c = false := by
  have clear : '\r' ∉ front.toList := by decide +kernel
  have spelled : lines front = ["If level > 3 Then", " \t", "    pump = 1"] := by decide +kernel
  have visible : isBlankText "    pump = 1" = false := by decide +kernel
  have inside : front.toList.getLast? ≠ some '\n' := by decide +kernel
  have filled : back ≠ "" := by decide
  obtain ⟨twice, joined, shifted, shown⟩ := indentation_laws clear back 1 2 1
  rw [spelled] at twice shifted
  refine ⟨clear, visible, inside, filled, ?_, joined.2 (.inl ⟨inside, filled⟩), ?_, shown⟩
  · exact twice.2 (.inr (.inl ⟨"    pump = 1", rfl, visible⟩))
  · exact shifted.resolve_left fun empty => absurd empty.1 (by decide)

/-- Re-indenting loses the break before a blank last line. -/
example : indent (indent "flow = 0\n\n" 1) 1 = "        flow = 0" ∧
    indent "flow = 0\n\n" 2 = "        flow = 0\n" := by
  decide +kernel

end Datalogger.Text
