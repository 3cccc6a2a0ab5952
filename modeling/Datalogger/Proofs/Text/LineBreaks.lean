import Datalogger.Proofs.Text.Bytes
import Datalogger.Text.Indent

/-!
Texts as lists of lines. No line contains a line feed, a list of lines is read back from the joined text
exactly if no line break is lost or gained, and texts that are joined again have the lines of all of them.
-/

namespace Datalogger.Text

def OneLine (s : String) : Prop :=
  ∀ c ∈ s.toList, c ≠ '\n' ∧ c ≠ '\r'

theorem oneLine_iff_bytes {s : String} :
    ((bytes s).all fun n => n != 10 && n != 13) = true ↔ OneLine s := by
  have feed : 10 ∈ bytes s ↔ '\n' ∈ s.toList := mem_bytes_iff (c := '\n') (by decide)
  have carriage : 13 ∈ bytes s ↔ '\r' ∈ s.toList := mem_bytes_iff (c := '\r') (by decide)
  simp only [List.all_eq_true, Bool.and_eq_true, bne_iff_ne]
  constructor
  · intro clear c member
    constructor
    · rintro rfl
      exact (clear 10 (feed.2 member)).1 rfl
    · rintro rfl
      exact (clear 13 (carriage.2 member)).2 rfl
  · intro one n member
    constructor
    · rintro rfl
      exact (one _ (feed.1 member)).1 rfl
    · rintro rfl
      exact (one _ (carriage.1 member)).2 rfl

instance (s : String) : Decidable (OneLine s) :=
  decidable_of_iff _ oneLine_iff_bytes

theorem OneLine.newline_not_mem {s : String} (one : OneLine s) : '\n' ∉ s.toList :=
  fun member => (one _ member).1 rfl

theorem OneLine.return_not_mem {s : String} (one : OneLine s) : '\r' ∉ s.toList :=
  fun member => (one _ member).2 rfl

theorem oneLine_empty : OneLine "" := by
  intro c member
  simp at member

@[simp] theorem oneLine_append {a b : String} : OneLine (a ++ b) ↔ OneLine a ∧ OneLine b := by
  simp only [OneLine, String.toList_append, List.forall_mem_append]

theorem oneLine_intercalate {s : String} {ls : List String} (hs : OneLine s)
    (hl : ∀ l ∈ ls, OneLine l) : OneLine (s.intercalate ls) := by
  induction ls with
  | nil => simpa using oneLine_empty
  | cons l ls ih =>
    have first := hl l List.mem_cons_self
    cases ls with
    | nil => simpa using first
    | cons m ls =>
      rw [String.intercalate_cons_cons, oneLine_append, oneLine_append]
      exact ⟨⟨first, hs⟩, ih fun x member => hl x (List.mem_cons_of_mem l member)⟩

theorem pieces_of_not_mem {cs : List Char} (h : '\n' ∉ cs) : pieces cs = [cs] := by
  induction cs with
  | nil => rfl
  | cons c cs ih =>
    have hc : c ≠ '\n' := by rintro rfl; simp at h
    rw [pieces, if_neg hc, ih fun member => h (List.mem_cons_of_mem c member)]

theorem pieces_append_of_not_mem {a b first : List Char} {rest : List (List Char)} (clear : '\n' ∉ a)
    (same : pieces b = first :: rest) : pieces (a ++ b) = (a ++ first) :: rest := by
  induction a with
  | nil => exact same
  | cons c a ih =>
    have hc : c ≠ '\n' := by rintro rfl; simp at clear
    rw [List.cons_append, pieces, if_neg hc, ih fun member => clear (List.mem_cons_of_mem c member)]
    rfl

theorem pieces_newline_append (a b : List Char) :
    pieces (a ++ '\n' :: b) = pieces a ++ pieces b := by
  induction a with
  | nil => simp [pieces]
  | cons c a ih =>
    by_cases hc : c = '\n'
    · simp [pieces, hc, ih]
    · obtain ⟨first, rest, same⟩ := List.exists_cons_of_ne_nil (pieces_ne_nil a)
      simp [pieces, hc, ih, same]

theorem pieces_append_newline {cs : List Char} (h : '\n' ∉ cs) (rest : List Char) :
    pieces (cs ++ '\n' :: rest) = cs :: pieces rest := by
  rw [pieces_newline_append, pieces_of_not_mem h, List.singleton_append]

theorem pieces_intercalate {ls : List (List Char)} (h : ∀ l ∈ ls, '\n' ∉ l) (ne : ls ≠ []) :
    pieces (['\n'].intercalate ls) = ls := by
  induction ls with
  | nil => exact absurd rfl ne
  | cons l ls ih =>
    have first := h l List.mem_cons_self
    cases ls with
    | nil => simpa using pieces_of_not_mem first
    | cons m ls =>
      rw [List.intercalate_cons_cons, List.append_assoc, List.singleton_append,
        pieces_append_newline first]
      rw [ih (fun x member => h x (List.mem_cons_of_mem l member)) (by simp)]

theorem mem_of_mem_pieces {cs p : List Char} (piece : p ∈ pieces cs) {c : Char} (member : c ∈ p) :
    c ∈ cs := by
  induction cs generalizing p with
  | nil => simp_all [pieces]
  | cons d cs ih =>
    rw [pieces] at piece
    split at piece
    · rcases List.mem_cons.1 piece with rfl | later
      · cases member
      · exact List.mem_cons_of_mem d (ih later member)
    · obtain ⟨first, rest, same⟩ := List.exists_cons_of_ne_nil (pieces_ne_nil cs)
      rw [same] at piece ih
      rcases List.mem_cons.1 piece with rfl | later
      · rcases List.mem_cons.1 member with rfl | inside
        · exact List.mem_cons_self
        · exact List.mem_cons_of_mem d (ih List.mem_cons_self inside)
      · exact List.mem_cons_of_mem d (ih (List.mem_cons_of_mem first later) member)

theorem exists_pieces_eq_concat (cs : List Char) : ∃ init last, pieces cs = init ++ [last] :=
  ⟨_, _, (List.dropLast_concat_getLast (pieces_ne_nil cs)).symm⟩

theorem endedLines_append (ps : List (List Char)) {qs : List (List Char)} (ne : qs ≠ []) :
    endedLines (ps ++ qs) = ps.map dropReturn ++ endedLines qs := by
  induction ps with
  | nil => rfl
  | cons p ps ih =>
    obtain ⟨q, rest, same⟩ := List.exists_cons_of_ne_nil (List.append_ne_nil_of_right_ne_nil ps ne)
    rw [List.cons_append, same, endedLines, ← same, ih, List.map_cons, List.cons_append]

theorem endedLines_append_singleton (ls : List (List Char)) (last : List Char) :
    endedLines (ls ++ [last]) = ls.map dropReturn ++ if last = [] then [] else [last] :=
  endedLines_append ls (List.cons_ne_nil last [])

theorem dropReturn_prefix (cs : List Char) : dropReturn cs <+: cs := by
  unfold dropReturn
  split
  · exact List.dropLast_prefix cs
  · exact List.prefix_rfl

theorem dropReturn_eq_self_iff {cs : List Char} : dropReturn cs = cs ↔ cs.getLast? ≠ some '\r' := by
  constructor
  · intro same last
    rw [dropReturn, if_pos last] at same
    have shorter := congrArg List.length same
    have filled := List.length_pos_of_mem (List.mem_of_getLast? last)
    rw [List.length_dropLast] at shorter
    omega
  · intro last
    rw [dropReturn, if_neg last]

theorem dropReturn_of_not_mem {cs : List Char} (h : '\r' ∉ cs) : dropReturn cs = cs :=
  dropReturn_eq_self_iff.2 fun last => h (List.mem_of_getLast? last)

def withoutReturn (l : String) : String :=
  String.ofList (dropReturn l.toList)

theorem withoutReturn_eq_self_iff {l : String} :
    withoutReturn l = l ↔ l.toList.getLast? ≠ some '\r' := by
  rw [← dropReturn_eq_self_iff, withoutReturn, ← String.toList_inj, String.toList_ofList]

theorem map_withoutReturn_eq_self_iff {ls : List String} :
    ls.map withoutReturn = ls ↔ ∀ l ∈ ls, l.toList.getLast? ≠ some '\r' := by
  have same : ls.map withoutReturn = ls.map id ↔ ∀ l ∈ ls, withoutReturn l = id l := List.map_inj_left
  simpa only [List.map_id, id_eq, withoutReturn_eq_self_iff] using same

theorem exists_piece_of_mem_lines {s l : String} (member : l ∈ lines s) :
    ∃ p ∈ pieces s.toList, l.toList <+: p := by
  obtain ⟨cs, ended, rfl⟩ := List.mem_map.1 member
  obtain ⟨init, last, same⟩ := exists_pieces_eq_concat s.toList
  rw [same, endedLines_append_singleton, List.mem_append] at ended
  rw [same, String.toList_ofList]
  rcases ended with early | late
  · obtain ⟨p, piece, rfl⟩ := List.mem_map.1 early
    exact ⟨p, List.mem_append_left _ piece, dropReturn_prefix p⟩
  · split at late
    · cases late
    · rw [List.mem_singleton.1 late]
      exact ⟨last, by simp, List.prefix_rfl⟩

theorem newline_not_mem_of_mem_lines {s l : String} (member : l ∈ lines s) : '\n' ∉ l.toList := by
  obtain ⟨p, piece, front⟩ := exists_piece_of_mem_lines member
  intro feed
  exact not_mem_of_mem_pieces piece (front.subset feed)

theorem lines_eq_nil_iff {s : String} : lines s = [] ↔ s = "" := by
  constructor
  · intro none
    obtain ⟨init, last, same⟩ := exists_pieces_eq_concat s.toList
    rw [lines, same, endedLines_append_singleton, List.map_eq_nil_iff, List.append_eq_nil_iff,
      List.map_eq_nil_iff] at none
    obtain ⟨rfl, ended⟩ := none
    have empty : last = [] := by
      split at ended
      · assumption
      · cases ended
    have whole := intercalate_pieces s.toList
    rw [same, empty] at whole
    exact String.toList_eq_nil_iff.1 whole.symm
  · rintro rfl
    rfl

theorem joinLines_eq_empty_iff {ls : List String} : joinLines ls = "" ↔ ls = [] ∨ ls = [""] := by
  cases ls with
  | nil => simp [joinLines]
  | cons l ls =>
    cases ls with
    | nil => simp [joinLines]
    | cons m ls => simp [joinLines, String.intercalate_cons_cons]

theorem pieces_joinLines {ls : List String} (clear : ∀ l ∈ ls, '\n' ∉ l.toList) (ne : ls ≠ []) :
    pieces (joinLines ls).toList = ls.map String.toList := by
  rw [toList_joinLines]
  refine pieces_intercalate ?_ (by simpa using ne)
  intro cs member
  obtain ⟨l, hl, rfl⟩ := List.mem_map.1 member
  exact clear l hl

/-- Reading lines back: an empty text at the end is not seen, nor is a carriage return before a break. -/
theorem lines_joinLines_concat {init : List String} {last : String}
    (clear : ∀ l ∈ init ++ [last], '\n' ∉ l.toList) :
    lines (joinLines (init ++ [last])) =
      init.map withoutReturn ++ if last = "" then [] else [last] := by
  rw [lines, pieces_joinLines clear (by simp), List.map_append, List.map_singleton,
    endedLines_append_singleton, List.map_append, List.map_map, List.map_map]
  congr 1
  by_cases empty : last = ""
  · simp [empty]
  · simp [empty]

theorem lines_joinLines_eq_iff {ls : List String} :
    lines (joinLines ls) = ls ↔
      ls = [] ∨ (∀ l ∈ ls, '\n' ∉ l.toList) ∧
        (∀ l ∈ ls.dropLast, l.toList.getLast? ≠ some '\r') ∧ ls.getLast? ≠ some "" := by
  rcases List.eq_nil_or_concat ls with rfl | ⟨init, last, rfl⟩
  · exact ⟨fun _ => .inl rfl, fun _ => rfl⟩
  · rw [List.concat_eq_append, List.dropLast_concat, List.getLast?_concat]
    constructor
    · intro same
      -- What was read contains no line feed, so the texts are the pieces of the joined text.
      have clear : ∀ l ∈ init ++ [last], '\n' ∉ l.toList := by
        intro l member
        rw [← same] at member
        exact newline_not_mem_of_mem_lines member
      rw [lines_joinLines_concat clear] at same
      have filled : last ≠ "" := by
        intro empty
        rw [if_pos empty] at same
        have := congrArg List.length same
        simp at this
      rw [if_neg filled] at same
      have kept := map_withoutReturn_eq_self_iff.1 (List.append_cancel_right same)
      exact .inr ⟨clear, kept, fun empty => filled (Option.some.inj empty)⟩
    · rintro (none | ⟨clear, ends, filled⟩)
      · simp at none
      · have visible : last ≠ "" := fun empty => filled (congrArg some empty)
        rw [lines_joinLines_concat clear, if_neg visible, map_withoutReturn_eq_self_iff.2 ends]

theorem lines_joinLines {ls : List String} (one : ∀ l ∈ ls, OneLine l)
    (last : ls.getLast? ≠ some "") : lines (joinLines ls) = ls := by
  refine lines_joinLines_eq_iff.2 (.inr ⟨?_, ?_, last⟩)
  · exact fun l member => (one l member).newline_not_mem
  · intro l member ended
    exact (one l (List.dropLast_subset ls member)).return_not_mem (List.mem_of_getLast? ended)

theorem joinLines_append {a b : List String} (ha : a ≠ []) (hb : b ≠ []) :
    joinLines (a ++ b) = joinLines a ++ "\n" ++ joinLines b :=
  String.intercalate_append_of_ne_nil ha hb

theorem joinLines_append_empty {ls : List String} (ne : ls ≠ []) :
    joinLines (ls ++ [""]) = joinLines ls ++ "\n" := by
  rw [joinLines_append ne (by simp)]
  simp [joinLines]

theorem lines_joinLines_append_newline {ls : List String} (one : ∀ l ∈ ls, OneLine l)
    (ne : ls ≠ []) : lines (joinLines ls ++ "\n") = ls := by
  have clear : ∀ l ∈ ls ++ [""], '\n' ∉ l.toList := by
    refine List.forall_mem_append.2 ⟨fun l member => (one l member).newline_not_mem, ?_⟩
    simp
  rw [← joinLines_append_empty ne, lines_joinLines_concat clear, if_pos rfl, List.append_nil]
  exact map_withoutReturn_eq_self_iff.2 fun l member ended =>
    (one l member).return_not_mem (List.mem_of_getLast? ended)

theorem isBlankText_append (a b : String) :
    isBlankText (a ++ b) = (isBlankText a && isBlankText b) := by
  simp [isBlankText]

theorem oneLine_margin (level : Nat) : OneLine (String.ofList (margin level)) := by
  intro c member
  have : c = ' ' := List.eq_of_mem_replicate (by simpa [margin] using member)
  subst this
  decide

theorem indent_joinLines {ls : List String} (one : ∀ l ∈ ls, OneLine l)
    (last : ls.getLast? ≠ some "") (level : Nat) :
    indent (joinLines ls) level = joinLines (ls.map (indentLine level)) := by
  rw [indent, lines_joinLines one last]

/-- The texts have these lines, each text at least one of them. -/
def Spells (texts ls : List String) : Prop :=
  ∃ groups : List (List String),
    (∀ g ∈ groups, g ≠ []) ∧ texts = groups.map joinLines ∧ ls = groups.flatten

theorem joinLines_flatten {groups : List (List String)} (ne : ∀ g ∈ groups, g ≠ []) :
    joinLines (groups.map joinLines) = joinLines groups.flatten := by
  induction groups with
  | nil => rfl
  | cons g groups ih =>
    have hg := ne g List.mem_cons_self
    have later : ∀ x ∈ groups, x ≠ [] := fun x member => ne x (List.mem_cons_of_mem g member)
    cases groups with
    | nil => simp [joinLines]
    | cons h groups =>
      have hh : (h :: groups).flatten ≠ [] := by
        have := later h List.mem_cons_self
        simp [this]
      have alone : joinLines [joinLines g] = joinLines g := by simp [joinLines]
      rw [List.map_cons, ← List.singleton_append, joinLines_append (by simp) (by simp), ih later,
        alone, ← joinLines_append hg hh, ← List.flatten_cons]

namespace Spells

theorem nil : Spells [] [] := ⟨[], by simp, rfl, rfl⟩

theorem single {ls : List String} (ne : ls ≠ []) : Spells [joinLines ls] ls :=
  ⟨[ls], by simpa using ne, rfl, by simp⟩

theorem refl (ls : List String) : Spells ls ls :=
  ⟨ls.map fun l => [l], by simp, by simp [joinLines, Function.comp_def],
    (List.flatMap_singleton' ls).symm⟩

theorem line (l : String) : Spells [l] [l] := refl [l]

theorem append {ps qs ls ms : List String} (hp : Spells ps ls) (hq : Spells qs ms) :
    Spells (ps ++ qs) (ls ++ ms) := by
  obtain ⟨gs, neg, rfl, rfl⟩ := hp
  obtain ⟨hs, neh, rfl, rfl⟩ := hq
  refine ⟨gs ++ hs, ?_, by simp, by simp⟩
  intro g member
  rcases List.mem_append.1 member with member | member
  · exact neg g member
  · exact neh g member

theorem cons {qs ms : List String} (l : String) (hq : Spells qs ms) :
    Spells (l :: qs) (l :: ms) :=
  (line l).append hq

theorem joinLines_eq {ps ls : List String} (h : Spells ps ls) : joinLines ps = joinLines ls := by
  obtain ⟨groups, ne, rfl, rfl⟩ := h
  exact joinLines_flatten ne

theorem ne_nil {ps ls : List String} (h : Spells ps ls) (ne : ps ≠ []) : ls ≠ [] := by
  obtain ⟨groups, filled, rfl, rfl⟩ := h
  cases groups with
  | nil => exact absurd rfl ne
  | cons g groups =>
    have := filled g List.mem_cons_self
    simp [this]

end Spells

theorem intercalate_paragraphs {groups : List (List String)} (ne : ∀ g ∈ groups, g ≠ []) :
    "\n\n".intercalate (groups.map joinLines) = joinLines ([""].intercalate groups) := by
  induction groups with
  | nil => rfl
  | cons g groups ih =>
    have hg := ne g List.mem_cons_self
    cases groups with
    | nil => simp
    | cons h groups =>
      have later := ih fun x member => ne x (List.mem_cons_of_mem g member)
      have tail : [""].intercalate (h :: groups) ≠ [] := by
        have := ne h (by simp)
        cases groups <;> simp [this]
      rw [List.map_cons, List.map_cons, String.intercalate_cons_cons, ← List.map_cons, later,
        List.intercalate_cons_cons, List.append_assoc, joinLines_append hg (by simp),
        joinLines_append (by simp) tail]
      have blank : joinLines [""] = "" := by simp [joinLines]
      have two : "\n\n" = "\n" ++ "\n" := rfl
      simp only [blank, two, String.empty_append, String.append_assoc]

end Datalogger.Text
