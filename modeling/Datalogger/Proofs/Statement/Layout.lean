import Datalogger.Proofs.Statement.Every
import Datalogger.Proofs.Text.LineBreaks

/-!
The layout of statements. Indenting finished bodies as a whole, block by block, gives the lines that
`linesAt` writes directly at their depth, as long as plain lines are not blank and nothing contains a
line break.
-/

namespace Datalogger.Statement

open Text (OneLine Spells isBlankText isBlankText_append oneLine_margin joinLines indent indentLine margin)

structure LineText (t : String) : Prop where
  oneLine : OneLine t
  visible : isBlankText t = false

theorem LineText.append_left {a b : String} (ha : OneLine a) (hb : LineText b) :
    LineText (a ++ b) :=
  ⟨Text.oneLine_append.2 ⟨ha, hb.oneLine⟩, by rw [isBlankText_append, hb.visible, Bool.and_false]⟩

theorem LineText.append_right {a b : String} (ha : LineText a) (hb : OneLine b) :
    LineText (a ++ b) :=
  ⟨Text.oneLine_append.2 ⟨ha.oneLine, hb⟩, by rw [isBlankText_append, ha.visible, Bool.false_and]⟩

theorem LineText.ne_empty {t : String} (h : LineText t) : t ≠ "" := by
  rintro rfl
  simpa [isBlankText] using h.visible

theorem LineText.atDepth {t : String} (h : LineText t) (depth : Nat) :
    LineText (atDepth depth t) :=
  append_left (oneLine_margin depth) h

theorem atDepth_add (n depth : Nat) (t : String) :
    atDepth (n + depth) t = atDepth n (atDepth depth t) := by
  simp [atDepth, Text.margin_add, String.append_assoc]

theorem indentLine_eq_atDepth {t : String} (h : LineText t) (n : Nat) :
    indentLine n t = atDepth n t :=
  Text.indentLine_of_not_blank n h.visible

theorem map_indentLine {ls : List String} (h : ∀ l ∈ ls, LineText l) (n : Nat) :
    ls.map (indentLine n) = ls.map (atDepth n) :=
  List.map_congr_left fun l member => indentLine_eq_atDepth (h l member) n

theorem joinLines_ne_empty {ls : List String} (h : ∀ l ∈ ls, LineText l) (ne : ls ≠ []) :
    joinLines ls ≠ "" := by
  intro empty
  rcases Text.joinLines_eq_empty_iff.1 empty with none | single
  · exact ne none
  · exact (h "" (by simp [single])).ne_empty rfl

theorem indent_lineTexts {ls : List String} (h : ∀ l ∈ ls, LineText l) (n : Nat) :
    indent (joinLines ls) n = joinLines (ls.map (atDepth n)) := by
  have last : ls.getLast? ≠ some "" := fun bad => (h "" (List.mem_of_getLast? bad)).ne_empty rfl
  rw [Text.indent_joinLines (fun l member => (h l member).oneLine) last, map_indentLine h]

theorem indent_lineText {t : String} (h : LineText t) (n : Nat) : indent t n = atDepth n t := by
  have single : ∀ l ∈ [t], LineText l := by simpa using h
  simpa [joinLines] using indent_lineTexts single n

theorem lineText_choiceHead {c : String} (h : OneLine c) : LineText (choiceHead c) :=
  (LineText.append_right ⟨by decide, by decide⟩ h).append_right (by decide)

theorem lineText_elseIfHead {c : String} (h : OneLine c) : LineText (elseIfHead c) :=
  (LineText.append_right ⟨by decide, by decide⟩ h).append_right (by decide)

theorem lineText_loopHead {counter first last : String} {step : Option String}
    (hc : OneLine counter) (hf : OneLine first) (hl : OneLine last) (hs : ∀ s ∈ step, OneLine s) :
    LineText (loopHead counter first last step) := by
  have clause : OneLine (step.elim "" (" Step " ++ ·)) := by
    cases step with
    | none => exact Text.oneLine_empty
    | some s => exact Text.oneLine_append.2 ⟨by decide, hs s rfl⟩
  have front : LineText ("For " ++ counter) := .append_right ⟨by decide, by decide⟩ hc
  exact ((((front.append_right (by decide)).append_right hf).append_right (by decide)).append_right
    hl).append_right clause

theorem lineText_next {counter : String} (h : OneLine counter) : LineText ("Next " ++ counter) :=
  .append_right ⟨by decide, by decide⟩ h

mutual

/-- A statement that stands deeper has the same lines with a wider margin. -/
theorem linesAt_add (n depth : Nat) : ∀ s : Statement String,
    linesAt (n + depth) s = (linesAt depth s).map (atDepth n)
  | .line t => by simp [linesAt, atDepth_add]
  | .choice condition body rest => by
    simp [linesAt, atDepth_add, Nat.add_assoc, bodyLinesAt_add n (depth + 1) body,
      alternativeLinesAt_add n depth rest]
  | .loop counter first last step body => by
    simp [linesAt, atDepth_add, Nat.add_assoc, bodyLinesAt_add n (depth + 1) body]

theorem bodyLinesAt_add (n depth : Nat) : ∀ body : List (Statement String),
    bodyLinesAt (n + depth) body = (bodyLinesAt depth body).map (atDepth n)
  | [] => rfl
  | s :: rest => by simp [bodyLinesAt, linesAt_add n depth s, bodyLinesAt_add n depth rest]

theorem alternativeLinesAt_add (n depth : Nat) : ∀ a : Alternative String,
    alternativeLinesAt (n + depth) a = (alternativeLinesAt depth a).map (atDepth n)
  | .none => rfl
  | .otherwise body => by
    simp [alternativeLinesAt, atDepth_add, Nat.add_assoc, bodyLinesAt_add n (depth + 1) body]
  | .elseIf condition body rest => by
    simp [alternativeLinesAt, atDepth_add, Nat.add_assoc, bodyLinesAt_add n (depth + 1) body,
      alternativeLinesAt_add n depth rest]

end

structure HeadsHave (line part name : String → Prop) : Prop where
  choice : ∀ c, part c → line (choiceHead c)
  elseIf : ∀ c, part c → line (elseIfHead c)
  otherwise : line "Else"
  endIf : line "EndIf"
  loop : ∀ counter first last step, name counter → part first → part last → (∀ s ∈ step, part s) →
    line (loopHead counter first last step)
  next : ∀ counter, name counter → line ("Next " ++ counter)

section EveryLine

variable {line part name : String → Prop}

mutual

theorem exists_of_mem_linesAt (heads : HeadsHave line part name) {depth : Nat} {l : String} :
    ∀ {s : Statement String}, s.Every line part name → l ∈ linesAt depth s →
      ∃ n t, l = atDepth n t ∧ line t
  | .line t, h, member => by
    rw [linesAt, List.mem_singleton] at member
    exact ⟨depth, t, member, h⟩
  | .choice condition body rest, ⟨hc, hb, hr⟩, member => by
    simp only [linesAt, List.mem_append, List.mem_cons, List.not_mem_nil, or_false] at member
    rcases member with ((rfl | member) | member) | rfl
    · exact ⟨depth, _, rfl, heads.choice condition hc⟩
    · exact exists_of_mem_bodyLinesAt heads hb member
    · exact exists_of_mem_alternativeLinesAt heads hr member
    · exact ⟨depth, _, rfl, heads.endIf⟩
  | .loop counter first last step body, ⟨hc, hf, hl, hs, hb⟩, member => by
    simp only [linesAt, List.mem_append, List.mem_cons, List.not_mem_nil, or_false] at member
    rcases member with (rfl | member) | rfl
    · exact ⟨depth, _, rfl, heads.loop counter first last step hc hf hl hs⟩
    · exact exists_of_mem_bodyLinesAt heads hb member
    · exact ⟨depth, _, rfl, heads.next counter hc⟩

theorem exists_of_mem_bodyLinesAt (heads : HeadsHave line part name) {depth : Nat} {l : String} :
    ∀ {body : List (Statement String)}, EveryIn line part name body → l ∈ bodyLinesAt depth body →
      ∃ n t, l = atDepth n t ∧ line t
  | [], _, member => by simp [bodyLinesAt] at member
  | s :: rest, ⟨hs, hr⟩, member => by
    rw [bodyLinesAt, List.mem_append] at member
    rcases member with member | member
    · exact exists_of_mem_linesAt heads hs member
    · exact exists_of_mem_bodyLinesAt heads hr member

theorem exists_of_mem_alternativeLinesAt (heads : HeadsHave line part name) {depth : Nat}
    {l : String} : ∀ {a : Alternative String}, EveryAlternative line part name a →
      l ∈ alternativeLinesAt depth a → ∃ n t, l = atDepth n t ∧ line t
  | .none, _, member => by simp [alternativeLinesAt] at member
  | .otherwise body, hb, member => by
    rw [alternativeLinesAt, List.mem_cons] at member
    rcases member with rfl | member
    · exact ⟨depth, _, rfl, heads.otherwise⟩
    · exact exists_of_mem_bodyLinesAt heads hb member
  | .elseIf condition body rest, ⟨hc, hb, hr⟩, member => by
    simp only [alternativeLinesAt, List.mem_append, List.mem_cons] at member
    rcases member with (rfl | member) | member
    · exact ⟨depth, _, rfl, heads.elseIf condition hc⟩
    · exact exists_of_mem_bodyLinesAt heads hb member
    · exact exists_of_mem_alternativeLinesAt heads hr member

end

end EveryLine

theorem heads_lineText : HeadsHave LineText OneLine OneLine where
  choice _ h := lineText_choiceHead h
  elseIf _ h := lineText_elseIfHead h
  otherwise := ⟨by decide, by decide⟩
  endIf := ⟨by decide, by decide⟩
  loop _ _ _ _ hc hf hl hs := lineText_loopHead hc hf hl hs
  next _ h := lineText_next h

theorem lineText_of_mem_bodyLinesAt {depth : Nat} {l : String} {body : List (Statement String)}
    (h : EveryIn LineText OneLine OneLine body) (member : l ∈ bodyLinesAt depth body) :
    LineText l := by
  obtain ⟨n, t, rfl, ht⟩ := exists_of_mem_bodyLinesAt heads_lineText h member
  exact ht.atDepth n

theorem linesAt_ne_nil (depth : Nat) (s : Statement String) : linesAt depth s ≠ [] := by
  cases s <;> simp [linesAt]

/-- A finished body stands in its block as the lines of its statements one step deeper. -/
theorem inset_spells {body : List (Statement String)} (h : EveryIn LineText OneLine OneLine body)
    (inner : Spells (texts body) (bodyLinesAt 0 body)) :
    Spells (Body.inset ⟨texts body⟩) (bodyLinesAt 1 body) := by
  cases body with
  | nil => exact .nil
  | cons s rest =>
    have all : ∀ l ∈ bodyLinesAt 0 (s :: rest), LineText l :=
      fun l member => lineText_of_mem_bodyLinesAt h member
    have filled : texts (s :: rest) ≠ [] := by simp [texts]
    have deeper := bodyLinesAt_add 1 0 (s :: rest)
    have ne : bodyLinesAt 1 (s :: rest) ≠ [] := by
      rw [deeper]
      simpa using inner.ne_nil filled
    rw [Body.inset_of_ne_nil filled, inner.joinLines_eq, indent_lineTexts all, ← deeper]
    exact .single ne

mutual

theorem text_eq_joinLines : ∀ {s : Statement String}, s.Every LineText OneLine OneLine →
    text s = joinLines (linesAt 0 s)
  | .line t, _ => by simp [text, linesAt, atDepth, joinLines, margin]
  | .choice condition body rest, ⟨_, hb, hr⟩ => by
    have inner := inset_spells hb (texts_spells hb)
    have arms := alternativeTexts_spells hr
    have whole := ((Spells.line (choiceHead condition)).append inner).append
      (arms.append (Spells.line "EndIf"))
    have same := whole.joinLines_eq
    simpa [text, linesAt, atDepth, margin] using same
  | .loop counter first last step body, ⟨_, _, _, _, hb⟩ => by
    have inner := inset_spells hb (texts_spells hb)
    have whole := ((Spells.line (loopHead counter first last step)).append inner).append
      (Spells.line ("Next " ++ counter))
    have same := whole.joinLines_eq
    simpa [text, linesAt, atDepth, margin] using same

theorem texts_spells : ∀ {body : List (Statement String)}, EveryIn LineText OneLine OneLine body →
    Spells (texts body) (bodyLinesAt 0 body)
  | [], _ => .nil
  | s :: rest, ⟨hs, hr⟩ => by
    rw [texts, bodyLinesAt, text_eq_joinLines hs]
    exact (Spells.single (linesAt_ne_nil 0 s)).append (texts_spells hr)

theorem alternativeTexts_spells : ∀ {a : Alternative String},
    EveryAlternative LineText OneLine OneLine a → Spells (alternativeTexts a) (alternativeLinesAt 0 a)
  | .none, _ => .nil
  | .otherwise body, hb => by
    have inner := inset_spells hb (texts_spells hb)
    simpa [alternativeTexts, alternativeLinesAt, atDepth, margin] using inner.cons "Else"
  | .elseIf condition body rest, ⟨_, hb, hr⟩ => by
    have inner := inset_spells hb (texts_spells hb)
    have later := alternativeTexts_spells hr
    simpa [alternativeTexts, alternativeLinesAt, atDepth, margin] using
      (inner.append later).cons (elseIfHead condition)

end

end Datalogger.Statement
