import Datalogger.Proofs.Statement.Layout

/-!
Alignment of nested blocks. A statement is also a list of rows, each at the number of blocks that are
open around it. Its text has these rows as its lines, each behind four spaces for every open block, and
the plain lines among them are those of the statement, in order, at their depth.
-/

namespace Datalogger.Statement

open Text (OneLine joinLines indent)

/-- What stands on one line: a plain line, or what opens, divides or closes a block. -/
inductive Row where
  | leaf (text : String)
  | ifThen (condition : String)
  | elseIf (condition : String)
  | otherwise
  | endIf
  | forTo (counter first last : String) (step : Option String)
  | next (counter : String)
  deriving DecidableEq, Repr

namespace Row

def spelled : Row → String
  | leaf text => text
  | ifThen condition => "If " ++ condition ++ " Then"
  | elseIf condition => "ElseIf " ++ condition ++ " Then"
  | otherwise => "Else"
  | endIf => "EndIf"
  | forTo counter first last none => "For " ++ counter ++ " = " ++ first ++ " To " ++ last
  | forTo counter first last (some step) =>
    "For " ++ counter ++ " = " ++ first ++ " To " ++ last ++ " Step " ++ step
  | next counter => "Next " ++ counter

/-- A row behind four spaces for each block that is open around it. -/
def shown (r : Nat × Row) : String :=
  String.ofList (List.replicate (4 * r.1) ' ') ++ r.2.spelled

def leaf? : Nat × Row → Option (Nat × String)
  | (depth, leaf text) => some (depth, text)
  | _ => none

end Row

mutual

def rowsAt (depth : Nat) : Statement String → List (Nat × Row)
  | .line text => [(depth, .leaf text)]
  | .choice condition body rest =>
    (depth, .ifThen condition) :: bodyRowsAt (depth + 1) body ++ alternativeRowsAt depth rest ++
      [(depth, .endIf)]
  | .loop counter first last step body =>
    (depth, .forTo counter first last step) :: bodyRowsAt (depth + 1) body ++ [(depth, .next counter)]

def bodyRowsAt (depth : Nat) : List (Statement String) → List (Nat × Row)
  | [] => []
  | s :: rest => rowsAt depth s ++ bodyRowsAt depth rest

def alternativeRowsAt (depth : Nat) : Alternative String → List (Nat × Row)
  | .none => []
  | .otherwise body => (depth, .otherwise) :: bodyRowsAt (depth + 1) body
  | .elseIf condition body rest =>
    (depth, .elseIf condition) :: bodyRowsAt (depth + 1) body ++ alternativeRowsAt depth rest

end

mutual

/-- The plain lines of a statement, each with the number of blocks around it. -/
def leavesAt (depth : Nat) : Statement String → List (Nat × String)
  | .line text => [(depth, text)]
  | .choice _ body rest => bodyLeavesAt (depth + 1) body ++ alternativeLeavesAt (depth + 1) rest
  | .loop _ _ _ _ body => bodyLeavesAt (depth + 1) body

def bodyLeavesAt (depth : Nat) : List (Statement String) → List (Nat × String)
  | [] => []
  | s :: rest => leavesAt depth s ++ bodyLeavesAt depth rest

def alternativeLeavesAt (depth : Nat) : Alternative String → List (Nat × String)
  | .none => []
  | .otherwise body => bodyLeavesAt depth body
  | .elseIf _ body rest => bodyLeavesAt depth body ++ alternativeLeavesAt depth rest

end

mutual

theorem filterMap_leaf_rowsAt (depth : Nat) : ∀ s : Statement String,
    (rowsAt depth s).filterMap Row.leaf? = leavesAt depth s
  | .line _ => rfl
  | .choice _ body rest => by
    simp [rowsAt, leavesAt, Row.leaf?, List.filterMap_cons, filterMap_leaf_bodyRowsAt (depth + 1) body,
      filterMap_leaf_alternativeRowsAt depth rest]
  | .loop _ _ _ _ body => by
    simp [rowsAt, leavesAt, Row.leaf?, List.filterMap_cons, filterMap_leaf_bodyRowsAt (depth + 1) body]

theorem filterMap_leaf_bodyRowsAt (depth : Nat) : ∀ body : List (Statement String),
    (bodyRowsAt depth body).filterMap Row.leaf? = bodyLeavesAt depth body
  | [] => rfl
  | s :: rest => by
    rw [bodyRowsAt, List.filterMap_append, filterMap_leaf_rowsAt depth s,
      filterMap_leaf_bodyRowsAt depth rest, bodyLeavesAt]

theorem filterMap_leaf_alternativeRowsAt (depth : Nat) : ∀ a : Alternative String,
    (alternativeRowsAt depth a).filterMap Row.leaf? = alternativeLeavesAt (depth + 1) a
  | .none => rfl
  | .otherwise body => by
    simp [alternativeRowsAt, alternativeLeavesAt, Row.leaf?, List.filterMap_cons,
      filterMap_leaf_bodyRowsAt (depth + 1) body]
  | .elseIf _ body rest => by
    simp [alternativeRowsAt, alternativeLeavesAt, Row.leaf?, List.filterMap_cons,
      filterMap_leaf_bodyRowsAt (depth + 1) body, filterMap_leaf_alternativeRowsAt depth rest]

end

theorem spelled_forTo (counter first last : String) (step : Option String) :
    (Row.forTo counter first last step).spelled = loopHead counter first last step := by
  cases step <;> simp [Row.spelled, loopHead, String.append_assoc]

theorem shown_eq_atDepth {depth : Nat} {row : Row} {line : String} (same : row.spelled = line) :
    Row.shown (depth, row) = atDepth depth line := by
  rw [← same]
  rfl

mutual

theorem map_shown_rowsAt (depth : Nat) : ∀ s : Statement String,
    (rowsAt depth s).map Row.shown = linesAt depth s
  | .line _ => rfl
  | .choice condition body rest => by
    have head : Row.shown (depth, .ifThen condition) = atDepth depth (choiceHead condition) :=
      shown_eq_atDepth rfl
    have last : Row.shown (depth, .endIf) = atDepth depth "EndIf" := shown_eq_atDepth rfl
    simp [rowsAt, linesAt, head, last, map_shown_bodyRowsAt (depth + 1) body,
      map_shown_alternativeRowsAt depth rest]
  | .loop counter first last step body => by
    have head : Row.shown (depth, .forTo counter first last step) =
        atDepth depth (loopHead counter first last step) :=
      shown_eq_atDepth (spelled_forTo counter first last step)
    have closing : Row.shown (depth, .next counter) = atDepth depth ("Next " ++ counter) :=
      shown_eq_atDepth rfl
    simp [rowsAt, linesAt, head, closing, map_shown_bodyRowsAt (depth + 1) body]

theorem map_shown_bodyRowsAt (depth : Nat) : ∀ body : List (Statement String),
    (bodyRowsAt depth body).map Row.shown = bodyLinesAt depth body
  | [] => rfl
  | s :: rest => by
    rw [bodyRowsAt, List.map_append, map_shown_rowsAt depth s, map_shown_bodyRowsAt depth rest,
      bodyLinesAt]

theorem map_shown_alternativeRowsAt (depth : Nat) : ∀ a : Alternative String,
    (alternativeRowsAt depth a).map Row.shown = alternativeLinesAt depth a
  | .none => rfl
  | .otherwise body => by
    have head : Row.shown (depth, .otherwise) = atDepth depth "Else" := shown_eq_atDepth rfl
    simp [alternativeRowsAt, alternativeLinesAt, head, map_shown_bodyRowsAt (depth + 1) body]
  | .elseIf condition body rest => by
    have head : Row.shown (depth, .elseIf condition) = atDepth depth (elseIfHead condition) :=
      shown_eq_atDepth rfl
    simp [alternativeRowsAt, alternativeLinesAt, head, map_shown_bodyRowsAt (depth + 1) body,
      map_shown_alternativeRowsAt depth rest]

end

theorem lineText_of_mem_linesAt {depth : Nat} {l : String} {s : Statement String}
    (h : s.Every LineText OneLine OneLine) (member : l ∈ linesAt depth s) : LineText l := by
  obtain ⟨n, t, rfl, ht⟩ := exists_of_mem_linesAt heads_lineText h member
  exact ht.atDepth n

/-- If plain lines are not blank and nothing contains a line break, the text of a statement consists of its
rows, and so it does when the whole text is indented. The plain lines among the rows are those of the
statement, each once. -/
theorem aligned_at_every_depth {s : Statement String} (h : s.Every LineText OneLine OneLine) :
    s.text = joinLines ((rowsAt 0 s).map Row.shown) ∧
      Text.lines s.text = (rowsAt 0 s).map Row.shown ∧
      (∀ depth, indent s.text depth = joinLines ((rowsAt depth s).map Row.shown)) ∧
      ∀ depth, (rowsAt depth s).filterMap Row.leaf? = leavesAt depth s := by
  have lineTexts : ∀ l ∈ linesAt 0 s, LineText l := fun l member => lineText_of_mem_linesAt h member
  have last : (linesAt 0 s).getLast? ≠ some "" := fun bad =>
    (lineTexts "" (List.mem_of_getLast? bad)).ne_empty rfl
  simp only [map_shown_rowsAt, text_eq_joinLines h]
  refine ⟨trivial, Text.lines_joinLines (fun l member => (lineTexts l member).oneLine) last, ?_,
    fun depth => filterMap_leaf_rowsAt depth s⟩
  intro depth
  rw [indent_lineTexts lineTexts, ← linesAt_add depth 0 s, Nat.add_zero]

/-! An alarm that looks at three doors, with an arm that does nothing. -/

namespace DoorAlarm

def alarm : Statement String :=
  .choice "CheckPort(C4)"
    [.loop "i" "1" "5" (some "2")
      [.choice "timer(i) > 14400" [.line "door(i) = 0"]
        (.elseIf "muted" [] (.otherwise [.line "alert = 1", .line "count += 1"]))],
      .line "beep = alert"]
    .none

end DoorAlarm

open DoorAlarm in
theorem alarm_aligned :
    alarm.Every LineText OneLine OneLine ∧
      alarm.text = joinLines ["If CheckPort(C4) Then", "    For i = 1 To 5 Step 2",
        "        If timer(i) > 14400 Then", "            door(i) = 0", "        ElseIf muted Then",
        "        Else", "            alert = 1", "            count += 1", "        EndIf", "    Next i",
        "    beep = alert", "EndIf"] ∧
      (rowsAt 0 alarm).filterMap Row.leaf? =
        [(3, "door(i) = 0"), (3, "alert = 1"), (3, "count += 1"), (1, "beep = alert")] := by
  have plain : alarm.Every LineText OneLine OneLine := by
    have line : ∀ t ∈ ["door(i) = 0", "alert = 1", "count += 1", "beep = alert"], LineText t := by
      simp only [List.forall_mem_cons]
      exact ⟨⟨by decide, by decide⟩, ⟨by decide, by decide⟩, ⟨by decide, by decide⟩,
        ⟨by decide, by decide⟩, nofun⟩
    have part : ∀ t ∈ ["CheckPort(C4)", "i", "1", "5", "2", "timer(i) > 14400", "muted"], OneLine t := by
      decide
    simp [alarm, Every, EveryIn, EveryAlternative, line, part]
  obtain ⟨text, _, _, leaves⟩ := aligned_at_every_depth plain
  exact ⟨plain, text.trans (congrArg joinLines (by decide +kernel)), leaves 0⟩

end Datalogger.Statement
