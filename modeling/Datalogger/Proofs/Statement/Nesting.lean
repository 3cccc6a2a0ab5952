import Datalogger.Proofs.Blocks
import Datalogger.Proofs.Declarations
import Datalogger.Proofs.Statement.Layout

/-!
Nesting of statements. The lines of a statement open and close their blocks themselves, at any depth,
and none of them defines or calls a table or bounds a scan.
-/

namespace Datalogger

open Text (OneLine isBlank)

def keywords : List String :=
  Keyword.table.map Keyword.word ++ ["CallTable "]

structure PlainText (t : String) : Prop where
  oneLine : OneLine t
  visible : StartsVisibly t
  apart : ∀ k ∈ keywords, ¬ k.toList <+: t.toList

/-- A beginning that already tells a line from all keywords. -/
def tells (stem : String) : Bool :=
  startsVisibly stem && keywords.all fun k => parted k stem

theorem plainText_of_tells {stem rest : String} (clear : tells stem = true)
    (oneLine : OneLine (stem ++ rest)) : PlainText (stem ++ rest) := by
  rw [tells, Bool.and_eq_true] at clear
  obtain ⟨head, apart⟩ := clear
  refine ⟨oneLine, (StartsVisibly.of_test head).append rest, fun k member => ?_⟩
  exact not_prefix_of_parted (List.all_eq_true.1 apart k member) rest

theorem PlainText.of_tells {t : String} (clear : tells t = true) (oneLine : OneLine t) :
    PlainText t := by
  have whole := @plainText_of_tells t "" clear (by simpa using oneLine)
  simpa using whole

theorem PlainText.role_eq {t : String} (h : PlainText t) : role t.toList = .plain :=
  role_eq_plain fun _ member => h.apart _ (List.mem_append_left _ (List.mem_map_of_mem member))

theorem StartsVisibly.lineText {t : String} (h : StartsVisibly t) (one : OneLine t) :
    Statement.LineText t := by
  refine ⟨one, ?_⟩
  simpa [Statement.atDepth, Text.margin] using h.isBlankText_atDepth 0

theorem PlainText.lineText {t : String} (h : PlainText t) : Statement.LineText t :=
  h.visible.lineText h.oneLine

theorem startsVisibly_choiceHead (c : String) : StartsVisibly (Statement.choiceHead c) :=
  ((StartsVisibly.of_test (by decide) : StartsVisibly "If ").append c).append " Then"

theorem startsVisibly_elseIfHead (c : String) : StartsVisibly (Statement.elseIfHead c) :=
  ((StartsVisibly.of_test (by decide) : StartsVisibly "ElseIf ").append c).append " Then"

theorem startsVisibly_loopHead (counter first last : String) (step : Option String) :
    StartsVisibly (Statement.loopHead counter first last step) := by
  have front : StartsVisibly "For " := StartsVisibly.of_test (by decide)
  exact ((((front.append counter).append " = ").append first).append " To ").append last |>.append _

theorem startsVisibly_next (counter : String) : StartsVisibly ("Next " ++ counter) :=
  (StartsVisibly.of_test (by decide)).append counter

theorem endsInThen_append (r : Role) (c : String) :
    endsInThen r (c ++ " Then").toList = some r := by
  refine if_pos (List.isSuffixOf_iff_suffix.2 ?_)
  rw [String.toList_append]
  exact List.suffix_append c.toList _

theorem role_choiceHead (c : String) :
    role (Statement.choiceHead c).toList = .opens .choice := by
  have means := endsInThen_append (.opens .choice) c
  have found : Keyword.table[10]? = some ⟨"If ", endsInThen (.opens .choice)⟩ := rfl
  have read := role_append found (by decide) means
  rwa [Statement.choiceHead, String.append_assoc]

theorem role_elseIfHead (c : String) : role (Statement.elseIfHead c).toList = .arm := by
  have means := endsInThen_append .arm c
  have found : Keyword.table[11]? = some ⟨"ElseIf ", endsInThen .arm⟩ := rfl
  have read := role_append found (by decide) means
  rwa [Statement.elseIfHead, String.append_assoc]

theorem Word.firstWord_append {counter : String} (h : Word counter) (rest : List Char) :
    firstWord (counter.toList ++ ' ' :: rest) = counter := by
  have word : ∀ c ∈ counter.toList, (c != ' ') = true := by
    intro c member
    have space : c ≠ ' ' := isWordChar_ne (h.chars c member) (by decide)
    simp [space]
  rw [firstWord, takeWhile_name word (by simp), String.ofList_toList]

theorem role_loopHead {counter : String} (h : Word counter) (first last : String)
    (step : Option String) :
    role (Statement.loopHead counter first last step).toList = .opens (.loop counter) := by
  let bounds := "= " ++ first ++ " To " ++ last ++ step.elim "" (" Step " ++ ·)
  have same : Statement.loopHead counter first last step =
      "For " ++ (counter ++ (" " ++ bounds)) := by
    simp only [Statement.loopHead, bounds, String.append_assoc]
    rfl
  have means : (some (.opens (.loop (firstWord (counter ++ (" " ++ bounds)).toList))) : Option Role) =
      some (.opens (.loop counter)) := by
    rw [String.toList_append, String.toList_append]
    exact congrArg (fun name => some (Role.opens (.loop name))) (h.firstWord_append bounds.toList)
  have found : Keyword.table[8]? =
      some ⟨"For ", fun rest => some (.opens (.loop (firstWord rest)))⟩ := rfl
  have read := role_append found (by decide) means
  rwa [same]

theorem role_next (counter : String) :
    role ("Next " ++ counter).toList = .closes (.loop counter) := by
  have means : (some (.closes (.loop (String.ofList counter.toList))) : Option Role) =
      some (.closes (.loop counter)) := by
    rw [String.ofList_toList]
  have found : Keyword.table[9]? =
      some ⟨"Next ", fun rest => some (.closes (.loop (String.ofList rest)))⟩ := rfl
  have read := role_append found (by decide) means
  exact read

namespace Statement

mutual

theorem balanced_linesAt {depth : Nat} : ∀ {s : Statement String},
    s.Every PlainText OneLine Word → Balanced depth (linesAt depth s)
  | .line t, h => by
    refine .of_forall fun l member stack deep => ?_
    rw [linesAt, List.mem_singleton] at member
    rw [member]
    exact readLine_plain h.visible h.role_eq deep
  | .choice condition body rest, ⟨_, hb, hr⟩ => by
    have arms : ∀ stack : List Block, stack.length = depth →
        readLines (.choice :: stack) (bodyLinesAt (depth + 1) body ++ alternativeLinesAt depth rest) =
          some (.choice :: stack) := by
      intro stack deep
      rw [readLines_append, (balanced_bodyLinesAt hb).inside .choice stack deep]
      exact readLines_alternative hr stack deep
    have whole := Balanced.block (startsVisibly_choiceHead condition) (role_choiceHead condition)
      (StartsVisibly.of_test (by decide) : StartsVisibly "EndIf") (by decide) arms
    simpa [linesAt] using whole
  | .loop counter first last step body, ⟨hc, _, _, _, hb⟩ => by
    have inner : Balanced (depth + 1) (bodyLinesAt (depth + 1) body) := balanced_bodyLinesAt hb
    have whole := Balanced.block (startsVisibly_loopHead counter first last step)
      (role_loopHead hc first last step) (startsVisibly_next counter) (role_next counter)
      (inner.inside (.loop counter))
    simpa [linesAt] using whole

theorem balanced_bodyLinesAt {depth : Nat} : ∀ {body : List (Statement String)},
    EveryIn PlainText OneLine Word body → Balanced depth (bodyLinesAt depth body)
  | [], _ => .nil depth
  | _ :: _, ⟨hs, hr⟩ => (balanced_linesAt hs).append (balanced_bodyLinesAt hr)

theorem readLines_alternative {depth : Nat} : ∀ {a : Alternative String},
    EveryAlternative PlainText OneLine Word a → ∀ stack : List Block, stack.length = depth →
      readLines (.choice :: stack) (alternativeLinesAt depth a) = some (.choice :: stack)
  | .none, _ => fun _ _ => rfl
  | .otherwise body, hb => by
    intro stack deep
    have arm : readLine (.choice :: stack) (atDepth depth "Else") = some (.choice :: stack) :=
      readLine_arm (StartsVisibly.of_test (by decide)) (by decide) deep
    rw [alternativeLinesAt, readLines, arm]
    exact (balanced_bodyLinesAt hb).inside .choice stack deep
  | .elseIf condition body rest, ⟨_, hb, hr⟩ => by
    intro stack deep
    have arm : readLine (.choice :: stack) (atDepth depth (elseIfHead condition)) =
        some (.choice :: stack) :=
      readLine_arm (startsVisibly_elseIfHead condition) (role_elseIfHead condition) deep
    rw [alternativeLinesAt, List.cons_append, readLines, arm, Option.bind_some, readLines_append,
      (balanced_bodyLinesAt hb).inside .choice stack deep]
    exact readLines_alternative hr stack deep

end

end Statement

/-- Beginnings of the lines that define a table, call one, or bound a scan. -/
def structural : List String :=
  ["DataTable(", "CallTable ", "Scan(", "NextScan"]

def Ordinary (line : String) : Prop :=
  ∀ k ∈ structural, ¬ k.toList <+: content line

structure OrdinaryText (t : String) : Prop where
  visible : StartsVisibly t
  apart : ∀ k ∈ structural, ¬ k.toList <+: t.toList

theorem OrdinaryText.ordinary {t : String} (h : OrdinaryText t) (depth : Nat) :
    Ordinary (Statement.atDepth depth t) := by
  intro k member front
  rw [h.visible.content_atDepth] at front
  exact h.apart k member front

theorem PlainText.ordinaryText {t : String} (h : PlainText t) : OrdinaryText t := by
  have known : ∀ k ∈ structural, k ∈ keywords := by decide
  exact ⟨h.visible, fun k member => h.apart k (known k member)⟩

theorem heads_ordinaryText : Statement.HeadsHave OrdinaryText OneLine Word where
  choice c _ := ⟨startsVisibly_choiceHead c, by simp [structural, Statement.choiceHead]⟩
  elseIf c _ := ⟨startsVisibly_elseIfHead c, by simp [structural, Statement.elseIfHead]⟩
  otherwise := ⟨StartsVisibly.of_test (by decide), by decide⟩
  endIf := ⟨StartsVisibly.of_test (by decide), by decide⟩
  loop counter first last step _ _ _ _ :=
    ⟨startsVisibly_loopHead counter first last step, by simp [structural, Statement.loopHead]⟩
  next counter _ := ⟨startsVisibly_next counter, by simp [structural]⟩

theorem ordinary_of_mem_bodyLinesAt {depth : Nat} {l : String} {body : List (Statement String)}
    (h : Statement.EveryIn PlainText OneLine Word body)
    (member : l ∈ Statement.bodyLinesAt depth body) : Ordinary l := by
  have every := h.imp (fun _ plain => plain.ordinaryText) (fun _ part => part) fun _ name => name
  obtain ⟨n, t, rfl, ht⟩ := Statement.exists_of_mem_bodyLinesAt heads_ordinaryText every member
  exact ht.ordinary n

end Datalogger
