import Datalogger.Body

/-!
Statements of a program: plain lines, choices and loops, nested to any depth. `Statement.text` lays a
statement out block by block, indenting a finished body as a whole; `Statement.linesAt` writes the
same lines directly at their depth and is what the layout is measured against.
-/

namespace Datalogger

open Text (joinLines)

mutual

/-- A statement whose texts are of type `α`. -/
inductive Statement (α : Type) where
  | line (text : α)
  | choice (condition : α) (body : List (Statement α)) (rest : Alternative α)
  | loop (counter first last : α) (step : Option α) (body : List (Statement α))

inductive Alternative (α : Type) where
  | none
  | otherwise (body : List (Statement α))
  | elseIf (condition : α) (body : List (Statement α)) (rest : Alternative α)

end

namespace Statement

variable {α : Type}

def ifThen (condition : α) (body : List (Statement α)) : Statement α :=
  .choice condition body .none

def ifThenElse (condition : α) (body other : List (Statement α)) : Statement α :=
  .choice condition body (.otherwise other)

def loopHead (counter first last : String) (step : Option String) : String :=
  "For " ++ counter ++ " = " ++ first ++ " To " ++ last ++ step.elim "" (" Step " ++ ·)

def choiceHead (condition : String) : String :=
  "If " ++ condition ++ " Then"

def elseIfHead (condition : String) : String :=
  "ElseIf " ++ condition ++ " Then"

mutual

def text : Statement String → String
  | .line t => t
  | .choice condition body rest =>
    joinLines (choiceHead condition :: Body.inset ⟨texts body⟩ ++ alternativeTexts rest ++ ["EndIf"])
  | .loop counter first last step body =>
    joinLines (loopHead counter first last step :: Body.inset ⟨texts body⟩ ++ ["Next " ++ counter])

def texts : List (Statement String) → List String
  | [] => []
  | s :: rest => text s :: texts rest

def alternativeTexts : Alternative String → List String
  | .none => []
  | .otherwise body => "Else" :: Body.inset ⟨texts body⟩
  | .elseIf condition body rest =>
    elseIfHead condition :: Body.inset ⟨texts body⟩ ++ alternativeTexts rest

end

def atDepth (depth : Nat) (line : String) : String :=
  String.ofList (Text.margin depth) ++ line

mutual

/-- The lines of a statement at a depth, each preceded by four spaces a step. -/
def linesAt (depth : Nat) : Statement String → List String
  | .line t => [atDepth depth t]
  | .choice condition body rest =>
    atDepth depth (choiceHead condition) :: bodyLinesAt (depth + 1) body ++
      alternativeLinesAt depth rest ++ [atDepth depth "EndIf"]
  | .loop counter first last step body =>
    atDepth depth (loopHead counter first last step) :: bodyLinesAt (depth + 1) body ++
      [atDepth depth ("Next " ++ counter)]

def bodyLinesAt (depth : Nat) : List (Statement String) → List String
  | [] => []
  | s :: rest => linesAt depth s ++ bodyLinesAt depth rest

def alternativeLinesAt (depth : Nat) : Alternative String → List String
  | .none => []
  | .otherwise body => atDepth depth "Else" :: bodyLinesAt (depth + 1) body
  | .elseIf condition body rest =>
    atDepth depth (elseIfHead condition) :: bodyLinesAt (depth + 1) body ++
      alternativeLinesAt depth rest

end

mutual

/-- Makes every text of a statement final, from top to bottom; the first failure is the result. -/
def mapM {α β ε : Type} (f : α → Except ε β) : Statement α → Except ε (Statement β)
  | .line t => do return .line (← f t)
  | .choice condition body rest => do
    let condition ← f condition
    let body ← mapMList f body
    return .choice condition body (← mapMAlternative f rest)
  | .loop counter first last step body => do
    let counter ← f counter
    let first ← f first
    let last ← f last
    let step ← step.mapM f
    return .loop counter first last step (← mapMList f body)

def mapMList {α β ε : Type} (f : α → Except ε β) :
    List (Statement α) → Except ε (List (Statement β))
  | [] => .ok []
  | s :: rest => do
    let s ← mapM f s
    return s :: (← mapMList f rest)

def mapMAlternative {α β ε : Type} (f : α → Except ε β) :
    Alternative α → Except ε (Alternative β)
  | .none => .ok .none
  | .otherwise body => do return .otherwise (← mapMList f body)
  | .elseIf condition body rest => do
    let condition ← f condition
    let body ← mapMList f body
    return .elseIf condition body (← mapMAlternative f rest)

end

def condition (parts : List String) : String :=
  " ".intercalate parts

end Statement

end Datalogger
