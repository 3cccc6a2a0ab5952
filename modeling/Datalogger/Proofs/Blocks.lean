import Datalogger.Proofs.Text.Bytes
import Datalogger.Statement
import Datalogger.Text.Indent
import Mathlib.Data.List.Basic

/-!
Blocks, read off the lines of a program. A line opens a block, closes one, stands between two arms of a
choice, or is plain. Lines are read in order with the blocks that are open; the reading fails at a line
that closes another block than the innermost one or that stands too far to the left or right.
-/

namespace Datalogger

open Text (isBlank isBlankText margin)

inductive Block where
  | table
  | function
  | program
  | scan
  | loop (counter : String)
  | choice
  deriving DecidableEq, Repr

inductive Role where
  | opens (b : Block)
  | arm
  | closes (b : Block)
  | plain
  deriving DecidableEq, Repr

/-- A word that a line can begin with, and the role of the line, which may depend on how it goes on. -/
structure Keyword where
  word : String
  role? : List Char → Option Role

def alone (r : Role) (rest : List Char) : Option Role :=
  if rest = [] then some r else none

def endsInThen (r : Role) (rest : List Char) : Option Role :=
  if " Then".toList.isSuffixOf rest then some r else none

def firstWord (cs : List Char) : String :=
  String.ofList (cs.takeWhile (· != ' '))

namespace Keyword

def table : List Keyword :=
  [⟨"DataTable(", fun _ => some (.opens .table)⟩,
    ⟨"EndTable", alone (.closes .table)⟩,
    ⟨"Function ", fun _ => some (.opens .function)⟩,
    ⟨"EndFunction", alone (.closes .function)⟩,
    ⟨"BeginProg", alone (.opens .program)⟩,
    ⟨"EndProg", alone (.closes .program)⟩,
    ⟨"Scan(", fun _ => some (.opens .scan)⟩,
    ⟨"NextScan", alone (.closes .scan)⟩,
    ⟨"For ", fun rest => some (.opens (.loop (firstWord rest)))⟩,
    ⟨"Next ", fun rest => some (.closes (.loop (String.ofList rest)))⟩,
    ⟨"If ", endsInThen (.opens .choice)⟩,
    ⟨"ElseIf ", endsInThen .arm⟩,
    ⟨"Else", alone .arm⟩,
    ⟨"EndIf", alone (.closes .choice)⟩]

def read (cs : List Char) (k : Keyword) : Option Role :=
  (k.word.toList.isPrefixOf? cs).bind k.role?

theorem read_eq_none {cs : List Char} {k : Keyword} (h : ¬ k.word.toList <+: cs) :
    read cs k = none := by
  unfold read
  cases found : k.word.toList.isPrefixOf? cs with
  | none => rfl
  | some rest => exact absurd ⟨rest, List.isPrefixOf?_eq_some_iff_append_eq.1 found⟩ h

end Keyword

def role (cs : List Char) : Role :=
  (Keyword.table.findSome? (Keyword.read cs)).getD .plain

theorem role_eq_plain {cs : List Char} (h : ∀ k ∈ Keyword.table, ¬ k.word.toList <+: cs) :
    role cs = .plain := by
  have none : Keyword.table.findSome? (Keyword.read cs) = none :=
    List.findSome?_eq_none_iff.2 fun k member => Keyword.read_eq_none (h k member)
  rw [role, none, Option.getD_none]

/-- Neither text begins with the other, which the first byte where they differ shows. -/
def parted (a b : String) : Bool :=
  !(Text.bytes a).isPrefixOf (Text.bytes b) && !(Text.bytes b).isPrefixOf (Text.bytes a)

theorem not_prefix_of_parted {word stem : String} (h : parted word stem = true) (rest : String) :
    ¬ word.toList <+: (stem ++ rest).toList := by
  simp only [parted, Bool.and_eq_true, Bool.not_eq_true'] at h
  obtain ⟨longer, shorter⟩ := h
  intro front
  rw [String.toList_append] at front
  rcases List.prefix_or_prefix_of_prefix front (List.prefix_append stem.toList rest.toList) with
    within | beyond
  · rw [List.isPrefixOf_iff_prefix.2 (Text.bytes_prefix within)] at longer
    cases longer
  · rw [List.isPrefixOf_iff_prefix.2 (Text.bytes_prefix beyond)] at shorter
    cases shorter

theorem role_append {position : Nat} {k : Keyword} {rest : String} {r : Role}
    (found : Keyword.table[position]? = some k)
    (clear : ((Keyword.table.take position).all fun j => parted j.word k.word) = true)
    (means : k.role? rest.toList = some r) : role (k.word ++ rest).toList = r := by
  obtain ⟨below, same⟩ := List.getElem?_eq_some_iff.1 found
  have earlier : (Keyword.table.take position).findSome? (Keyword.read (k.word ++ rest).toList) =
      none := by
    refine List.findSome?_eq_none_iff.2 fun j member => Keyword.read_eq_none ?_
    exact not_prefix_of_parted (List.all_eq_true.1 clear j member) rest
  have here : Keyword.read (k.word ++ rest).toList k = some r := by
    have after : k.word.toList.isPrefixOf? (k.word ++ rest).toList = some rest.toList := by
      rw [String.toList_append, List.isPrefixOf?_eq_some_iff_append_eq]
    rw [Keyword.read, after, Option.bind_some, means]
  rw [role, ← List.take_append_drop position Keyword.table, List.findSome?_append, earlier,
    List.drop_eq_getElem_cons below, same, List.findSome?_cons, here]
  rfl

def content (line : String) : List Char :=
  line.toList.dropWhile isBlank

/-- The margin is four spaces for each of so many blocks. -/
def isAligned (depth : Nat) (line : String) : Bool :=
  line.toList.takeWhile isBlank == margin depth

/-- The blocks that are open after a line; openers, arms and closers stand at the level of their block. -/
def apply (r : Role) (standsAt : Nat → Bool) (stack : List Block) : Option (List Block) :=
  match r, stack with
  | .plain, _ => if standsAt stack.length then some stack else none
  | .opens b, _ => if standsAt stack.length then some (b :: stack) else none
  | .arm, .choice :: rest => if standsAt rest.length then some stack else none
  | .closes b, top :: rest => if b = top && standsAt rest.length then some rest else none
  | _, _ => none

def readLine (stack : List Block) (line : String) : Option (List Block) :=
  if line = "" then some stack
  else if isBlankText line then none
  else apply (role (content line)) (isAligned · line) stack

def readLines : List Block → List String → Option (List Block)
  | stack, [] => some stack
  | stack, l :: ls => (readLine stack l).bind fun s => readLines s ls

theorem readLines_append (stack : List Block) (a b : List String) :
    readLines stack (a ++ b) = (readLines stack a).bind fun s => readLines s b := by
  induction a generalizing stack with
  | nil => rfl
  | cons l a ih =>
    rw [List.cons_append, readLines, readLines, Option.bind_assoc]
    exact congrArg _ (funext fun s => ih s)

/-- The lines open and close their blocks themselves, inside so many others. -/
def Balanced (depth : Nat) (ls : List String) : Prop :=
  ∀ stack : List Block, stack.length = depth → readLines stack ls = some stack

namespace Balanced

theorem nil (depth : Nat) : Balanced depth [] := fun _ _ => rfl

theorem append {depth : Nat} {a b : List String} (ha : Balanced depth a) (hb : Balanced depth b) :
    Balanced depth (a ++ b) := by
  intro stack deep
  rw [readLines_append, ha stack deep]
  exact hb stack deep

theorem of_forall {depth : Nat} {ls : List String}
    (each : ∀ l ∈ ls, ∀ stack : List Block, stack.length = depth → readLine stack l = some stack) :
    Balanced depth ls := by
  intro stack deep
  induction ls with
  | nil => rfl
  | cons l ls ih =>
    rw [readLines, each l List.mem_cons_self stack deep]
    exact ih fun x member => each x (List.mem_cons_of_mem l member)

theorem blank (depth : Nat) : Balanced depth [""] := fun _ _ => rfl

end Balanced

def StartsVisibly (t : String) : Prop :=
  ∃ c cs, t.toList = c :: cs ∧ isBlank c = false

/-- A test that settles the matter for texts that begin with ASCII. -/
def startsVisibly (t : String) : Bool :=
  (Text.bytes t).head?.any fun n => n < 128 && !isBlank (Char.ofNat n)

theorem StartsVisibly.of_test {t : String} (passed : startsVisibly t = true) : StartsVisibly t := by
  obtain ⟨n, first, clear⟩ := (Option.any_eq_true ..).1 passed
  rw [Bool.and_eq_true, decide_eq_true_eq, Bool.not_eq_true'] at clear
  have head := Text.head?_eq_of_bytes first clear.1
  obtain ⟨cs, chars⟩ := List.head?_eq_some_iff.1 head
  exact ⟨Char.ofNat n, cs, chars, clear.2⟩

theorem StartsVisibly.append {a : String} (h : StartsVisibly a) (b : String) :
    StartsVisibly (a ++ b) := by
  obtain ⟨c, cs, chars, visible⟩ := h
  exact ⟨c, cs ++ b.toList, by simp [chars], visible⟩

theorem isBlank_of_mem_margin {depth : Nat} {c : Char} (member : c ∈ margin depth) :
    isBlank c = true := by
  rw [List.eq_of_mem_replicate member]
  decide

theorem StartsVisibly.isAligned_atDepth {t : String} (h : StartsVisibly t) (depth : Nat) :
    isAligned depth (Statement.atDepth depth t) = true := by
  obtain ⟨c, cs, chars, visible⟩ := h
  have front : (margin depth ++ c :: cs).takeWhile isBlank = margin depth := by
    rw [List.takeWhile_append_of_pos fun x member => isBlank_of_mem_margin member]
    simp [visible]
  simp [isAligned, Statement.atDepth, chars, front]

theorem StartsVisibly.content_atDepth {t : String} (h : StartsVisibly t) (depth : Nat) :
    content (Statement.atDepth depth t) = t.toList := by
  obtain ⟨c, cs, chars, visible⟩ := h
  rw [content, Statement.atDepth, String.toList_append, String.toList_ofList, chars,
    List.dropWhile_append_of_pos fun x member => isBlank_of_mem_margin member]
  simp [visible]

theorem StartsVisibly.isBlankText_atDepth {t : String} (h : StartsVisibly t) (depth : Nat) :
    isBlankText (Statement.atDepth depth t) = false := by
  obtain ⟨c, cs, chars, visible⟩ := h
  simp [isBlankText, Statement.atDepth, chars, visible]

theorem StartsVisibly.atDepth_ne_empty {t : String} (h : StartsVisibly t) (depth : Nat) :
    Statement.atDepth depth t ≠ "" := by
  intro empty
  have visible := h.isBlankText_atDepth depth
  rw [empty] at visible
  cases visible

theorem readLine_atDepth {t : String} (h : StartsVisibly t) (depth : Nat) (stack : List Block) :
    readLine stack (Statement.atDepth depth t) =
      apply (role t.toList) (isAligned · (Statement.atDepth depth t)) stack := by
  rw [readLine, if_neg (h.atDepth_ne_empty depth), if_neg (by simp [h.isBlankText_atDepth depth]),
    h.content_atDepth depth]

section Steps

variable {t : String} {depth : Nat} {stack : List Block}

theorem readLine_plain (h : StartsVisibly t) (plain : role t.toList = .plain)
    (deep : stack.length = depth) : readLine stack (Statement.atDepth depth t) = some stack := by
  rw [readLine_atDepth h, plain]
  simp [apply, deep, h.isAligned_atDepth]

theorem readLine_opens (h : StartsVisibly t) {b : Block} (opens : role t.toList = .opens b)
    (deep : stack.length = depth) :
    readLine stack (Statement.atDepth depth t) = some (b :: stack) := by
  rw [readLine_atDepth h, opens]
  simp [apply, deep, h.isAligned_atDepth]

theorem readLine_arm (h : StartsVisibly t) (arm : role t.toList = .arm)
    (deep : stack.length = depth) :
    readLine (.choice :: stack) (Statement.atDepth depth t) = some (.choice :: stack) := by
  rw [readLine_atDepth h, arm]
  simp [apply, deep, h.isAligned_atDepth]

theorem readLine_closes (h : StartsVisibly t) {b : Block} (closes : role t.toList = .closes b)
    (deep : stack.length = depth) :
    readLine (b :: stack) (Statement.atDepth depth t) = some stack := by
  rw [readLine_atDepth h, closes]
  simp [apply, deep, h.isAligned_atDepth]

end Steps

theorem Balanced.block {depth : Nat} {head last : String} {b : Block} {body : List String}
    (startsHead : StartsVisibly head) (opens : role head.toList = .opens b)
    (startsLast : StartsVisibly last) (closes : role last.toList = .closes b)
    (inner : ∀ stack : List Block, stack.length = depth →
      readLines (b :: stack) body = some (b :: stack)) :
    Balanced depth
      (Statement.atDepth depth head :: body ++ [Statement.atDepth depth last]) := by
  intro stack deep
  rw [List.cons_append, readLines, readLine_opens startsHead opens deep, Option.bind_some,
    readLines_append, inner stack deep, Option.bind_some, readLines,
    readLine_closes startsLast closes deep]
  rfl

theorem Balanced.inside {depth : Nat} {ls : List String} (h : Balanced (depth + 1) ls) (b : Block) :
    ∀ stack : List Block, stack.length = depth → readLines (b :: stack) ls = some (b :: stack) :=
  fun stack deep => h (b :: stack) (by simp [deep])

end Datalogger
