import Datalogger.Decimal.Binary64
import Datalogger.Decimal.Range

/-!
Reading numbers from text: decimal integers within bounds, and decimal fractions rounded correctly.
-/

namespace Datalogger

namespace Decimal

def isDigit (c : Char) : Bool :=
  '0' ≤ c && c ≤ '9'

def digitValue (c : Char) : Nat :=
  c.toNat - '0'.toNat

def valueOf (cs : List Char) : Nat :=
  cs.foldl (fun n c => 10 * n + digitValue c) 0

def readDigits (cs : List Char) : Option Nat :=
  if cs ≠ [] && cs.all isDigit then some (valueOf cs) else none

def readNat (limit : Nat) (cs : List Char) : Option Nat :=
  let body := match cs with
    | '+' :: rest => rest
    | _ => cs
  (readDigits body).filter (· ≤ limit)

def readInt (least greatest : Int) (cs : List Char) : Option Int :=
  let value := match cs with
    | '-' :: rest => (readDigits rest).map fun n => -Int.ofNat n
    | '+' :: rest => (readDigits rest).map Int.ofNat
    | _ => (readDigits cs).map Int.ofNat
  value.filter fun n => least ≤ n && n ≤ greatest

/-- A sign in front of the rest; plus when there is none. -/
def splitSign : List Char → Bool × List Char
  | '-' :: rest => (true, rest)
  | '+' :: rest => (false, rest)
  | cs => (false, cs)

/-- Digits, an optional fraction and an optional exponent. A point needs a digit on one side. -/
def readUnsigned (negative : Bool) (cs : List Char) : Option Binary64 :=
  let whole := cs.takeWhile isDigit
  let rest := cs.dropWhile isDigit
  let (fraction, rest) := match rest with
    | '.' :: r => (r.takeWhile isDigit, r.dropWhile isDigit)
    | _ => ([], rest)
  if whole = [] && fraction = [] then none
  else
    let digits := valueOf (whole ++ fraction)
    let shift := -Int.ofNat fraction.length
    match rest with
    | [] => some (Binary64.ofDecimal negative digits shift)
    | e :: r =>
      if e = 'e' || e = 'E' then
        let (minus, power) := splitSign r
        (readDigits power).map fun n =>
          Binary64.ofDecimal negative digits (shift + if minus then -Int.ofNat n else Int.ofNat n)
      else none

/-- The nearest binary64 number to a decimal text; infinity and not-a-number are words. -/
def readBinary64 (text : String) : Option Binary64 :=
  let (negative, rest) := splitSign text.toList
  let word := String.ofList (rest.map Char.toLower)
  if word = "inf" || word = "infinity" then some (.infinite negative)
  else if word = "nan" then some .nan
  else readUnsigned negative rest

theorem readDigits_eq_some_iff {cs : List Char} {n : Nat} :
    readDigits cs = some n ↔ (cs ≠ [] ∧ cs.all isDigit = true) ∧ valueOf cs = n := by
  simp [readDigits]

end Decimal

end Datalogger
