import Datalogger.Decimal.Layout
import Datalogger.Decimal.Reading
import Datalogger.Text.Blank

/-!
Calendar dates, by the Gregorian rules in both directions. `text` writes years up to 9999 with four
digits and every other year with its sign.
-/

namespace Datalogger

structure CalendarDate where
  year : Int
  month : Nat
  day : Nat
  deriving DecidableEq, Repr

namespace CalendarDate

def isLeap (year : Int) : Bool :=
  year % 4 = 0 && (year % 100 ≠ 0 || year % 400 = 0)

def daysIn (year : Int) (month : Nat) : Nat :=
  if month = 2 then if isLeap year then 29 else 28
  else if month = 4 || month = 6 || month = 9 || month = 11 then 30
  else 31

def yearInRange (year : Int) : Bool :=
  -262143 ≤ year && year ≤ 262142

def exists? (d : CalendarDate) : Bool :=
  yearInRange d.year && 1 ≤ d.month && d.month ≤ 12 && 1 ≤ d.day && d.day ≤ daysIn d.year d.month

def zeroPadded (width n : Nat) : String :=
  let ds := digitsOf n
  String.ofList (List.replicate (width - ds.length) '0' ++ ds)

def yearText (year : Int) : String :=
  if year < 0 then "-" ++ zeroPadded 4 year.natAbs
  else if year ≤ 9999 then zeroPadded 4 year.natAbs
  else "+" ++ zeroPadded 4 year.natAbs

def text (d : CalendarDate) : String :=
  yearText d.year ++ "-" ++ zeroPadded 2 d.month ++ "-" ++ zeroPadded 2 d.day

def skipBlank (cs : List Char) : List Char :=
  cs.dropWhile Text.isBlank

/-- A number of at least one digit and at most so many, and what follows it. -/
def readDigits (most : Nat) (cs : List Char) : Option (Nat × List Char) :=
  let ds := (cs.takeWhile Decimal.isDigit).take most
  if ds = [] then none else some (Decimal.valueOf ds, cs.drop ds.length)

/-- Four digits at most, or any number of them after a sign. -/
def readYear (cs : List Char) : Option (Int × List Char) :=
  match cs with
  | '-' :: rest => (readDigits rest.length rest).map fun (n, r) => (-Int.ofNat n, r)
  | '+' :: rest => (readDigits rest.length rest).map fun (n, r) => (Int.ofNat n, r)
  | _ => (readDigits 4 cs).map fun (n, r) => (Int.ofNat n, r)

def hyphen (cs : List Char) : Option (List Char) :=
  match skipBlank cs with
  | '-' :: rest => some rest
  | _ => none

/-- Year, month and day with hyphens between them; blanks may surround each of them. -/
def read? (text : String) : Option CalendarDate := do
  let (year, rest) ← readYear (skipBlank text.toList)
  let rest ← hyphen rest
  let (month, rest) ← readDigits 2 (skipBlank rest)
  let rest ← hyphen rest
  let (day, rest) ← readDigits 2 (skipBlank rest)
  let date : CalendarDate := ⟨year, month, day⟩
  if skipBlank rest = [] && date.exists? then some date else none

end CalendarDate

end Datalogger
