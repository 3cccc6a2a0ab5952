import Datalogger.Decimal.Binary64

/-!
The shortest decimal that reads back as a given binary64 number. For one digit, then two, and so on
up to seventeen, the two neighbours of the number on that decimal grid are tried against the interval
of reals that round to it; the first grid with a hit wins, and of two hits the nearer one. What is
done when both are equally near is up to the notation.
-/

namespace Datalogger

/-- `digits * 10 ^ exponent`, where `digits` does not end in zero unless it is zero. -/
structure Decimal where
  digits : Nat
  exponent : Int
  deriving DecidableEq, Repr

/-- The choice between two decimals that are equally short and equally near. -/
inductive Tie where
  | greater
  | even
  deriving DecidableEq, Repr

namespace Decimal

def tenScaled (a : Nat) (k : Int) : Nat × Nat :=
  match k with
  | .ofNat n => (a * Nat.pow 10 n, 1)
  | .negSucc n => (a, Nat.pow 10 (n + 1))

def ratioLt (x y : Nat × Nat) : Bool :=
  x.1 * y.2 < y.1 * x.2

/-- The reals between the midpoints to the neighbouring binary64 numbers round to `m * 2 ^ e`; the
midpoints themselves do so when `m` is even. Bounds are given in quarters of a unit. -/
structure Rounding where
  lower : Nat × Nat
  upper : Nat × Nat
  closed : Bool

def Rounding.of (m : Nat) (e : Int) : Rounding where
  lower :=
    if m = Binary64.leastNormal && Binary64.minExponent < e then Binary64.ratio (4 * m - 1) (e - 2)
    else Binary64.ratio (4 * m - 2) (e - 2)
  upper := Binary64.ratio (4 * m + 2) (e - 2)
  closed := m % 2 = 0

def Rounding.contains (r : Rounding) (x : Nat × Nat) : Bool :=
  if r.closed then !ratioLt x r.lower && !ratioLt r.upper x
  else ratioLt r.lower x && ratioLt x r.upper

/-- The greatest `k` with `10 ^ k ≤ n / d`, found from an estimate by binary logarithms. -/
def tenExponent (v : Nat × Nat) : Int :=
  let bits : Int := Int.ofNat v.1.log2 - Int.ofNat v.2.log2
  let guess : Int := Int.fdiv (bits * 30103) 100000
  let candidates := [guess + 2, guess + 1, guess, guess - 1]
  (candidates.find? fun k => !ratioLt v (tenScaled 1 k)).getD (guess - 2)

def dropZeros : Nat → Nat → Int → Decimal
  | 0, digits, k => ⟨digits, k⟩
  | fuel + 1, digits, k =>
    if digits ≠ 0 && digits % 10 = 0 then dropZeros fuel (digits / 10) (k + 1) else ⟨digits, k⟩

def nearer (tie : Tie) (num den : Nat) : Nat :=
  let low := num / den
  let rest := 2 * (num % den)
  if rest < den then low
  else if den < rest then low + 1
  else if tie = .even && low % 2 = 0 then low
  else low + 1

/-- The hit on the grid of `10 ^ k`, if there is one. -/
def onGrid (tie : Tie) (v : Nat × Nat) (r : Rounding) (k : Int) : Option Nat :=
  let (num, den) :=
    match k with
    | .ofNat n => (v.1, v.2 * Nat.pow 10 n)
    | .negSucc n => (v.1 * Nat.pow 10 (n + 1), v.2)
  let low := num / den
  let high := low + 1
  match r.contains (tenScaled low k), r.contains (tenScaled high k) with
  | true, true => some (nearer tie num den)
  | true, false => some low
  | false, true => some high
  | false, false => none

def search (tie : Tie) (v : Nat × Nat) (r : Rounding) (top : Int) : Nat → Nat → Decimal
  | 0, count => ⟨v.1 / v.2, top - count⟩
  | fuel + 1, count =>
    let k := top - Int.ofNat count + 1
    match onGrid tie v r k with
    | some digits => dropZeros 20 digits k
    | none => search tie v r top fuel (count + 1)

def shortest (tie : Tie) (m : Nat) (e : Int) : Decimal :=
  if m = 0 then ⟨0, 0⟩
  else
    let v := Binary64.ratio m e
    search tie v (Rounding.of m e) (tenExponent v) 17 1

example : shortest .even 7205759403792794 (-56) = ⟨1, -1⟩ := by decide +kernel

example : shortest .even 1 (-1074) = ⟨5, -324⟩ := by decide +kernel

/-- Half-way between two decimals of seventeen digits: 2 ^ 44 and a sixteenth. -/
example : (shortest .even (2 ^ 52 + 16) (-8)).digits = 17592186044416062 ∧
    (shortest .greater (2 ^ 52 + 16) (-8)).digits = 17592186044416063 := by decide +kernel

end Decimal

end Datalogger
