import Datalogger.Data.Json
import Datalogger.Decimal.Reading

/-!
Reading JSON text. The grammar is the strict one: no comments, no trailing commas or text, and no raw
control characters in strings. `scan?` reads whatever has the form of JSON; numbers out of range, lone
surrogates and more than 127 containers inside each other are left as faulty parts, which `read?`
refuses.

An integer literal between `-2 ^ 63` and `2 ^ 64 - 1` is an integer. Every other number is gathered
as an unsigned 64-bit significand and a power of ten and rounded once for the significand and once
for the power, so its last digit can differ from the nearest binary64 number.
-/

namespace Datalogger.Json

open Datalogger.Decimal (isDigit digitValue valueOf)

abbrev Rest := List Char

def isJsonBlank (c : Char) : Bool :=
  c = ' ' || c = '\n' || c = '\r' || c = '\t'

def skipBlank (cs : Rest) : Rest :=
  cs.dropWhile isJsonBlank

def significandLimit : Nat := Range.greatestNat64

def exponentLimit : Nat := 0x7FFFFFFF

/-- Significand and power of ten of a literal, as far as the significand has room. -/
structure Gathered where
  significand : Nat
  exponent : Int

/-- Digits before the point. Once one has no room, it and those after it only raise the power. -/
def gatherWhole : Nat → List Char → Gathered
  | n, [] => ⟨n, 0⟩
  | n, c :: cs =>
    if 10 * n + digitValue c ≤ significandLimit then gatherWhole (10 * n + digitValue c) cs
    else ⟨n, Int.ofNat (cs.length + 1)⟩

/-- Digits after the point. The first that has no room ends the significand. -/
def gatherFraction : Gathered → List Char → Gathered
  | g, [] => g
  | g, c :: cs =>
    if 10 * g.significand + digitValue c ≤ significandLimit then
      gatherFraction ⟨10 * g.significand + digitValue c, g.exponent - 1⟩ cs
    else g

def clampExponent (e : Int) : Int :=
  max Range.leastInt32 (min Range.greatestInt32 e)

def ifFinite (x : Binary64) : Option Binary64 :=
  if x.isFinite then some x else none

/-- `f * 10 ^ e` in steps of at most 308 powers; `none` when it grows out of range. Four steps take
every significand to zero. -/
def applyPower : Nat → Binary64 → Int → Option Binary64
  | 0, f, _ => some f
  | fuel + 1, f, e =>
    if e.natAbs ≤ 308 then
      if 0 ≤ e then ifFinite (f.mul (.ofDecimal false 1 e))
      else some (f.div (.ofDecimal false 1 (-e)))
    else if f.isZero then some f
    else if 0 ≤ e then none
    else applyPower fuel (f.div (.ofDecimal false 1 308)) (e + 308)

def realOf (negative : Bool) (g : Gathered) : Json :=
  match applyPower 8 (.ofNat g.significand) g.exponent with
  | some x => real (if negative then x.neg else x)
  | none => faulty

/-- A literal without point and exponent. Zero with a minus sign is not an integer. -/
def wholeNumber (negative : Bool) (g : Gathered) : Json :=
  if g.exponent ≠ 0 then realOf negative g
  else if !negative then int g.significand
  else if g.significand = 0 || -Int.ofNat g.significand < Range.leastInt64 then
    real (Binary64.ofNat g.significand).neg
  else int (-Int.ofNat g.significand)

def withPower (negative : Bool) (g : Gathered) (minus : Bool) (power : Nat) : Json :=
  if power ≤ exponentLimit then
    let e := Int.ofNat power
    realOf negative ⟨g.significand, clampExponent (if minus then g.exponent - e else g.exponent + e)⟩
  else if g.significand ≠ 0 && !minus then faulty
  else real (.zero negative)

def withExponent (negative : Bool) (g : Gathered) (cs : Rest) : Option (Json × Rest) :=
  let (minus, rest) := Decimal.splitSign cs
  let ds := rest.takeWhile isDigit
  if ds = [] then none
  else some (withPower negative g minus (valueOf ds), rest.dropWhile isDigit)

def isExponentMark (c : Char) : Bool :=
  c = 'e' || c = 'E'

def afterWhole (negative : Bool) (g : Gathered) : Rest → Option (Json × Rest)
  | '.' :: cs =>
    let ds := cs.takeWhile isDigit
    let rest := cs.dropWhile isDigit
    let g := gatherFraction g ds
    if ds = [] then none
    else
      match rest with
      | c :: r =>
        if isExponentMark c then withExponent negative g r else some (realOf negative g, rest)
      | [] => some (realOf negative g, rest)
  | c :: cs =>
    if isExponentMark c then withExponent negative g cs
    else some (wholeNumber negative g, c :: cs)
  | [] => some (wholeNumber negative g, [])

def readNumber (cs : Rest) : Option (Json × Rest) :=
  let (negative, body) := match cs with
    | '-' :: rest => (true, rest)
    | _ => (false, cs)
  let ds := body.takeWhile isDigit
  let rest := body.dropWhile isDigit
  match ds with
  | [] => none
  | '0' :: _ :: _ => none
  | _ => afterWhole negative (gatherWhole 0 ds) rest

def hexValue (c : Char) : Option Nat :=
  if isDigit c then some (digitValue c)
  else if 'a' ≤ c && c ≤ 'f' then some (c.toNat - 'a'.toNat + 10)
  else if 'A' ≤ c && c ≤ 'F' then some (c.toNat - 'A'.toNat + 10)
  else none

def readHex4 : Rest → Option (Nat × Rest)
  | a :: b :: c :: d :: rest => do
    let a ← hexValue a
    let b ← hexValue b
    let c ← hexValue c
    let d ← hexValue d
    pure (4096 * a + 256 * b + 16 * c + d, rest)
  | _ => none

/-- The character of a `\u` escape: a high surrogate makes one with the low one in a second escape,
and alone, like a low one, it makes none. -/
def readUnicode (cs : Rest) : Option (Option Char × Rest) := do
  let (n, rest) ← readHex4 cs
  if 0xDC00 ≤ n && n ≤ 0xDFFF then pure (none, rest)
  else if 0xD800 ≤ n && n ≤ 0xDBFF then
    match rest with
    | '\\' :: 'u' :: more =>
      let (m, after) ← readHex4 more
      if 0xDC00 ≤ m && m ≤ 0xDFFF then
        pure (some (Char.ofNat (0x10000 + (n - 0xD800) * 0x400 + (m - 0xDC00))), after)
      else pure (none, rest)
    | _ => pure (none, rest)
  else pure (some (Char.ofNat n), rest)

def readEscape : Rest → Option (Option Char × Rest)
  | '"' :: cs => some (some '"', cs)
  | '\\' :: cs => some (some '\\', cs)
  | '/' :: cs => some (some '/', cs)
  | 'b' :: cs => some (some (Char.ofNat 8), cs)
  | 'f' :: cs => some (some (Char.ofNat 12), cs)
  | 'n' :: cs => some (some '\n', cs)
  | 'r' :: cs => some (some '\r', cs)
  | 't' :: cs => some (some '\t', cs)
  | 'u' :: cs => readUnicode cs
  | _ => none

/-- The rest of a string after its opening quote, gathered in reverse, with `none` for every escape
that makes no character. -/
def readString : Nat → List (Option Char) → Rest → Option (List (Option Char) × Rest)
  | 0, _, _ => none
  | _ + 1, _, [] => none
  | fuel + 1, seen, c :: cs =>
    if c = '"' then some (seen.reverse, cs)
    else if c = '\\' then do
      let (e, rest) ← readEscape cs
      readString fuel (e :: seen) rest
    else if c.toNat < 32 then none
    else readString fuel (some c :: seen) cs

def textOf (cs : List (Option Char)) : Option String :=
  (cs.mapM id).map String.ofList

def depthLimit : Nat := 127

def word (expected : List Char) (value : Json) (cs : Rest) : Option (Json × Rest) :=
  if expected.isPrefixOf cs then some (value, cs.drop expected.length) else none

/-- A container, unless it stands too deep for its values to count. -/
def container (depth : Nat) (v : Json) : Json :=
  if depth = 0 then faulty else v

def objectOf (fields : List (Option String × Json)) : Json :=
  match fields.mapM fun (k, v) => k.map (·, v) with
  | some fields => obj fields
  | none => faulty

mutual

/-- A value and what follows it. Fuel bounds the characters still to be read. -/
def readValue (fuel depth : Nat) (cs : Rest) : Option (Json × Rest) :=
  match fuel with
  | 0 => none
  | fuel + 1 =>
    match skipBlank cs with
    | [] => none
    | 'n' :: rest => word ['u', 'l', 'l'] null rest
    | 't' :: rest => word ['r', 'u', 'e'] (bool true) rest
    | 'f' :: rest => word ['a', 'l', 's', 'e'] (bool false) rest
    | '"' :: rest =>
      (readString fuel [] rest).map fun (s, r) => ((textOf s).elim faulty str, r)
    | '[' :: rest =>
      match skipBlank rest with
      | ']' :: r => some (container depth (arr []), r)
      | r => (readItems fuel (depth - 1) [] r).map fun (v, r) => (container depth v, r)
    | '\x7b' :: rest =>
      match skipBlank rest with
      | '\x7d' :: r => some (container depth (obj []), r)
      | r => (readFields fuel (depth - 1) [] r).map fun (v, r) => (container depth v, r)
    | c :: rest => readNumber (c :: rest)

def readItems (fuel depth : Nat) (seen : List Json) (cs : Rest) : Option (Json × Rest) :=
  match fuel with
  | 0 => none
  | fuel + 1 => do
    let (v, rest) ← readValue fuel depth cs
    match skipBlank rest with
    | ',' :: r => readItems fuel depth (v :: seen) r
    | ']' :: r => some (arr (v :: seen).reverse, r)
    | _ => none

def readFields (fuel depth : Nat) (seen : List (Option String × Json)) (cs : Rest) :
    Option (Json × Rest) :=
  match fuel with
  | 0 => none
  | fuel + 1 =>
    match skipBlank cs with
    | '"' :: rest => do
      let (k, rest) ← readString fuel [] rest
      match skipBlank rest with
      | ':' :: rest =>
        let (v, rest) ← readValue fuel depth rest
        let seen := (textOf k, v) :: seen
        match skipBlank rest with
        | ',' :: r => readFields fuel depth seen r
        | '\x7d' :: r => some (objectOf seen.reverse, r)
        | _ => none
      | _ => none
    | _ => none

end

def scan? (s : String) : Option Json :=
  let cs := s.toList
  match readValue (2 * cs.length + 2) depthLimit cs with
  | some (v, rest) => if skipBlank rest = [] then some v else none
  | none => none

/-- The value that is written by a text all of whose parts stand for one. -/
def read? (s : String) : Option Json :=
  (scan? s).filter sound

end Datalogger.Json
