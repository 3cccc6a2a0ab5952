import Datalogger.CalendarDate
import Datalogger.Data.JsonReader
import Datalogger.Data.Toml

/-!
Reading TOML text, version 1.0: line by line at the outside, values inside. Each step takes something
off the front of what is left; fuel only bounds the steps inside one string or value.
-/

namespace Datalogger.Toml

open Datalogger.Decimal (isDigit valueOf)

abbrev Rest := List Char

def isTomlBlank (c : Char) : Bool :=
  c = ' ' || c = '\t'

def skipBlank (cs : Rest) : Rest :=
  cs.dropWhile isTomlBlank

/-- Characters that may stand for themselves: all but control characters other than the tab. -/
def isPlain (c : Char) : Bool :=
  c = '\t' || (0x20 ≤ c.toNat && c.toNat ≠ 0x7F)

def newline? : Rest → Option Rest
  | '\n' :: cs => some cs
  | '\r' :: '\n' :: cs => some cs
  | _ => none

def skipComment : Rest → Rest
  | '#' :: cs => cs.dropWhile isPlain
  | cs => cs

def lineEnd (cs : Rest) : Option Rest :=
  match skipComment (skipBlank cs) with
  | [] => some []
  | cs => newline? cs

/-- Blanks, comments and line breaks, as they may stand inside an array. -/
def skipGaps : Nat → Rest → Rest
  | 0, cs => cs
  | fuel + 1, cs =>
    match skipComment (skipBlank cs) with
    | [] => []
    | cs' =>
      match newline? cs' with
      | some rest => skipGaps fuel rest
      | none => cs'

def readHex (count : Nat) (cs : Rest) : Option (Nat × Rest) := do
  let ds := cs.take count
  if ds.length < count then none
  else
    let values ← ds.mapM Json.hexValue
    return (values.foldl (fun n d => 16 * n + d) 0, cs.drop count)

def readScalar (count : Nat) (cs : Rest) : Option (Char × Rest) := do
  let (n, rest) ← readHex count cs
  if n < 0xD800 || (0xDFFF < n && n < 0x110000) then return (Char.ofNat n, rest) else none

def readEscape : Rest → Option (Char × Rest)
  | 'b' :: cs => some (Char.ofNat 8, cs)
  | 't' :: cs => some ('\t', cs)
  | 'n' :: cs => some ('\n', cs)
  | 'f' :: cs => some (Char.ofNat 12, cs)
  | 'r' :: cs => some ('\r', cs)
  | '"' :: cs => some ('"', cs)
  | '\\' :: cs => some ('\\', cs)
  | 'u' :: cs => readScalar 4 cs
  | 'U' :: cs => readScalar 8 cs
  | _ => none

def readBasic : Nat → List Char → Rest → Option (String × Rest)
  | 0, _, _ => none
  | _ + 1, _, [] => none
  | fuel + 1, seen, c :: cs =>
    if c = '"' then some (String.ofList seen.reverse, cs)
    else if c = '\\' then do
      let (e, rest) ← readEscape cs
      readBasic fuel (e :: seen) rest
    else if isPlain c then readBasic fuel (c :: seen) cs
    else none

def readLiteral (cs : Rest) : Option (String × Rest) :=
  let body := cs.takeWhile fun c => c ≠ '\'' && isPlain c
  match cs.drop body.length with
  | '\'' :: rest => some (String.ofList body, rest)
  | _ => none

def skipBreaks : Rest → Rest
  | '\n' :: cs => skipBreaks cs
  | '\r' :: '\n' :: cs => skipBreaks cs
  | c :: cs => if isTomlBlank c then skipBreaks cs else c :: cs
  | [] => []

/-- A run of quotes inside a multi-line string: three of them close it, and up to two more belong to
the content before them. -/
def quoteRun (quote : Char) (cs : Rest) : Nat :=
  (cs.takeWhile (· = quote)).length

/-- The content of a multi-line string, gathered in reverse. Line breaks become line feeds; with
escapes, a backslash at the end of a line joins it with the next text. -/
def readMultiline (quote : Char) (escapes : Bool) : Nat → List Char → Rest → Option (String × Rest)
  | 0, _, _ => none
  | _ + 1, _, [] => none
  | fuel + 1, seen, c :: cs =>
    if c = quote then
      let n := min 5 (quoteRun quote (c :: cs))
      if 3 ≤ n then
        some (String.ofList ((List.replicate (n - 3) quote ++ seen).reverse), cs.drop (n - 1))
      else readMultiline quote escapes fuel (c :: seen) cs
    else if c = '\\' && escapes then
      match newline? (skipBlank cs) with
      | some rest => readMultiline quote escapes fuel seen (skipBreaks rest)
      | none => do
        let (e, rest) ← readEscape cs
        readMultiline quote escapes fuel (e :: seen) rest
    else
      match newline? (c :: cs) with
      | some rest => readMultiline quote escapes fuel ('\n' :: seen) rest
      | none => if isPlain c then readMultiline quote escapes fuel (c :: seen) cs else none

/-- A line break directly after the opening quotes does not count. -/
def afterOpening (cs : Rest) : Rest :=
  (newline? cs).getD cs

def readString (cs : Rest) : Option (String × Rest) :=
  match cs with
  | '"' :: '"' :: '"' :: rest =>
    readMultiline '"' true (rest.length + 1) [] (afterOpening rest)
  | '\'' :: '\'' :: '\'' :: rest =>
    readMultiline '\'' false (rest.length + 1) [] (afterOpening rest)
  | '"' :: rest => readBasic (rest.length + 1) [] rest
  | '\'' :: rest => readLiteral rest
  | _ => none

def isBareKey (c : Char) : Bool :=
  c.isAlphanum || c = '_' || c = '-'

def readKeyPart (cs : Rest) : Option (String × Rest) :=
  match cs with
  | '"' :: rest => readBasic (rest.length + 1) [] rest
  | '\'' :: rest => readLiteral rest
  | _ =>
    let bare := cs.takeWhile isBareKey
    if bare = [] then none else some (String.ofList bare, cs.drop bare.length)

def readKey : Nat → Rest → Option (List String × Rest)
  | 0, _ => none
  | fuel + 1, cs => do
    let (part, rest) ← readKeyPart (skipBlank cs)
    match skipBlank rest with
    | '.' :: more =>
      let (parts, rest) ← readKey fuel more
      return (part :: parts, rest)
    | rest => return ([part], rest)

/-- Containers, and the parts of a key, may not go deeper. -/
def depthLimit : Nat := 79

def readPath (cs : Rest) : Option (List String × String × Rest) := do
  let (parts, rest) ← readKey (cs.length + 1) cs
  let last ← parts.getLast?
  if depthLimit < parts.length then none else return (parts.dropLast, last, rest)

/-- Digits in groups with single underscores between them. -/
def groupedDigits (valid : Char → Bool) : List Char → Option (List Char)
  | [] => none
  | [c] => if valid c then some [c] else none
  | c :: '_' :: rest =>
    if valid c then (groupedDigits valid rest).map (c :: ·) else none
  | c :: d :: rest =>
    if valid c then (groupedDigits valid (d :: rest)).map (c :: ·) else none

def wholeDigits (cs : List Char) : Option (List Char) :=
  match groupedDigits isDigit cs with
  | some ['0'] => some ['0']
  | some ('0' :: _) => none
  | ds => ds

def inInt64 (n : Int) : Bool :=
  Range.leastInt64 ≤ n && n ≤ Range.greatestInt64

def radixInteger (radix : Nat) (cs : List Char) : Option Int := do
  let valid c := (Json.hexValue c).any (· < radix)
  let ds ← groupedDigits valid cs
  let values ← ds.mapM Json.hexValue
  return Int.ofNat (values.foldl (fun n d => radix * n + d) 0)

def readInteger (cs : List Char) : Option Int :=
  let value := match cs with
    | '0' :: 'x' :: rest => radixInteger 16 rest
    | '0' :: 'o' :: rest => radixInteger 8 rest
    | '0' :: 'b' :: rest => radixInteger 2 rest
    | _ =>
      let (negative, rest) := Decimal.splitSign cs
      (wholeDigits rest).map fun ds =>
        if negative then -Int.ofNat (valueOf ds) else Int.ofNat (valueOf ds)
  value.filter inInt64

/-- The text of a fraction with its underscores removed; at least a fraction or an exponent. -/
def floatText (cs : List Char) : Option (List Char) := do
  let front := cs.takeWhile fun c => c ≠ '.' && c ≠ 'e' && c ≠ 'E'
  let whole ← wholeDigits front
  let (fraction, rest) ← match cs.drop front.length with
    | '.' :: r =>
      let digits := r.takeWhile fun c => c ≠ 'e' && c ≠ 'E'
      (groupedDigits isDigit digits).map fun ds => ('.' :: ds, r.drop digits.length)
    | r => some ([], r)
  match rest with
  | [] => if fraction = [] then none else return whole ++ fraction
  | _ :: r =>
    let (minus, digits) := Decimal.splitSign r
    let ds ← groupedDigits isDigit digits
    return whole ++ fraction ++ 'e' :: (if minus then '-' :: ds else ds)

/-- A positive number beyond the greatest one is refused. -/
def readFloat (cs : List Char) : Option Binary64 :=
  let (negative, rest) := Decimal.splitSign cs
  if rest = ['i', 'n', 'f'] then some (.infinite negative)
  else if rest = ['n', 'a', 'n'] then some .nan
  else
    ((floatText rest).bind (Decimal.readUnsigned negative)).filter (· ≠ .infinite false)

def twoDigits (limit : Nat) : Rest → Option (Nat × Rest)
  | a :: b :: rest =>
    if isDigit a && isDigit b && valueOf [a, b] ≤ limit then some (valueOf [a, b], rest) else none
  | _ => none

def readDate (cs : Rest) : Option (String × Rest) := do
  let year := cs.take 4
  if year.length < 4 || !year.all isDigit then none
  else
    match cs.drop 4 with
    | '-' :: rest =>
      let (month, rest) ← twoDigits 12 rest
      match rest with
      | '-' :: rest =>
        let (day, rest) ← twoDigits 31 rest
        let date : CalendarDate := ⟨Int.ofNat (valueOf year), month, day⟩
        if date.exists? then return (date.text, rest) else none
      | _ => none
    | _ => none

/-- Fractions of a second keep nine digits and lose their zeros at the end. -/
def fractionText (ds : List Char) : List Char :=
  let kept := ((ds.take 9).reverse.dropWhile (· = '0')).reverse
  if kept = [] then [] else '.' :: kept

def readTime (cs : Rest) : Option (String × Rest) := do
  let (hour, rest) ← twoDigits 23 cs
  match rest with
  | ':' :: rest =>
    let (minute, rest) ← twoDigits 59 rest
    match rest with
    | ':' :: rest =>
      let (second, rest) ← twoDigits 60 rest
      let two := CalendarDate.zeroPadded 2
      let front := two hour ++ ":" ++ two minute ++ ":" ++ two second
      match rest with
      | '.' :: r =>
        let ds := r.takeWhile isDigit
        if ds = [] then none
        else return (front ++ String.ofList (fractionText ds), r.drop ds.length)
      | _ => return (front, rest)
    | _ => none
  | _ => none

def readOffset (cs : Rest) : Option (String × Rest) := do
  match cs with
  | 'Z' :: rest => return ("Z", rest)
  | 'z' :: rest => return ("Z", rest)
  | sign :: rest =>
    if sign = '+' || sign = '-' then
      let (hour, rest) ← twoDigits 23 rest
      match rest with
      | ':' :: rest =>
        let (minute, rest) ← twoDigits 59 rest
        let mark := if sign = '-' && (hour ≠ 0 || minute ≠ 0) then "-" else "+"
        let two := CalendarDate.zeroPadded 2
        return (mark ++ two hour ++ ":" ++ two minute, rest)
      | _ => none
    else none
  | [] => none

def readDatetime (cs : Rest) : Option (Json × Rest) :=
  let value (s : String) : Json := .obj [(datetimeKey, .str s)]
  match readDate cs with
  | some (date, rest) =>
    let joined := match rest with
      | c :: more => if c = 'T' || c = 't' || c = ' ' then readTime more else none
      | [] => none
    match joined with
    | some (time, rest) =>
      match readOffset rest with
      | some (offset, rest) => some (value (date ++ "T" ++ time ++ offset), rest)
      | none => some (value (date ++ "T" ++ time), rest)
    | none => some (value date, rest)
  | none => (readTime cs).map fun (time, rest) => (value time, rest)

def isTokenChar (c : Char) : Bool :=
  c.isAlphanum || c = '_' || c = '-' || c = '+' || c = '.' || c = ':'

def readToken (cs : Rest) : Option (Json × Rest) :=
  match readDatetime cs with
  | some r => some r
  | none =>
    let token := cs.takeWhile isTokenChar
    let rest := cs.drop token.length
    if token = ['t', 'r', 'u', 'e'] then some (.bool true, rest)
    else if token = ['f', 'a', 'l', 's', 'e'] then some (.bool false, rest)
    else
      match readInteger token with
      | some n => some (.int n, rest)
      | none => (readFloat token).map fun x => (.real x, rest)

mutual

def readValue (fuel depth : Nat) (cs : Rest) : Option (Json × Rest) :=
  match fuel with
  | 0 => none
  | fuel + 1 =>
    match cs with
    | '[' :: rest =>
      match depth with
      | 0 => none
      | depth + 1 => readItems fuel depth [] rest
    | '\x7b' :: rest =>
      match depth with
      | 0 => none
      | depth + 1 =>
        match skipBlank rest with
        | '\x7d' :: r => some (.obj [], r)
        | r => readPairs fuel depth [] r
    | '"' :: _ => (readString cs).map fun (s, r) => (.str s, r)
    | '\'' :: _ => (readString cs).map fun (s, r) => (.str s, r)
    | _ => readToken cs

def readItems (fuel depth : Nat) (seen : List Json) (cs : Rest) : Option (Json × Rest) :=
  match fuel with
  | 0 => none
  | fuel + 1 =>
    match skipGaps (cs.length + 1) cs with
    | ']' :: rest => some (.arr seen.reverse, rest)
    | start => do
      let (v, rest) ← readValue fuel depth start
      match skipGaps (rest.length + 1) rest with
      | ',' :: r => readItems fuel depth (v :: seen) r
      | ']' :: r => some (.arr (v :: seen).reverse, r)
      | _ => none

/-- The pairs of an inline table, all on one line. -/
def readPairs (fuel depth : Nat) (seen : List (List String × String × Json)) (cs : Rest) :
    Option (Json × Rest) :=
  match fuel with
  | 0 => none
  | fuel + 1 => do
    let (path, key, rest) ← readPath cs
    match skipBlank rest with
    | '=' :: r =>
      let (v, rest) ← readValue fuel depth (skipBlank r)
      match skipBlank rest with
      | ',' :: r => readPairs fuel depth ((path, key, v) :: seen) r
      | '\x7d' :: r => do
        let table ← inlineTable ((path, key, v) :: seen).reverse
        return (table, r)
      | _ => none
    | _ => none

end

inductive Line where
  | nothing
  | pair (path : List String) (key : String) (value : Json)
  | header (isArray : Bool) (path : List String) (key : String)

def readHeader (isArray : Bool) (cs : Rest) : Option (Line × Rest) := do
  let (path, key, rest) ← readPath cs
  match isArray, rest with
  | false, ']' :: r => return (.header false path key, r)
  | true, ']' :: ']' :: r => return (.header true path key, r)
  | _, _ => none

def readPair (cs : Rest) : Option (Line × Rest) := do
  let (path, key, rest) ← readPath cs
  match rest with
  | '=' :: r =>
    let (v, rest) ← readValue (2 * r.length + 2) depthLimit (skipBlank r)
    return (.pair path key v, rest)
  | _ => none

def readLine (cs : Rest) : Option (Line × Rest) :=
  match lineEnd cs with
  | some rest => some (.nothing, rest)
  | none => do
    let (line, rest) ← match skipBlank cs with
      | '[' :: '[' :: r => readHeader true r
      | '[' :: r => readHeader false r
      | r => readPair r
    return (line, ← lineEnd rest)

def readLines : Nat → Rest → Option (List Line)
  | _, [] => some []
  | 0, _ => none
  | fuel + 1, cs => do
    let (line, rest) ← readLine cs
    return line :: (← readLines fuel rest)

def blocksOf : List Line → List (List String × String × Json) × List Block
  | [] => ([], [])
  | .nothing :: rest => blocksOf rest
  | .pair path key v :: rest =>
    let (values, blocks) := blocksOf rest
    ((path, key, v) :: values, blocks)
  | .header isArray path key :: rest =>
    let (values, blocks) := blocksOf rest
    ([], ⟨isArray, path, key, values⟩ :: blocks)

/-- The document of a text; a byte order mark at its start is skipped. -/
def read? (s : String) : Option Json := do
  let cs := match s.toList with
    | '\uFEFF' :: rest => rest
    | cs => cs
  let lines ← readLines (cs.length + 1) cs
  let (values, blocks) := blocksOf lines
  document values blocks

end Datalogger.Toml
