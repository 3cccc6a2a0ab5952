import Datalogger.Data.Json

/-!
Writing TOML text. A string is written in the first of four forms that can hold it: quoted, quoted
literally, over several lines, over several lines literally; one that none of them holds is quoted
with escapes.
-/

namespace Datalogger.Toml

def longestRun (c : Char) (cs : List Char) : Nat :=
  (cs.foldl (fun (best, run) d => if d = c then (max best (run + 1), run + 1) else (best, 0))
    ((0, 0) : Nat × Nat)).1

/-- A control character other than tab and line feed can only be written as an escape. -/
def needsEscape (c : Char) : Bool :=
  (c.toNat < 0x20 && c ≠ '\t' && c ≠ '\n') || c.toNat = 0x7F

def upperHex (n : Nat) : Char :=
  if n < 10 then Char.ofNat ('0'.toNat + n) else Char.ofNat ('A'.toNat + n - 10)

def escapeControl (c : Char) : List Char :=
  if c.toNat = 8 then ['\\', 'b']
  else if c = '\t' then ['\\', 't']
  else if c = '\n' then ['\\', 'n']
  else if c.toNat = 12 then ['\\', 'f']
  else if c = '\r' then ['\\', 'r']
  else if c = '\\' then ['\\', '\\']
  else if needsEscape c then
    ['\\', 'u', '0', '0', upperHex (c.toNat / 16), upperHex (c.toNat % 16)]
  else [c]

/-- The text between the quotes. Within several lines up to two quotes may follow each other and line
feeds stand for themselves; `run` counts the quotes since the last escape or other character. -/
def escapeBasic (multiline : Bool) : Nat → List Char → List Char
  | _, [] => []
  | run, c :: cs =>
    if c = '"' then
      if run < (if multiline then 2 else 0) then '"' :: escapeBasic multiline (run + 1) cs
      else '\\' :: '"' :: escapeBasic multiline 0 cs
    else if multiline && c = '\n' then '\n' :: escapeBasic multiline 0 cs
    else escapeControl c ++ escapeBasic multiline 0 cs

def basic (cs : List Char) : List Char :=
  '"' :: escapeBasic false 0 cs ++ ['"']

/-- A line feed after the opening quotes is not content. -/
def opening (quotes cs : List Char) : List Char :=
  if cs.contains '\n' then quotes ++ ['\n'] else quotes

def multilineBasic (cs : List Char) : List Char :=
  opening ['"', '"', '"'] cs ++ escapeBasic true 0 cs ++ ['"', '"', '"']

def literal (cs : List Char) : List Char :=
  '\'' :: cs ++ ['\'']

def multilineLiteral (cs : List Char) : List Char :=
  opening ['\'', '\'', '\''] cs ++ cs ++ ['\'', '\'', '\'']

def string (s : String) : String :=
  let cs := s.toList
  let escapes := cs.any needsEscape
  let backslash := cs.contains '\\'
  let newline := cs.contains '\n'
  let singles := longestRun '\'' cs
  let doubles := longestRun '"' cs
  String.ofList
    (if !escapes && !backslash && doubles = 0 && !newline then basic cs
    else if !escapes && singles = 0 && !newline then literal cs
    else if !escapes && !backslash && doubles ≤ 2 then multilineBasic cs
    else if !escapes && singles ≤ 2 then multilineLiteral cs
    else if newline then multilineBasic cs
    else basic cs)

def stringArray : List String → String
  | [] => "[]"
  | [s] => "[" ++ string s ++ "]"
  | items => "[\n" ++ String.join (items.map fun s => "    " ++ string s ++ ",\n") ++ "]"

def pair (key value : String) : String :=
  key ++ " = " ++ value ++ "\n"

def bool : Bool → String
  | true => "true"
  | false => "false"

end Datalogger.Toml
