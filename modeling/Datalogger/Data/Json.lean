import Datalogger.Data.Dict
import Datalogger.Decimal.Layout

/-!
JSON values. A value that was read from text keeps the fields of an object as written, repeated keys
included; `normal` sorts them and keeps the last of each key, and is what a value means on its own.
A part of a text can have the form of a value and stand for none, which matters only where it is
looked at; a value without such parts is `sound`.
-/

namespace Datalogger

inductive Json where
  | null
  | bool (value : Bool)
  | int (value : Int)
  | real (value : Binary64)
  | str (value : String)
  | arr (items : List Json)
  | obj (fields : List (String × Json))
  /-- A number out of range, a string with half a surrogate pair, or a container nested too deep. -/
  | faulty
  deriving Inhabited, Repr

namespace Json

mutual

def sound : Json → Bool
  | faulty => false
  | arr items => soundItems items
  | obj fields => soundFields fields
  | _ => true

def soundItems : List Json → Bool
  | [] => true
  | v :: vs => sound v && soundItems vs

def soundFields : List (String × Json) → Bool
  | [] => true
  | (_, v) :: rest => sound v && soundFields rest

end

mutual

/-- Fields in key order, the last of each key; numbers that are not finite become `null`. -/
def normal : Json → Json
  | null => null
  | bool b => bool b
  | int n => int n
  | real x => if x.isFinite then real x else null
  | str s => str s
  | arr items => arr (normalItems items)
  | obj fields => obj (normalFields fields [])
  | faulty => faulty

def normalItems : List Json → List Json
  | [] => []
  | v :: vs => normal v :: normalItems vs

def normalFields : List (String × Json) → List (String × Json) → List (String × Json)
  | [], sorted => sorted
  | (k, v) :: rest, sorted => normalFields rest (insertEntry k (normal v) sorted)

end

def field? (name : String) : Json → Option Json
  | obj fields => (fields.reverse).lookup name
  | _ => none

def hexDigit (n : Nat) : Char :=
  if n < 10 then Char.ofNat ('0'.toNat + n) else Char.ofNat ('a'.toNat + n - 10)

/-- Quotes, backslashes and control characters are escaped, and nothing else. -/
def escapeChar (c : Char) : List Char :=
  if c = '"' then ['\\', '"']
  else if c = '\\' then ['\\', '\\']
  else if c = '\n' then ['\\', 'n']
  else if c = '\r' then ['\\', 'r']
  else if c = '\t' then ['\\', 't']
  else if c.toNat = 8 then ['\\', 'b']
  else if c.toNat = 12 then ['\\', 'f']
  else if c.toNat < 32 then ['\\', 'u', '0', '0', hexDigit (c.toNat / 16), hexDigit (c.toNat % 16)]
  else [c]

def quote (s : String) : String :=
  String.ofList ('"' :: s.toList.flatMap escapeChar ++ ['"'])

mutual

/-- Compact text: no white space outside strings. What has no text is `null`. -/
def text : Json → String
  | null => "null"
  | bool true => "true"
  | bool false => "false"
  | int n => intText n
  | real x => x.jsonText
  | str s => quote s
  | arr items => "[" ++ ",".intercalate (itemTexts items) ++ "]"
  | obj fields => "\x7b" ++ ",".intercalate (fieldTexts fields) ++ "\x7d"
  | faulty => "null"

def itemTexts : List Json → List String
  | [] => []
  | v :: vs => text v :: itemTexts vs

def fieldTexts : List (String × Json) → List String
  | [] => []
  | (k, v) :: rest => (quote k ++ ":" ++ text v) :: fieldTexts rest

end

def spaces (n : Nat) : String :=
  String.ofList (List.replicate n ' ')

mutual

/-- Text with one item to a line, indented by two spaces a level; empty containers stay closed. -/
def prettyAt (level : Nat) : Json → String
  | arr [] => "[]"
  | arr (v :: vs) =>
    "[\n" ++ ",\n".intercalate (prettyItems (level + 1) (v :: vs)) ++ "\n" ++ spaces (2 * level) ++ "]"
  | obj [] => "\x7b\x7d"
  | obj (f :: fs) =>
    "\x7b\n" ++ ",\n".intercalate (prettyFields (level + 1) (f :: fs)) ++ "\n" ++
      spaces (2 * level) ++ "\x7d"
  | null | faulty => "null"
  | bool true => "true"
  | bool false => "false"
  | int n => intText n
  | real x => x.jsonText
  | str s => quote s

def prettyItems (level : Nat) : List Json → List String
  | [] => []
  | v :: vs => (spaces (2 * level) ++ prettyAt level v) :: prettyItems level vs

def prettyFields (level : Nat) : List (String × Json) → List String
  | [] => []
  | (k, v) :: rest =>
    (spaces (2 * level) ++ quote k ++ ": " ++ prettyAt level v) :: prettyFields level rest

end

def pretty (v : Json) : String :=
  prettyAt 0 v

end Json

end Datalogger
