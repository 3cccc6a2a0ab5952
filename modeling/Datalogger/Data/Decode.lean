import Datalogger.Data.JsonReader
import Datalogger.Data.TomlReader

/-!
Decoding: from a data value to a value of the domain, or nothing. A record can be an object or an
array of its fields in order; unknown fields of an object are ignored, a known one may occur once.
The rules are the same for both formats but for two: only in JSON is an array with too many fields
refused, and each format has its own way to write a choice as an object.
-/

namespace Datalogger

inductive Format where
  | json
  | toml
  deriving DecidableEq, Repr

/-- The data value of a text. What is faulty in it only counts once it is decoded. -/
def Format.read? : Format → String → Option Json
  | json => Json.scan?
  | toml => Toml.read?

namespace Decode

def string : Json → Option String
  | .str s => some s
  | _ => none

def bool : Json → Option Bool
  | .bool b => some b
  | _ => none

/-- An integer within bounds. A number with a fraction or exponent is none. -/
def integer (least greatest : Int) : Json → Option Int
  | .int n => if least ≤ n && n ≤ greatest then some n else none
  | _ => none

def nat32 (v : Json) : Option Nat :=
  (integer 0 Range.greatestNat32 v).map Int.toNat

def int32 (v : Json) : Option Int :=
  integer Range.leastInt32 Range.greatestInt32 v

def list {α : Type} (item : Json → Option α) : Json → Option (List α)
  | .arr items => items.mapM item
  | _ => none

/-- A map from texts; of a repeated key the last value counts, but all of them must be valid. -/
def dict {α : Type} (value : Json → Option α) : Json → Option (Dict α)
  | .obj fields => (fields.mapM fun (e : String × Json) => (value e.2).map (e.1, ·)).map Dict.ofList
  | _ => none

def nullable {α : Type} (value : Json → Option α) : Json → Option (Option α)
  | .null => some none
  | v => (value v).map some

def isUnit : Format → Json → Bool
  | .json, .null => true
  | .toml, .obj [] => true
  | .toml, .arr [] => true
  | _, _ => false

/-- Any value that is sound, in its normal form. -/
def anything (v : Json) : Option Json :=
  if v.sound then some v.normal else none

/-- One of several words, or an object with that word as its only key. -/
def choice {α : Type} (f : Format) (cases : List (String × α)) : Json → Option α
  | .str s => cases.lookup s
  | .obj [(k, v)] => if isUnit f v then cases.lookup k else none
  | _ => none

abbrev Fields := List (String × Json)

def knownOnce (names : List String) (fields : Fields) : Bool :=
  names.all fun n => (fields.filter (·.1 = n)).length ≤ 1

def fields (f : Format) (names : List String) : Json → Option Fields
  | .obj fields => if knownOnce names fields then some fields else none
  | .arr items =>
    if f = .json && names.length < items.length then none else some (names.zip items)
  | _ => none

def required {α : Type} (fs : Fields) (name : String) (value : Json → Option α) : Option α :=
  (fs.lookup name).bind value

def defaulted {α : Type} (fs : Fields) (name : String) (value : Json → Option α) (default : α) :
    Option α :=
  match fs.lookup name with
  | some v => value v
  | none => some default

def optional {α : Type} (fs : Fields) (name : String) (value : Json → Option α) :
    Option (Option α) :=
  defaulted fs name (nullable value) none

end Decode

end Datalogger
