/-!
UTF-8, one byte at a time. `units` splits bytes into characters and ill-formed parts, each of which is
as long as it can be while it still starts a character; `decode?` refuses ill-formed parts and `decode`
shows each of them as one replacement character.
-/

namespace Datalogger.Text.Utf8

/-- A character that was begun: its bits so far, how many bytes it still needs, and the bounds of the
next of them. -/
structure Begun where
  bits : Nat
  missing : Nat
  least : Nat
  greatest : Nat
  deriving DecidableEq, Repr

/-- What a byte at the beginning of a character leads to. The bounds of the second byte exclude
overlong forms, surrogates and numbers beyond the last character. -/
def first (b : Nat) : List (Option Char) × Option Begun :=
  if b < 0x80 then ([some (Char.ofNat b)], none)
  else if b < 0xC2 then ([none], none)
  else if b < 0xE0 then ([], some ⟨b - 0xC0, 1, 0x80, 0xBF⟩)
  else if b = 0xE0 then ([], some ⟨0, 2, 0xA0, 0xBF⟩)
  else if b = 0xED then ([], some ⟨b - 0xE0, 2, 0x80, 0x9F⟩)
  else if b < 0xF0 then ([], some ⟨b - 0xE0, 2, 0x80, 0xBF⟩)
  else if b = 0xF0 then ([], some ⟨0, 3, 0x90, 0xBF⟩)
  else if b < 0xF4 then ([], some ⟨b - 0xF0, 3, 0x80, 0xBF⟩)
  else if b = 0xF4 then ([], some ⟨4, 3, 0x80, 0x8F⟩)
  else ([none], none)

/-- A byte out of bounds ends the part before it and begins anew. -/
def step (state : Option Begun) (b : Nat) : List (Option Char) × Option Begun :=
  match state with
  | none => first b
  | some p =>
    if p.least ≤ b && b ≤ p.greatest then
      let bits := 64 * p.bits + (b - 0x80)
      if p.missing = 1 then ([some (Char.ofNat bits)], none)
      else ([], some ⟨bits, p.missing - 1, 0x80, 0xBF⟩)
    else
      let (units, next) := first b
      (none :: units, next)

/-- The characters from a state on, with `none` for each ill-formed part. -/
def unitsFrom : Option Begun → List UInt8 → List (Option Char)
  | none, [] => []
  | some _, [] => [none]
  | state, b :: rest =>
    let (units, next) := step state b.toNat
    units ++ unitsFrom next rest

def units (bytes : List UInt8) : List (Option Char) :=
  unitsFrom none bytes

def decode? (bytes : List UInt8) : Option String :=
  ((units bytes).mapM id).map String.ofList

def decode (bytes : List UInt8) : String :=
  String.ofList ((units bytes).map (·.getD '\uFFFD'))

def encode (s : String) : List UInt8 :=
  s.toUTF8.data.toList

example : decode? [0xE2, 0x82, 0xAC, 0xF0, 0x9F, 0x98, 0x80] = some "€😀" := by decide +kernel

example : decode [0x61, 0xE2, 0x82, 0x41, 0xED, 0xA0, 0x80] = "a\uFFFDA\uFFFD\uFFFD\uFFFD" := by
  decide +kernel

end Datalogger.Text.Utf8
