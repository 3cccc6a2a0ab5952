import Datalogger.Decimal.Layout
import Datalogger.Decimal.Reading
import Datalogger.Error
import Datalogger.Text.Blank
import Datalogger.Text.Fold

/-!
Terminals of the wiring panel: numbered channels in banks, and four unnumbered rails. A label names
a terminal without ambiguity; the code is what an instruction takes as its argument, where the bare
number already selects an analog channel. Main definitions: `label`, `code`, and `read`, which
accepts every spelling of a label that stays inside its bank.
-/

namespace Datalogger

open Text (trim raise)

inductive Bank where
  | control
  | serial
  | pulse
  | excitation
  | singleEnded
  | differentialHigh
  | differentialLow
  | switchedPower
  | serialGround
  deriving DecidableEq, Repr

inductive Rail where
  | analogGround
  | ground
  | power12
  | power5
  deriving DecidableEq, Repr

inductive Terminal where
  | rail (rail : Rail)
  | channel (bank : Bank) (number : Nat)
  deriving DecidableEq, Repr

namespace Bank

def channels : Bank → List Nat
  | control | differentialHigh | differentialLow => [1, 2, 3, 4, 5, 6, 7, 8]
  | serial => [1, 3, 5, 7]
  | pulse => [1, 2, 3, 4, 5, 6, 7]
  | singleEnded => [1, 2, 3, 4, 5, 6, 7, 8, 9, 10, 11, 12, 13, 14, 15, 16]
  | excitation | switchedPower | serialGround => [1, 2]

def marking : Bank → String × String
  | control => ("C", "")
  | serial => ("ComC", "")
  | pulse => ("P", "")
  | excitation => ("Vx", "")
  | singleEnded => ("SE", "")
  | differentialHigh => ("DIFF", "H")
  | differentialLow => ("DIFF", "L")
  | switchedPower => ("SW12_", "")
  | serialGround => ("RG", "")

end Bank

def Rail.label : Rail → String
  | analogGround => "AG"
  | ground => "G"
  | power12 => "12V"
  | power5 => "5V"

namespace Terminal

def label : Terminal → String
  | rail r => r.label
  | channel bank number => bank.marking.1 ++ natText number ++ bank.marking.2

/-- Analog channels go by their number alone. -/
def code : Terminal → String
  | channel .singleEnded number => natText number
  | channel .differentialHigh number => natText number
  | channel .differentialLow number => natText number
  | t => t.label

def inRange : Terminal → Bool
  | rail _ => true
  | channel bank number => bank.channels.contains number

def railOf? (upper : String) : Option Rail :=
  if upper = "AG" then some .analogGround
  else if upper = "G" || upper = "GND" then some .ground
  else if upper = "12V" then some .power12
  else if upper = "5V" then some .power5
  else none

/-- Upper-case spellings of the markings; the first one that fits decides the bank. -/
def spellings : List (String × String × Bank) :=
  [("SW12_", "", .switchedPower), ("COMC", "", .serial), ("COM", "", .serial),
    ("DIFF", "H", .differentialHigh), ("DIFF", "L", .differentialLow), ("SE", "", .singleEnded),
    ("VX", "", .excitation), ("RG", "", .serialGround), ("C", "", .control), ("P", "", .pulse)]

def between (front back : String) (cs : List Char) : Option (List Char) :=
  let rest := cs.drop front.length
  if front.toList.isPrefixOf cs && back.toList.isSuffixOf rest then
    some (rest.take (rest.length - back.length))
  else none

/-- A channel number: an optional plus sign and digits, at most 255. -/
def readNumber (cs : List Char) : Option Nat :=
  Decimal.readNat 255 cs

/-- The channel a spelling names, in range or not. Digits alone name a single-ended channel. -/
def channelOf? (cs : List Char) : Option Terminal :=
  match spellings.findSome? fun (front, back, bank) => (between front back cs).map (·, bank) with
  | some (digits, bank) => (readNumber digits).map (channel bank)
  | none =>
    if cs.all Decimal.isDigit then (readNumber cs).map (channel .singleEnded) else none

/-- Blanks around a spelling and the case of its letters do not count. -/
def read? (text : String) : Option Terminal :=
  let upper := raise (trim text)
  match railOf? upper with
  | some r => some (rail r)
  | none => (channelOf? upper.toList).filter inRange

def read (text : String) : Except Error Terminal :=
  match read? text with
  | some t => .ok t
  | none => .error (.invalidTerminal text)

theorem inRange_of_read? {text : String} {t : Terminal} (h : read? text = some t) :
    t.inRange = true := by
  simp only [read?] at h
  split at h
  · cases h; rfl
  · exact (Option.filter_eq_some_iff.1 h).2

end Terminal

end Datalogger
