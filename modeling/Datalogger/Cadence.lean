import Datalogger.Decimal.Layout

/-!
Cadences: time units, the scan that a program repeats, and the interval at which a data table takes a
record.
-/

namespace Datalogger

inductive TimeUnit where
  | microseconds
  | milliseconds
  | seconds
  | minutes
  | hours
  | days
  deriving DecidableEq, Repr

def TimeUnit.text : TimeUnit → String
  | microseconds => "uSec"
  | milliseconds => "mSec"
  | seconds => "Sec"
  | minutes => "Min"
  | hours => "Hr"
  | days => "Day"

structure Scan where
  interval : Nat
  unit : TimeUnit
  buffer : Nat
  count : Nat
  deriving DecidableEq, Repr

namespace Scan

def every (interval : Nat) (unit : TimeUnit) : Scan :=
  ⟨interval, unit, 0, 0⟩

def standard : Scan := every 5 .seconds

def text (s : Scan) : String :=
  "Scan(" ++ natText s.interval ++ "," ++ s.unit.text ++ "," ++ natText s.buffer ++ "," ++
    natText s.count ++ ")"

end Scan

structure DataInterval where
  offset : Nat
  interval : Nat
  unit : TimeUnit
  lapses : Nat
  deriving DecidableEq, Repr

namespace DataInterval

def standard : DataInterval := ⟨0, 5, .minutes, 10⟩

def text (d : DataInterval) : String :=
  "DataInterval(" ++ natText d.offset ++ "," ++ natText d.interval ++ "," ++ d.unit.text ++ "," ++
    natText d.lapses ++ ")"

end DataInterval

end Datalogger
