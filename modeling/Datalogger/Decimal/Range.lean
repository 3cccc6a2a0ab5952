/-!
The ranges of integers of 32 and 64 bits.
-/

namespace Datalogger.Range

def greatestNat32 : Nat := 0xFFFFFFFF

def greatestNat64 : Nat := 0xFFFFFFFFFFFFFFFF

def leastInt32 : Int := -0x80000000

def greatestInt32 : Int := 0x7FFFFFFF

def leastInt64 : Int := -0x8000000000000000

def greatestInt64 : Int := 0x7FFFFFFFFFFFFFFF

end Datalogger.Range
