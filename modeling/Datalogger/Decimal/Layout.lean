import Datalogger.Decimal.Shortest

/-!
How a number is written out: positional text, never with an exponent, and the text of JSON numbers,
which changes to an exponent for very large and very small sizes.
-/

namespace Datalogger

def digitsOf (n : Nat) : List Char :=
  Nat.toDigits 10 n

def natText (n : Nat) : String :=
  String.ofList (digitsOf n)

def intText : Int → String
  | .ofNat n => natText n
  | .negSucc n => "-" ++ natText (n + 1)

namespace Decimal

def zeros (n : Nat) : List Char :=
  List.replicate n '0'

def positional (d : Decimal) : List Char × List Char :=
  let ds := digitsOf d.digits
  match d.exponent with
  | .ofNat n => (if d.digits = 0 then ['0'] else ds ++ zeros n, [])
  | .negSucc n =>
    let places := n + 1
    if ds.length ≤ places then (['0'], zeros (places - ds.length) ++ ds)
    else (ds.take (ds.length - places), ds.drop (ds.length - places))

end Decimal

namespace Binary64

def signed (negative : Bool) (cs : List Char) : String :=
  String.ofList (if negative then '-' :: cs else cs)

/-- Shortest digits without an exponent, the greater ones on a tie; whole numbers have no point. -/
def text : Binary64 → String
  | .nan => "NaN"
  | .infinite negative => signed negative ['i', 'n', 'f']
  | .finite negative m e =>
    let (whole, fraction) := (Decimal.shortest .greater m e).positional
    signed negative (if fraction = [] then whole else whole ++ '.' :: fraction)

/-- One digit, the remaining ones after a point, and an explicitly signed exponent. -/
def scientific (ds : List Char) (power : Int) : List Char :=
  let mantissa :=
    match ds with
    | [] => []
    | [d] => [d]
    | d :: rest => d :: '.' :: rest
  mantissa ++ ['e', if power < 0 then '-' else '+'] ++ digitsOf power.natAbs

/-- JSON text of a finite number, with the even digits on a tie: positional with at least one decimal
while the decimal exponent is between -5 and 15, scientific outside. Numbers that are not finite have
the text `null`. -/
def jsonText : Binary64 → String
  | .finite negative m e =>
    let d := Decimal.shortest .even m e
    let ds := digitsOf d.digits
    let power := d.exponent + Int.ofNat ds.length - 1
    if -5 ≤ power && power ≤ 15 then
      let (whole, fraction) := d.positional
      signed negative (whole ++ '.' :: (if fraction = [] then ['0'] else fraction))
    else signed negative (scientific ds power)
  | _ => "null"

end Binary64

end Datalogger
