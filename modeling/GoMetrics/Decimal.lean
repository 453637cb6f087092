/-!
Exact passage between binary floating point and decimal or whole numbers. A finite double is
`mantissa * 2 ^ exponent`, and everything here is computed on these two whole numbers.
-/

namespace GoMetrics.Decimal

def pow2 (n : Nat) : Nat := Nat.pow 2 n
def pow10 (n : Nat) : Nat := Nat.pow 10 n

/-- The quotient rounded to the nearest whole number, a half going to the even neighbour. -/
def roundDiv (num den : Nat) : Nat :=
  let q := num / den
  let twice := 2 * (num % den)
  if twice < den then q
  else if den < twice then q + 1
  else q + q % 2

/-- A double taken apart. -/
inductive Parts
  | finite (negative : Bool) (mantissa : Nat) (exponent : Int)
  | infinite (negative : Bool)
  | nan
  deriving DecidableEq, Repr

def Parts.ofBits (bits : Nat) : Parts :=
  let negative := bits / pow2 63 % 2 == 1
  let biased : Nat := bits / pow2 52 % pow2 11
  let fraction := bits % pow2 52
  if biased = 2047 then
    if fraction = 0 then .infinite negative else .nan
  else if biased = 0 then .finite negative fraction (-1074)
  else .finite negative (fraction + pow2 52) ((biased : Int) - 1075)

def parts (x : Float) : Parts :=
  .ofBits x.toBits.toNat

/-- `mantissa * 2 ^ exponent * scale`, rounded to a whole number. -/
def scaled (mantissa : Nat) (exponent : Int) (scale : Nat) : Nat :=
  match exponent with
  | .ofNat e => mantissa * pow2 e * scale
  | .negSucc e => roundDiv (mantissa * scale) (pow2 (e + 1))

/-- The digits of `n`, filled up with zeros to at least `width`. -/
def padded (n width : Nat) : String :=
  let digits := Nat.toDigits 10 n
  String.ofList (List.replicate (width - digits.length) '0' ++ digits)

/-- A value with the given number of places after the point; the exact binary value is rounded,
and a half goes to the even neighbour. Zero keeps its sign. -/
def Parts.fixed (places : Nat) : Parts → String
  | .nan => "nan"
  | .infinite negative => if negative then "-inf" else "inf"
  | .finite negative mantissa exponent =>
    let n := scaled mantissa exponent (pow10 places)
    let sign := if negative then "-" else ""
    sign ++ toString (n / pow10 places) ++ "." ++ padded (n % pow10 places) places

def fixed (places : Nat) (x : Float) : String :=
  (parts x).fixed places

/-- The bits of the double nearest to `num / den`, if it is in range; a half goes to the even
neighbour. -/
def nearestBits? (num den : Nat) : Option Nat :=
  if num = 0 then some 0
  else
    let high : Int := (num.log2 : Int) - den.log2
    let reached : Bool := match high with
      | .ofNat k => den * pow2 k ≤ num
      | .negSucc k => den ≤ num * pow2 (k + 1)
    let exponent := max (if reached then high - 52 else high - 53) (-1074)
    let mantissa := match exponent with
      | .ofNat k => roundDiv num (den * pow2 k)
      | .negSucc k => roundDiv (num * pow2 (k + 1)) den
    let bits := (exponent + 1074).toNat * pow2 52 + mantissa
    if bits < 2047 * pow2 52 then some bits else none

/-- The double nearest to a ratio, if it is in range. -/
def nearest? (negative : Bool) (num den : Nat) : Option Float :=
  (nearestBits? num den).map fun bits =>
    Float.ofBits (if negative then bits + pow2 63 else bits).toUInt64

/-- The double nearest to a whole number, if it is in range. -/
def ofInt? (i : Int) : Option Float :=
  nearest? (i < 0) i.natAbs 1

/-- The whole part of a value; `none` for what is not finite. -/
def truncate? (x : Float) : Option Int :=
  match parts x with
  | .finite negative mantissa exponent =>
    let n := match exponent with
      | .ofNat e => mantissa * pow2 e
      | .negSucc e => mantissa / pow2 (e + 1)
    some (if negative then -(n : Int) else n)
  | _ => none

end GoMetrics.Decimal
