import GoMetrics.Decimal

/-!
The shortest decimal that reads back as a given double. For each count of significant digits the
two neighbours of the value on that decimal grid are tried against the interval of reals that
round to the value; the first count with a hit wins, and of two hits the nearer.
-/

namespace GoMetrics.Decimal

/-- `a * 10 ^ e` against `b * 2 ^ q`, in whole numbers. -/
def compareScaled (a : Nat) (e : Int) (b : Nat) (q : Int) : Ordering :=
  compare (a * pow10 e.toNat * pow2 (-q).toNat) (b * pow2 q.toNat * pow10 (-e).toNat)

/-- Whether `a * 10 ^ e` rounds to the positive double `m * 2 ^ q`. Below a power of two the
neighbouring double is only half as far away. -/
def readsBack (m : Nat) (q : Int) (a : Nat) (e : Int) : Bool :=
  let low := if m = pow2 52 ∧ -1074 < q then 4 * m - 1 else 4 * m - 2
  match compareScaled a e low (q - 2), compareScaled a e (4 * m + 2) (q - 2) with
  | .gt, .lt => true
  | .eq, _ | _, .eq => m % 2 == 0
  | _, _ => false

/-- The decimal exponent of the leading digit of `m * 2 ^ q`, searched for upwards. -/
def leadingFrom (m : Nat) (q : Int) : Nat → Int → Int
  | 0, e => e
  | steps + 1, e =>
    if compareScaled 1 (e + 1) m q == .gt then e else leadingFrom m q steps (e + 1)

/-- The decimal exponent of the leading digit; the logarithm gives it up to one or two. -/
def leading (m : Nat) (q : Int) : Int :=
  leadingFrom m q 5 ((m.log2 + q) * 30103 / 100000 - 2)

/-- A multiple of `10 ^ e` next to the value that reads back as the value. -/
def candidate? (m : Nat) (q e : Int) : Option Nat :=
  let num := m * pow2 q.toNat * pow10 (-e).toNat
  let den := pow2 (-q).toNat * pow10 e.toNat
  let below := num / den
  let nearest := roundDiv num den
  let farther := if nearest = below then below + 1 else below
  if readsBack m q nearest e then some nearest
  else if readsBack m q farther e then some farther
  else none

/-- The digits of the shortest decimal of a positive double, and the exponent of the first. -/
def shortest (m : Nat) (q : Int) : List Char × Int :=
  let top := leading m q
  let grids := (List.range 17).map fun (n : Nat) => top - (n : Int)
  let found := grids.findSome? fun e => (candidate? m q e).map fun a => (a, e)
  let (a, e) := found.getD (m * pow2 q.toNat, 0)
  let digits := Nat.toDigits 10 a
  (((digits.reverse.dropWhile (· == '0')).reverse), e + digits.length - 1)

/-- A value in its shortest form: positional from `1e-4` up to `1e16`, always with a point;
otherwise with an exponent of at least two digits. -/
def Parts.shortest : Parts → String
  | .nan => "nan"
  | .infinite negative => if negative then "-inf" else "inf"
  | .finite negative mantissa exponent =>
    let sign := if negative then "-" else ""
    if mantissa = 0 then sign ++ "0.0"
    else
      let (digits, top) := Decimal.shortest mantissa exponent
      if -4 ≤ top ∧ top < 16 then
        let whole := (top + 1).toNat
        let lead := List.replicate (-(top + 1)).toNat '0'
        let fill := List.replicate (whole - digits.length) '0'
        let front := if whole = 0 then ['0'] else digits.take whole ++ fill
        let back := lead ++ digits.drop whole
        sign ++ String.ofList (front ++ '.' :: if back.isEmpty then ['0'] else back)
      else
        let rest := digits.drop 1
        let point := if rest.isEmpty then [] else '.' :: rest
        sign ++ String.ofList (digits.take 1 ++ point) ++ "e" ++ (if top < 0 then "-" else "+") ++
          padded top.natAbs 2

/-- The shortest text of a double. -/
def render (x : Float) : String :=
  (parts x).shortest

end GoMetrics.Decimal
