import GoMetrics.Text.Digit
import GoMetrics.Text.Split

/-!
Whole numbers as options take them. The digits are those of ASCII, a fraction is allowed if it is
zero, and leading zeros do not count towards the length of a number. Zeros may even stand in front
of a minus sign.
-/

namespace GoMetrics.CommandLine

/-- What is left without leading zeros, the underscores among them dropped too. `last` is the
character before, which stays if no further digit or sign follows. -/
def afterZero (last : Char) : List Char → Option (List Char)
  | [] => some [last]
  | c :: cs =>
    if c = '0' ∨ c = '_' then afterZero c cs
    else if c = '.' then some (last :: c :: cs)
    else if c.isDigit ∨ c = '-' then some (c :: cs)
    else none

/-- A number without leading zeros; it has to begin with a digit. -/
def withoutZeros : List Char → Option (List Char)
  | [] => none
  | c :: cs =>
    if c = '0' then afterZero c cs
    else if c.isDigit then some (c :: cs)
    else none

/-- A number without its fraction, which has to be zero. -/
def withoutFraction (cs : List Char) : Option (List Char) :=
  let front := cs.takeWhile (· != '.')
  match cs.drop front.length with
  | [] => some front
  | _ :: fraction => if !fraction.isEmpty && fraction.all (· == '0') then some front else none

/-- A number without underscores; each of them has to stand alone between two other characters. -/
def withoutUnderscores (cs : List Char) : Option (List Char) :=
  let parts := Text.splitChars '_' cs
  if parts.any (·.isEmpty) then none else some parts.flatten

/-- The value of a run of digits that does not begin with a zero, unless it is the zero. -/
def digitRun? (cs : List Char) : Option Nat :=
  if cs.isEmpty || !cs.all Char.isDigit || (cs.head? == some '0' && 1 < cs.length) then none
  else some (Text.ofDigits (cs.map fun c => c.toNat - '0'.toNat))

/-- The number that an option is given; `none` if it is not a whole number. A number has one minus
sign at most. -/
def number? (s : String) : Option Int := do
  let (negative, body) := Text.sign (Text.strip Text.isNumberBlank s.toList)
  let run ← withoutZeros body >>= withoutFraction >>= withoutUnderscores
  guard (run.length + (if negative then 1 else 0) ≤ Text.digitLimit)
  match negative, run with
  | false, '-' :: digits => (digitRun? digits).map (Text.signed true)
  | _, digits => (digitRun? digits).map (Text.signed negative)

end GoMetrics.CommandLine
