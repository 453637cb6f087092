import GoMetrics.Text.Hex
import GoMetrics.Text.Split

/-!
Sets of characters, written down as hexadecimal code points and ranges of them.
-/

namespace GoMetrics.Text

/-- The first and the last code point of each range. -/
abbrev Ranges := List (Nat × Nat)

namespace Ranges

/-- A single code point, or two of them with a hyphen between. -/
def range? (word : List Char) : Option (Nat × Nat) :=
  match splitChars '-' word with
  | [n] => (hexNumber? n).map fun n => (n, n)
  | [first, last] => do return (← hexNumber? first, ← hexNumber? last)
  | _ => none

/-- The ranges of a table, with blanks between them. -/
def parse (table : List String) : Ranges :=
  table.flatMap fun line => (splitChars ' ' line.toList).filterMap range?

def contains (r : Ranges) (c : Char) : Bool :=
  r.any fun (first, last) => first ≤ c.toNat && c.toNat ≤ last

end Ranges
end GoMetrics.Text
