import GoMetrics.Decimal
import GoMetrics.Metrics.Symbol
import GoMetrics.Text.Digit

/-!
Halstead's measures of a table of operators and a table of operands.
-/

namespace GoMetrics

/-- A number that cannot be turned into a double, a whole number or a text. -/
inductive Overflow
  | toFloat
  | toWhole
  | toText
  deriving DecidableEq, Repr

def Overflow.message : Overflow → String
  | .toFloat => "int too large to convert to float"
  | .toWhole => "cannot convert float infinity to integer"
  | .toText =>
    "Exceeds the limit (" ++ toString Text.digitLimit ++
      " digits) for integer string conversion; " ++
      "use sys.set_int_max_str_digits() to increase the limit"

def toFloat (i : Int) : Except Overflow Float :=
  match Decimal.ofInt? i with
  | some x => .ok x
  | none => .error .toFloat

/-- The binary logarithm, zero for what is not positive. -/
def log2OrZero (x : Float) : Float :=
  if x ≤ 0 then 0.0 else x.log2

/-- The natural logarithm, zero for what is not positive. -/
def lnOrZero (x : Float) : Float :=
  if x ≤ 0 then 0.0 else x.log

structure Halstead where
  distinctOperators : Nat
  distinctOperands : Nat
  totalOperators : Int
  totalOperands : Int
  deriving DecidableEq, Repr

namespace Halstead

def ofTables (t : SymbolTables) : Halstead :=
  ⟨t.operators.length, t.operands.length, t.operators.total, t.operands.total⟩

def vocabulary (h : Halstead) : Nat :=
  h.distinctOperators + h.distinctOperands

def length (h : Halstead) : Int :=
  h.totalOperators + h.totalOperands

/-- Length times the binary logarithm of the vocabulary. -/
def volume (h : Halstead) : Except Overflow Float := do
  return (← toFloat h.length) * log2OrZero (← toFloat h.vocabulary)

/-- Distinct operators times total operands over twice the distinct operands, of which there is
taken to be at least one. -/
def difficulty (h : Halstead) : Except Overflow Float := do
  let distinct := if h.distinctOperands = 0 then 1 else h.distinctOperands
  return (← toFloat (h.distinctOperators * h.totalOperands)) / (← toFloat (2 * distinct))

end Halstead
end GoMetrics
