import GoMetrics.Metrics.Halstead

/-!
The maintainability index.
-/

namespace GoMetrics

/-- The index of a function by its volume, its cyclomatic complexity and its lines, scaled to a
hundred, cut off below zero and not above. What is no number counts as zero. -/
def maintainability (volume : Float) (cyclomatic lines : Int) : Except Overflow Int := do
  let decisions ← toFloat cyclomatic
  let length ← toFloat lines
  let raw := 171.0 - 5.2 * lnOrZero volume - 0.23 * decisions - 16.2 * lnOrZero length
  let index := raw * 100.0 / 171.0
  if index > 0.0 then
    match Decimal.truncate? index with
    | some i => return i
    | none => throw .toWhole
  else return 0

end GoMetrics
