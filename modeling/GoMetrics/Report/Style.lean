import GoMetrics.Metrics.Record
import GoMetrics.Report.Csv
import GoMetrics.Settings.Limit

/-!
What is written about a function, and about the functions of a package together. The text style
has one line for each threshold crossed; the table style has one row of eleven fields.
-/

namespace GoMetrics

/-- A function with its place and its measures. -/
structure FuncReport where
  name : String
  pos : Position
  metrics : Metrics
  deriving Repr

inductive Style
  | text | csv
  deriving DecidableEq, Repr

namespace Style

def ofName? : String → Option Style
  | "text" => some .text
  | "csv" => some .csv
  | _ => none

/-- Why a name stands for no style. -/
def unknownMessage (name : String) : String :=
  "Unknown formatter: " ++ Text.quoted name ++ ". Choose from: csv, text"

end Style

namespace FuncReport

/-- Halstead's measures are written with three places. -/
def measure (x : Float) : String :=
  Decimal.fixed 3 x

def csvFields (r : FuncReport) : List String :=
  [r.pos.filename, toString r.pos.line, toString r.pos.column, r.name,
    toString r.metrics.cyclomatic, toString r.metrics.maintainability,
    measure r.metrics.difficulty, measure r.metrics.volume,
    toString r.metrics.lines, toString r.metrics.imports, toString r.metrics.selfImports]

def textLines (r : FuncReport) (t : Thresholds) : Except Mismatch (List String) := do
  let place := r.pos.render ++ ": func " ++ r.name
  let complex ← t.cyclomaticOver.exceededBy r.metrics.cyclomatic
  let poor ← t.maintainabilityUnder.undercutBy r.metrics.maintainability
  let first := place ++ " seems to be complex (cyclomatic complexity=" ++
    toString r.metrics.cyclomatic ++ ")"
  let second := place ++ " seems to have low maintainability (maintainability index=" ++
    toString r.metrics.maintainability ++ ")"
  return (if complex then [first] else []) ++ (if poor then [second] else [])

/-- The lines about a function. -/
def lines (r : FuncReport) (style : Style) (t : Thresholds) : Except Mismatch (List String) :=
  match style with
  | .text => r.textLines t
  | .csv => .ok [Csv.row r.csvFields]

end FuncReport

/-- Lines as written: each is followed by a newline. -/
def written (lines : List String) : String :=
  String.join (lines.map (· ++ "\n"))

/-- The row of a package: its name, no line, the number of functions as the column. -/
def Totals.csvFields (t : Totals) (name : String) : List String :=
  [name, "-1", toString t.functions, "total", toString t.cyclomatic, toString t.maintainability,
    FuncReport.measure t.difficulty, FuncReport.measure t.volume, toString t.lines,
    toString t.imports, toString t.selfImports]

def Totals.csvRow (t : Totals) (name : String) : String :=
  Csv.row (t.csvFields name)

/-- Whether a number is short enough to be written down. -/
def isWritable (i : Int) : Bool :=
  i.natAbs < Nat.pow 10 Text.digitLimit

/-- The row of totals of any size, if its numbers can be written down. -/
def Totals.csvRow? (t : Totals) (name : String) : Except Overflow String :=
  let numbers := [t.functions, t.cyclomatic, t.maintainability, t.lines, t.imports, t.selfImports]
  if numbers.all isWritable then .ok (t.csvRow name) else .error .toText

end GoMetrics
