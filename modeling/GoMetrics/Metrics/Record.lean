import GoMetrics.Metrics.Cyclomatic
import GoMetrics.Metrics.Maintainability
import GoMetrics.Syntax.File

/-!
The measures of one function, and sums of them.
-/

namespace GoMetrics

structure Metrics where
  lines : Int
  cyclomatic : Int
  difficulty : Float
  volume : Float
  maintainability : Int
  imports : Int
  selfImports : Int
  deriving Repr

/-- Why a function has no measures. -/
inductive Unmeasured
  | unruled (construct : String)
  | overflow (which : Overflow)
  deriving DecidableEq, Repr

def Unmeasured.message : Unmeasured → String
  | .unruled construct => "no symbol rule for node type " ++ construct
  | .overflow which => which.message

/-- The measures of a function in a package with the given counts of imports. -/
def Func.measure (f : Func) (imports selfImports : Int) : Except Unmeasured Metrics := do
  let halstead := Halstead.ofTables (← f.node.classify.mapError .unruled)
  let difficulty ← halstead.difficulty.mapError .overflow
  let volume ← halstead.volume.mapError .overflow
  let cyclomatic := f.node.cyclomatic
  let index ← (GoMetrics.maintainability volume cyclomatic f.lines).mapError .overflow
  return ⟨f.lines, cyclomatic, difficulty, volume, index, imports, selfImports⟩

/-- Sums over functions. The counts of imports belong to a package as a whole: adding a function
leaves them alone, and only merging sums them. -/
structure Totals where
  functions : Int := 0
  lines : Int := 0
  cyclomatic : Int := 0
  difficulty : Float := 0.0
  volume : Float := 0.0
  maintainability : Int := 0
  imports : Int := 0
  selfImports : Int := 0
  deriving Repr

namespace Totals

def zero : Totals := {}

def add (t : Totals) (m : Metrics) : Totals :=
  { t with
    functions := t.functions + 1
    lines := t.lines + m.lines
    cyclomatic := t.cyclomatic + m.cyclomatic
    difficulty := t.difficulty + m.difficulty
    volume := t.volume + m.volume
    maintainability := t.maintainability + m.maintainability }

def merge (t u : Totals) : Totals where
  functions := t.functions + u.functions
  lines := t.lines + u.lines
  cyclomatic := t.cyclomatic + u.cyclomatic
  difficulty := t.difficulty + u.difficulty
  volume := t.volume + u.volume
  maintainability := t.maintainability + u.maintainability
  imports := t.imports + u.imports
  selfImports := t.selfImports + u.selfImports

def mergeAll (ts : List Totals) : Totals :=
  ts.foldl merge zero

end Totals
end GoMetrics
