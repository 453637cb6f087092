import GoMetrics.Syntax.Operator
import GoMetrics.Syntax.Walk

/-!
Cyclomatic complexity, by counting decisions.
-/

namespace GoMetrics.Node

variable {ι : Type}

/-- Branches, loops, clauses and short-circuit operators decide. -/
def decides : Node ι → Bool
  | .ifStmt .. | .forStmt .. | .range .. | .caseClause .. | .commClause .. => true
  | .binary _ op _ => Operator.isLogical op
  | _ => false

/-- One more than the number of decisions anywhere in the node. -/
def cyclomatic (n : Node ι) : Nat :=
  n.walk.countP decides + 1

end GoMetrics.Node
