/-!
The operator tokens of Go.
-/

namespace GoMetrics.Operator

/-- Tokens that can stand as an assignment, increment, unary or binary operator. -/
def all : List String :=
  ["+", "-", "*", "/", "%", "&", "|", "^", "<<", ">>", "&^",
    "+=", "-=", "*=", "/=", "%=", "&=", "|=", "^=", "<<=", ">>=", "&^=",
    "&&", "||", "<-", "++", "--", "==", "<", ">", "=", "!", "~",
    "!=", "<=", ">=", ":=", "..."]

def isOperator (tok : String) : Bool :=
  all.contains tok

/-- The operators that may leave their right operand unevaluated. -/
def isLogical (tok : String) : Bool :=
  tok == "&&" || tok == "||"

end GoMetrics.Operator
