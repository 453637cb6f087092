import GoMetrics.Syntax.Node
import GoMetrics.Syntax.Operator

/-!
Operators and operands. Every construct contributes symbols by a fixed rule: keywords and
punctuation are operators, literals are operands, and a bracketing pair counts once, if both of
its delimiters are there. A resolved identifier is an operand and an unresolved one an operator.
A keyword that introduces a declaration or a jump is no operator token and goes to the operands.

What is no construct has no rule. It shows up as an `unruled` symbol, and no tables are made of
symbols with one of these among them.
-/

namespace GoMetrics

inductive Symbol
  | operator (text : String)
  | operand (text : String)
  | unruled (construct : String)
  deriving DecidableEq, Repr

namespace Symbol

/-- A bracketing pair. -/
def pair (opened closed : Bool) (text : String) : List Symbol :=
  if opened && closed then [.operator text] else []

/-- A token that is an operator only if it is an operator token. -/
def token (text : String) : Symbol :=
  if Operator.isOperator text then .operator text else .operand text

end Symbol

namespace Node

mutual
/-- The symbols of a node, in the order in which they are met. Of a function declaration the
signature is left out, of a field the names; type and values of a declaration of several names
count once for each name. -/
def symbols : Node Bool → List Symbol
  | .ident name resolved => [if resolved then .operand name else .operator name]
  | .basicLit _ value => [.operand value]
  | .paren x l r => Symbol.pair l r "()" ++ x.symbols
  | .selector x sel => x.symbols ++ sel.symbols
  | .index x is l r => x.symbols ++ Symbol.pair l r "[]" ++ symbolsAll is
  | .slice x low high max l r =>
      x.symbols ++ Symbol.pair l r "[]" ++ symbolsOpt low ++ symbolsOpt high ++ symbolsOpt max
  | .typeAssert x type l r => x.symbols ++ Symbol.pair l r "()" ++ symbolsOpt type
  | .call fn args spread l r =>
      fn.symbols ++ Symbol.pair l r "()" ++ (if spread then [.operator "..."] else []) ++
        symbolsAll args
  | .star x => .operator "*" :: x.symbols
  | .unary op x => .token op :: x.symbols
  | .binary x op y => x.symbols ++ .operator op :: y.symbols
  | .keyValue k v colon => k.symbols ++ (if colon then [.operator ":"] else []) ++ v.symbols
  | .funcType ps rs keyword =>
      (if keyword then [.operator "func"] else []) ++ .operator "()" :: symbolsAll ps ++
        symbolsAll rs
  | .funcLit type body => type.symbols ++ body.symbols
  | .compositeLit type elts l r => Symbol.pair l r "\x7b\x7d" ++ symbolsOpt type ++ symbolsAll elts
  | .ellipsis elt => .operator "..." :: symbolsOpt elt
  | .chanType v dir =>
      .operator "chan" :: (if dir.arrow then [.operator "<-"] else []) ++ v.symbols
  | .arrayType elt len l r => Symbol.pair l r "[]" ++ symbolsOpt len ++ elt.symbols
  | .mapType k v => .operator "map" :: .operator "[]" :: k.symbols ++ v.symbols
  | .structType fs l r => .operator "struct" :: Symbol.pair l r "\x7b\x7d" ++ symbolsAll fs
  | .interfaceType ms l r => .operator "interface" :: Symbol.pair l r "\x7b\x7d" ++ symbolsAll ms
  | .field _ type => symbolsOpt type
  | .block ss l r => Symbol.pair l r "\x7b\x7d" ++ symbolsAll ss
  | .declStmt d => d.symbols
  | .empty => []
  | .labeled label stmt => label.symbols ++ .operator ":" :: stmt.symbols
  | .exprStmt x => x.symbols
  | .send c v => c.symbols ++ .operator "<-" :: v.symbols
  | .incDec x tok => x.symbols ++ [.token tok]
  | .assign lhs tok rhs => .token tok :: symbolsAll lhs ++ symbolsAll rhs
  | .go c => .operator "go" :: c.symbols
  | .defer c => .operator "defer" :: c.symbols
  | .ret rs => .operator "return" :: symbolsAll rs
  | .branch tok label => .token tok :: symbolsOpt label
  | .ifStmt cond body init orElse =>
      .operator "if" :: symbolsOpt init ++ cond.symbols ++ body.symbols ++
        (if orElse.isSome then [.operator "else"] else []) ++ symbolsOpt orElse
  | .caseClause exprs body colon =>
      (if exprs.isNone then [.operator "default"] else []) ++ symbolsOptAll exprs ++
        (if colon then [.operator ":"] else []) ++ symbolsAll body
  | .switch body init tag =>
      .operator "switch" :: symbolsOpt init ++ symbolsOpt tag ++ body.symbols
  | .typeSwitch guard body init =>
      .operator "switch" :: symbolsOpt init ++ guard.symbols ++ body.symbols
  | .commClause comm body colon =>
      (if comm.isNone then [.operator "default"] else []) ++ symbolsOpt comm ++
        (if colon then [.operator ":"] else []) ++ symbolsAll body
  | .select body => .operator "select" :: body.symbols
  | .forStmt body init cond post =>
      .operator "for" :: symbolsOpt init ++ symbolsOpt cond ++ symbolsOpt post ++ body.symbols
  | .range x body key value tok _ =>
      .operator "for" :: symbolsOpt key ++ (if key.isSome then [.token tok] else []) ++
        symbolsOpt value ++ .operator "range" :: x.symbols ++ body.symbols
  | .valueSpec names type values => symbolsEach names (symbolsOpt type ++ symbolsAll values)
  | .typeSpec name _ type => name.symbols ++ type.symbols
  | .importSpec .. => []
  | .genDecl tok specs l r => Symbol.pair l r "()" ++ .token tok :: symbolsAll specs
  | .funcDecl name _ _ _ _ _ body recv =>
      .operator "func" :: .operator name :: .operator "()" ::
        (if recv.isSome then [.operator "()"] else []) ++ symbolsOpt body
  | .position _ => [.unruled "Position"]
  | .file .. => [.unruled "File"]
  | .package .. => [.unruled "CompilationUnit"]
termination_by structural n => n

def symbolsAll : List (Node Bool) → List Symbol
  | [] => []
  | n :: ns => n.symbols ++ symbolsAll ns
termination_by structural ns => ns

def symbolsOpt : Option (Node Bool) → List Symbol
  | none => []
  | some n => n.symbols
termination_by structural n => n

def symbolsOptAll : Option (List (Node Bool)) → List Symbol
  | none => []
  | some ns => symbolsAll ns
termination_by structural ns => ns

/-- The symbols of each name, every time followed by what is declared of it. -/
def symbolsEach : List (Node Bool) → List Symbol → List Symbol
  | [], _ => []
  | n :: ns, shared => n.symbols ++ shared ++ symbolsEach ns shared
termination_by structural ns => ns
end

end Node

/-- How often each text occurs, in order of first occurrence. -/
abbrev Tally := List (String × Int)

namespace Tally

def bump : Tally → String → Tally
  | [], text => [(text, 1)]
  | (t, n) :: rest, text => if t = text then (t, n + 1) :: rest else (t, n) :: bump rest text

def total (t : Tally) : Int :=
  t.foldr (fun entry n => entry.2 + n) 0

/-- The count of a text, zero if it does not occur. -/
def count (t : Tally) (text : String) : Int :=
  (t.lookup text).getD 0

end Tally

/-- Operators and operands of a piece of syntax. -/
structure SymbolTables where
  operators : Tally
  operands : Tally
  deriving DecidableEq, Repr

namespace SymbolTables

def empty : SymbolTables := ⟨[], []⟩

def add (t : SymbolTables) : Symbol → SymbolTables
  | .operator text => { t with operators := t.operators.bump text }
  | .operand text => { t with operands := t.operands.bump text }
  | .unruled _ => t

def ofSymbols (ss : List Symbol) : SymbolTables :=
  ss.foldl add empty

end SymbolTables

/-- The first thing met that no rule says how to count. -/
def firstUnruled? (ss : List Symbol) : Option String :=
  ss.findSome? fun
    | .unruled construct => some construct
    | _ => none

/-- The tables of a node, or the name of what has no rule. -/
def Node.classify (n : Node Bool) : Except String SymbolTables :=
  match firstUnruled? n.symbols with
  | some construct => .error construct
  | none => .ok (.ofSymbols n.symbols)

end GoMetrics
