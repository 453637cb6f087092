import GoMetrics.Syntax.Draft.Expr

/-!
Drafts of statements and of declarations of names, one definition for each construct. `stmt`
chooses among them by the kind of the node.
-/

namespace GoMetrics.Draft

variable (s : Source) (ls : List String) {t : Tree} (r : Readers t)

/-! Declarations of names -/

def typeSpec : Result := do
  let name ← slotText s t .name
  let type ← r.expr ls (← slot t .type)
  return .typeSpec (.ident name .binds) (typeParams s t) type

def valueSpec : Result := do
  let type ← (t.at? .type).mapM (r.expr ls)
  return .valueSpec (bindings (names s t)) type (← slotList ls r .value)

def spec : Result :=
  match t.kind with
  | .part .typeSpec | .part .typeAlias => typeSpec s ls r
  | .part .varSpec | .part .constSpec => valueSpec s ls r
  | _ => refuse s t .unsupportedDeclaration

def genDecl (k : DeclKind) : Result := do
  let specs ← t.specs.mapM fun c => spec s ls (r.under c)
  return .genDecl k.keyword specs (t.group.hasToken "(") (t.group.hasToken ")")

/-! Assignments -/

/-- A target of a short declaration: a name is declared, anything else is an expression. -/
def target (c : Tree.Below t) : Result :=
  match c.1.kind with
  | .expr .identifier | .expr .blankIdentifier => .ok (.ident (s.textOf c.1) .binds)
  | _ => r.expr ls c

def targets (c : Tree.Below t) : Results := do
  if c.1.kind = .part .expressionList then c.1.parts.mapM (target s ls (r.under c))
  else return [← target s ls r c]

/-- What stands on the left of a sign: targets if the sign declares, expressions if not. -/
def leftOf (sign : String) (c : Tree.Below t) : Results :=
  if sign = ":=" then targets s ls r c else exprList ls r c

/-- The sign of a receive or of a range. -/
def signOf (t : Tree) : String :=
  if t.hasToken ":=" then ":=" else "="

def receive : Result := do
  let right ← r.expr ls (← slot t .right)
  match t.at? .left with
  | none => return .exprStmt right
  | some c => return .assign (← leftOf s ls r (signOf t) c) (signOf t) [right]

def assignment : Result := do
  let rhs ← slotList ls r .right
  let lhs ← slotList ls r .left
  return .assign lhs (← slotText s t .operator) rhs

def shortDeclaration : Result := do
  let rhs ← slotList ls r .right
  return .assign (← targets s ls r (← slot t .left)) ":=" rhs

/-! Simple statements -/

def send : Result := do
  let chan ← r.expr ls (← slot t .channel)
  return .send chan (← r.expr ls (← slot t .value))

def ret : Result :=
  match t.parts with
  | [] => .ok (.ret [])
  | c :: _ => do return .ret (← exprList ls r c)

/-- A jump, with its label if it has one. -/
def branch (tok : String) : Result := do
  return .branch tok (← (t.parts.find? (·.1.kind == .expr .labelName)).mapM (r.expr ls))

/-- A label stands before the first part that begins after it, or before nothing. -/
def labeled : Result := do
  let label ← slot t .label
  let body ← match t.parts.find? (label.1.stop ≤ ·.1.start) with
    | none => pure .empty
    | some c => r.stmt ls c
  return .labeled (.ident (s.textOf label.1) (.settled true)) body

/-! Branches and loops -/

def ifElse : Result := do
  let init ← (t.at? .initializer).mapM (r.stmt ls)
  let cond ← r.expr ls (← slot t .condition)
  let body ← block ls (r.under (← slot t .consequence))
  return .ifStmt cond body init (← (t.at? .alternative).mapM (r.stmt ls))

/-- A loop over a range, read from its header. -/
def rangeLoop (body : Result) : Result := do
  let x ← r.expr ls (← slot t .right)
  match t.at? .left with
  | none => return .range x (← body) none none "" []
  | some c =>
    match ← leftOf s ls r (signOf t) c with
    | [] => .error (.lacks .part)
    | key :: rest => return .range x (← body) (some key) rest.head? (signOf t) rest.tail

/-- A loop with three clauses, read from its header. -/
def clauseLoop (body : Result) : Result := do
  let init ← (t.at? .initializer).mapM (r.stmt ls)
  let cond ← (t.at? .condition).mapM (r.expr ls)
  let post ← (t.at? .update).mapM (r.stmt ls)
  return .forStmt (← body) init cond post

/-- A loop; what ends before the body begins is the header. -/
def loop : Result := do
  let c ← slot t .body
  let body := block ls (r.under c)
  match t.parts.find? (·.1.stop ≤ c.1.start) with
  | none => return .forStmt (← body) none none none
  | some header =>
    match header.1.kind with
    | .part .rangeClause => rangeLoop s ls (r.under header) body
    | .part .forClause => clauseLoop ls (r.under header) body
    | _ =>
      let cond ← r.expr ls header
      return .forStmt (← body) none (some cond) none

/-! Clauses -/

/-- Whether the colon of a clause is there, and the statements after it. -/
def afterColon (t : Tree) : Bool × List (Tree.Below t) :=
  match t.children.find? (·.kind == .other ":") with
  | none => (false, [])
  | some colon => (!colon.isMissing, t.parts.filter fun c => colon.stop ≤ c.1.start)

theorem mem_parts_of_mem_afterColon {t : Tree} {c : Tree.Below t} (h : c ∈ (afterColon t).2) :
    c ∈ t.parts := by
  unfold afterColon at h
  split at h
  · cases h
  · exact (List.mem_filter.1 h).1

/-- What a clause compares with; a default clause compares with nothing. -/
def caseExprs : Except Fault (Option (List (Node Role))) :=
  match t.kind with
  | .part .defaultCase => .ok none
  | .part .typeCase => some <$> (t.allAt .type).mapM (r.expr ls)
  | _ => some <$> slotList ls r .value

/-- A clause of either kind of switch. -/
def caseClause : Result := do
  let exprs ← caseExprs ls r
  let body ← (afterColon t).2.mapM (r.stmts ls)
  return .caseClause exprs body.flatten (afterColon t).1

/-- A clause of a select. -/
def commClause : Result := do
  let comm ← (t.at? .communication).mapM (r.stmt ls)
  let body ← (afterColon t).2.mapM (r.stmts ls)
  return .commClause comm body.flatten (afterColon t).1

/-- The block of the clauses of one kind, and of default clauses. -/
def clauses (k : PartKind) (clause : (c : Tree.Below t) → Result) : Result := do
  let own := t.parts.filter fun c => c.1.kind = .part k ∨ c.1.kind = .part .defaultCase
  return .block (← own.mapM clause) (t.hasToken "\x7b") (t.hasToken "\x7d")

def switch : Result := do
  let init ← (t.at? .initializer).mapM (r.stmt ls)
  let tag ← (t.at? .value).mapM (r.expr ls)
  let body ← clauses .expressionCase fun c => caseClause ls (r.under c)
  return .switch body init tag

/-- The guard of a type switch, which may name what it looks at. -/
def guard : Result := do
  let x ← r.expr ls (← slot t .value)
  let x := .typeAssert x none (t.hasToken "(") (t.hasToken ")")
  match t.at? .alias with
  | none => return .exprStmt x
  | some c => return .assign (← targets s ls r c) ":=" [x]

def typeSwitch : Result := do
  let init ← (t.at? .initializer).mapM (r.stmt ls)
  let guard ← guard s ls r
  let body ← clauses .typeCase fun c => caseClause ls (r.under c)
  return .typeSwitch guard body init

def select : Result := do
  return .select (← clauses .communicationCase fun c => commClause ls (r.under c))

/-- A statement. -/
def stmt : Result :=
  match t.kind with
  | .expr _ => do return .exprStmt (← expr s ls r)
  | .decl k => do return .declStmt (← genDecl s ls r k)
  | .stmt .expressionStatement => do return .exprStmt (← r.expr ls (← first t))
  | .stmt .sendStatement => send ls r
  | .stmt .receiveStatement => receive s ls r
  | .stmt .incStatement => do return .incDec (← r.expr ls (← first t)) "++"
  | .stmt .decStatement => do return .incDec (← r.expr ls (← first t)) "--"
  | .stmt .assignmentStatement => assignment s ls r
  | .stmt .shortVarDeclaration => shortDeclaration s ls r
  | .stmt .goStatement => do return .go (← r.expr ls (← first t))
  | .stmt .deferStatement => do return .defer (← r.expr ls (← first t))
  | .stmt .returnStatement => ret ls r
  | .stmt .breakStatement => branch ls r "break"
  | .stmt .continueStatement => branch ls r "continue"
  | .stmt .gotoStatement => branch ls r "goto"
  | .stmt .fallthroughStatement => branch ls r "fallthrough"
  | .stmt .labeledStatement | .stmt .emptyLabeledStatement => labeled s ls r
  | .stmt .ifStatement => ifElse ls r
  | .stmt .forStatement => loop s ls r
  | .stmt .expressionSwitchStatement => switch ls r
  | .stmt .typeSwitchStatement => typeSwitch s ls r
  | .stmt .selectStatement => select ls r
  | .stmt .block => block ls r
  | .stmt .emptyStatement => .ok .empty
  | _ => refuse s t .unsupportedStatement

/-- The statements that a node among statements stands for; lists of statements are flattened. -/
def stmts : Results := do
  if t.kind = .part .statementList then return (← t.parts.mapM (r.stmts ls)).flatten
  else return [← stmt s ls r]

end GoMetrics.Draft
