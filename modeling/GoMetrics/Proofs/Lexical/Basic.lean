import GoMetrics.Proofs.Binding.Flat
import GoMetrics.Syntax.File

/-!
Lexical visibility as a function of the parse tree. A place is described by the flat list of the
names in force there. Reading a node passes its list on to the parts of the node: `visits` says
which parts are read, how, and with which names in force, and `declared` which names a node leaves
in force for what follows it. There is no state: what a part declares reaches only the places that
the table extends by it, and a construct with a scope of its own declares nothing outside.

`sites` lists what is measured of a tree in the order of the finished construct, each identifier
with the names in force where it stands.
-/

namespace GoMetrics.Lexical

/-- A place in a tree: the names in force there, and the labels of the function around it. -/
structure Context extends Visible where
  labels : List String
  deriving DecidableEq, Repr

namespace Context

def declare (v : Context) (names : List String) : Context :=
  { v with toVisible := v.toVisible.declare names }

def inside (v : Context) : Context :=
  { v with toVisible := v.toVisible.inside }

/-- In a function that has labels of its own. -/
def enter (v : Context) (labels : List String) : Context :=
  ⟨v.toVisible.inside, labels⟩

@[simp] theorem toVisible_declare (v : Context) (names : List String) :
    (v.declare names).toVisible = v.toVisible.declare names :=
  rfl

@[simp] theorem labels_declare (v : Context) (names : List String) :
    (v.declare names).labels = v.labels :=
  rfl

@[simp] theorem declare_nil (v : Context) : v.declare [] = v := by
  simp [declare]

@[simp] theorem declare_append (v : Context) (xs ys : List String) :
    v.declare (xs ++ ys) = (v.declare xs).declare ys := by
  simp [declare]

@[simp] theorem toVisible_inside (v : Context) : v.inside.toVisible = v.toVisible.inside :=
  rfl

@[simp] theorem labels_inside (v : Context) : v.inside.labels = v.labels :=
  rfl

/-- Inside a declaration one stays inside. -/
theorem inside_eq_self {v : Context} (h : v.top = false) : v.inside = v := by
  obtain ⟨⟨locals, above, top⟩, labels⟩ := v
  cases h
  rfl

@[simp] theorem toVisible_enter (v : Context) (labels : List String) :
    (v.enter labels).toVisible = v.toVisible.inside :=
  rfl

@[simp] theorem labels_enter (v : Context) (labels : List String) :
    (v.enter labels).labels = labels :=
  rfl

end Context

/-- How a node is read. -/
inductive Mode
  /-- For its text alone, which stands as an identifier. -/
  | text (role : Role)
  | expr
  /-- A list of expressions, or a single one. -/
  | exprs
  /-- A node whose parts are all expressions. -/
  | operands
  | args
  | arg
  | elements
  | element
  | keyed
  | key
  | bareKey
  | params
  | param
  | result
  | fields
  | field
  | member
  | block
  | stmts
  | stmt
  | targets
  | target
  /-- Targets of a range loop, which has room for two; they declare names or not. -/
  | loopTargets (declares : Bool)
  | header
  | clause
  | commClause
  | specs
  | spec
  | func
  deriving DecidableEq, Repr

namespace Mode

/-- Plain names are read for their text. -/
def atExpr : Kind → Mode
  | .expr .identifier | .expr .typeIdentifier | .expr .packageIdentifier | .expr .nilName
  | .expr .trueName | .expr .falseName | .expr .iotaName => .text .use
  | .expr .fieldIdentifier => .text (.settled false)
  | _ => .expr

def atTarget : Kind → Mode
  | .expr .identifier | .expr .blankIdentifier => .text .binds
  | k => atExpr k

def atKey : Kind → Mode
  | .expr .identifier | .expr .fieldIdentifier => .text .key
  | k => atExpr k

def atStmt : Kind → Mode
  | .expr k => atExpr (.expr k)
  | _ => .stmt

/-- How a node of a given kind is in fact read: wrappers are optional in most places. -/
def on (m : Mode) (k : Kind) : Mode :=
  match m with
  | .expr => atExpr k
  | .exprs => if k = .part .expressionList then .exprs else atExpr k
  | .arg => if k = .part .variadicArgument then .arg else atExpr k
  | .element =>
    if k = .part .keyedElement then .keyed
    else if k = .part .literalElement then .element else atExpr k
  | .key => if k = .part .literalElement then .key else atKey k
  | .bareKey => atKey k
  | .result => if k = .part .parameterList then .params else atExpr k
  | .member => if k = .part .methodElem ∨ k = .part .methodSpec then .member else atExpr k
  | .targets => if k = .part .expressionList then .targets else atTarget k
  | .target => atTarget k
  | .loopTargets declares =>
    if k = .part .expressionList then .loopTargets declares
    else if declares then atTarget k else atExpr k
  | .header => if k = .part .rangeClause ∨ k = .part .forClause then .header else atExpr k
  | .stmts => if k = .part .statementList then .stmts else atStmt k
  | .stmt => atStmt k
  | .specs => if k.isSpecList then .specs else .spec
  | m => m

/-- A target that is no name is an expression. -/
theorem on_target {k : Kind} (hi : k ≠ .expr .identifier) (hb : k ≠ .expr .blankIdentifier) :
    target.on k = expr.on k := by
  simp only [on]
  unfold atTarget
  split <;> first | contradiction | rfl

/-- A key that is no name is an expression. -/
theorem on_bareKey {k : Kind} (hi : k ≠ .expr .identifier) (hf : k ≠ .expr .fieldIdentifier) :
    bareKey.on k = expr.on k := by
  simp only [on]
  unfold atKey
  split <;> first | contradiction | rfl

end Mode

variable (s : Source)

/-- The statement after a label: the first part that begins behind it. -/
def labeled? (t : Tree) : Option (Tree.Below t) :=
  (t.at? .label).bind fun label => t.parts.find? (label.1.stop ≤ ·.1.start)

/-- The header of a loop: the first part that ends before the body. -/
def header? (t : Tree) : Option (Tree.Below t) :=
  (t.at? .body).bind fun body => t.parts.find? (·.1.stop ≤ body.1.start)

theorem labeled?_eq {t : Tree} {label : Tree.Below t} (h : t.at? .label = some label) :
    labeled? t = t.parts.find? (label.1.stop ≤ ·.1.start) := by
  rw [labeled?, h]
  rfl

theorem header?_eq {t : Tree} {body : Tree.Below t} (h : t.at? .body = some body) :
    header? t = t.parts.find? (·.1.stop ≤ body.1.start) := by
  rw [header?, h]
  rfl

/-- The clauses of a switch or a select. -/
def clauses (k : PartKind) (t : Tree) : List (Tree.Below t) :=
  t.parts.filter fun c => c.1.kind = .part k ∨ c.1.kind = .part .defaultCase

/-- The labels in force in the body of a function. -/
def labels (t : Tree) : List String :=
  match t.at? .body with
  | none => []
  | some c => (s.labels? c.1).getD []

/-- The names that stay in force after a node that is read in the given mode. -/
def declared (m : Mode) (t : Tree) : List String :=
  match m.on t.kind with
  | .text .binds => [s.textOf t]
  | .param => Draft.names s t
  | .params => t.parts.flatMap fun c => declared .param c.1
  | .targets => t.parts.flatMap fun c => declared .target c.1
  | .spec =>
    match t.kind with
    | .part .typeSpec | .part .typeAlias => (t.at? .name).toList.map fun c => s.textOf c.1
    | _ => Draft.names s t
  | .specs => t.parts.flatMap fun c => declared .spec c.1
  | .stmts => t.parts.flatMap fun c => declared .stmts c.1
  | .stmt =>
    match t.kind with
    | .decl _ => t.parts.flatMap fun c => declared .specs c.1
    | .stmt .shortVarDeclaration => (t.at? .left).toList.flatMap fun c => declared .targets c.1
    | .stmt .receiveStatement =>
      if t.hasToken ":=" then (t.at? .left).toList.flatMap fun c => declared .targets c.1 else []
    | .stmt .labeledStatement | .stmt .emptyLabeledStatement =>
      (labeled? t).toList.flatMap fun c => declared .stmt c.1
    | _ => []
  | .header =>
    match t.kind with
    | .part .rangeClause =>
      if t.hasToken ":=" then (t.at? .left).toList.flatMap fun c => declared .targets c.1 else []
    | _ =>
      ((t.at? .initializer).toList.flatMap fun c => declared .stmt c.1) ++
        (t.at? .update).toList.flatMap fun c => declared .stmt c.1
  | _ => []
termination_by t.size
decreasing_by all_goals exact c.2

/-- The names declared by the tree in a slot, if there is one. -/
def gains (m : Mode) {t : Tree} (o : Option (Tree.Below t)) : List String :=
  o.toList.flatMap fun c => declared s m c.1

/-- A part that is read at a node: which one, how, and with which names in force. -/
structure Visit (t : Tree) where
  mode : Mode
  part : Tree.Below t
  seen : Context

section

variable {t : Tree}

/-- Parts that are read with the same names in force. -/
def each (m : Mode) (cs : List (Tree.Below t)) (v : Context) : List (Visit t) :=
  cs.map fun c => ⟨m, c, v⟩

/-- The part in a slot that may be empty. -/
def one (m : Mode) (o : Option (Tree.Below t)) (v : Context) : List (Visit t) :=
  each m o.toList v

/-- Parts that are read in turn, each with what those before it declared. -/
def inTurn (m : Mode) : List (Tree.Below t) → Context → List (Visit t)
  | [], _ => []
  | c :: cs, v => ⟨m, c, v⟩ :: inTurn m cs (v.declare (declared s m c.1))

end

/-- Parameters and results; results see the parameters. -/
def signature (t : Tree) (v : Context) : List (Visit t) :=
  one .params (t.at? .parameters) v ++
    one .result (t.at? .result) (v.declare (gains s .params (t.at? .parameters)))

/-- The names in force behind a signature. -/
def pastSignature (t : Tree) (v : Context) : Context :=
  (v.declare (gains s .params (t.at? .parameters))).declare (gains s .result (t.at? .result))

def exprVisits (t : Tree) (v : Context) : List (Visit t) :=
  match t.kind with
  | .expr .parenthesizedExpression | .expr .parenthesizedType | .expr .pointerType
  | .expr .negatedType => one .expr t.parts.head? v
  | .expr .selectorExpression =>
    one .expr (t.at? .operand) v ++ one (.text (.settled false)) (t.at? .field) v
  | .expr .indexExpression => one .expr (t.at? .operand) v ++ each .expr (t.allAt .index) v
  | .expr .sliceExpression =>
    one .expr (t.at? .operand) v ++ one .expr (t.at? .start) v ++ one .expr (t.at? .stop) v ++
      one .expr (t.at? .capacity) v
  | .expr .typeAssertionExpression => one .expr (t.at? .operand) v ++ one .expr (t.at? .type) v
  | .expr .typeConversionExpression => one .expr (t.at? .type) v ++ one .expr (t.at? .operand) v
  | .expr .typeInstantiationExpression | .expr .typeElem | .expr .typeConstraint =>
    each .expr t.parts v
  | .expr .callExpression =>
    one .expr (t.at? .function) v ++ one .operands (t.at? .typeArguments) v ++
      one .args (t.at? .arguments) v
  | .expr .unaryExpression => one .expr (t.at? .operand) v
  | .expr .binaryExpression => one .expr (t.at? .left) v ++ one .expr (t.at? .right) v
  | .expr .compositeLiteral => one .expr (t.at? .type) v ++ one .elements (t.at? .body) v
  | .expr .literalValue => each .element t.parts v
  | .expr .funcLiteral =>
    signature s t (v.enter (labels s t)) ++
      one .block (t.at? .body) (pastSignature s t (v.enter (labels s t)))
  | .expr .arrayType => one .expr (t.at? .element) v ++ one .expr (t.at? .length) v
  | .expr .implicitLengthArrayType | .expr .sliceType => one .expr (t.at? .element) v
  | .expr .mapType => one .expr (t.at? .key) v ++ one .expr (t.at? .value) v
  | .expr .channelType => one .expr (t.at? .value) v
  | .expr .functionType => signature s t v.inside
  | .expr .structType => one .fields (t.parts.find? (·.1.kind == .part .fieldDeclarationList)) v
  | .expr .interfaceType => each .member t.parts v
  | .expr .qualifiedType =>
    one (.text .use) (t.at? .package) v ++ one (.text (.settled false)) (t.at? .name) v
  | .expr .genericType => one .expr (t.at? .type) v ++ one .operands (t.at? .typeArguments) v
  | _ => []

/-- A loop: the body sees what the header declares. The targets of a range stand behind the body. -/
def loopVisits (t : Tree) (v : Context) : List (Visit t) :=
  let body := one .block (t.at? .body) (v.declare (gains s .header (header? t)))
  match header? t with
  | some header =>
    if header.1.kind = .part .rangeClause then
      one .expr ((header.1.at? .right).map header.trans) v ++ body ++
        one (.loopTargets (header.1.hasToken ":=")) ((header.1.at? .left).map header.trans) v
    else body ++ one .header (some header) v
  | none => body

def stmtVisits (t : Tree) (v : Context) : List (Visit t) :=
  let v₁ := v.inside
  let v₂ := v₁.declare (gains s .stmt (t.at? .initializer))
  match t.kind with
  | .decl _ => inTurn s .specs t.parts v
  | .stmt .expressionStatement | .stmt .incStatement | .stmt .decStatement | .stmt .goStatement
  | .stmt .deferStatement => one .expr t.parts.head? v
  | .stmt .sendStatement => one .expr (t.at? .channel) v ++ one .expr (t.at? .value) v
  | .stmt .receiveStatement =>
    one (if t.hasToken ":=" then .targets else .exprs) (t.at? .left) v ++
      one .expr (t.at? .right) v
  | .stmt .assignmentStatement => one .exprs (t.at? .left) v ++ one .exprs (t.at? .right) v
  | .stmt .shortVarDeclaration => one .targets (t.at? .left) v ++ one .exprs (t.at? .right) v
  | .stmt .returnStatement => one .exprs t.parts.head? v
  | .stmt .breakStatement | .stmt .continueStatement | .stmt .gotoStatement
  | .stmt .fallthroughStatement => one .expr (t.parts.find? (·.1.kind == .expr .labelName)) v
  | .stmt .labeledStatement | .stmt .emptyLabeledStatement =>
    one (.text (.settled true)) (t.at? .label) v ++ one .stmt (labeled? t) v
  | .stmt .ifStatement =>
    one .expr (t.at? .condition) v₂ ++ one .block (t.at? .consequence) v₂ ++
      one .stmt (t.at? .initializer) v₁ ++ one .stmt (t.at? .alternative) v₂
  | .stmt .forStatement => loopVisits s t v₁
  | .stmt .expressionSwitchStatement =>
    each .clause (clauses .expressionCase t) v₂ ++ one .stmt (t.at? .initializer) v₁ ++
      one .expr (t.at? .value) v₂
  | .stmt .typeSwitchStatement =>
    one .targets (t.at? .alias) v₂ ++ one .expr (t.at? .value) v₂ ++
      each .clause (clauses .typeCase t) (v₂.declare (gains s .targets (t.at? .alias))) ++
      one .stmt (t.at? .initializer) v₁
  | .stmt .selectStatement => each .commClause (clauses .communicationCase t) v₁
  | .stmt .block => inTurn s .stmts t.parts v₁
  | _ => []

def specVisits (t : Tree) (v : Context) : List (Visit t) :=
  match t.kind with
  | .part .typeSpec | .part .typeAlias =>
    one (.text .binds) (t.at? .name) v ++
      one .expr (t.at? .type)
        ((v.declare (declared s .spec t)).inside.declare (Draft.typeParams s t))
  | _ =>
    each (.text .binds) (t.allAt .name) v ++ one .expr (t.at? .type) v ++
      one .exprs (t.at? .value) v

def clauseVisits (t : Tree) (v : Context) : List (Visit t) :=
  (match t.kind with
    | .part .defaultCase => []
    | .part .typeCase => each .expr (t.allAt .type) v
    | _ => one .exprs (t.at? .value) v) ++
    inTurn s .stmts (Draft.afterColon t).2 v

/-- Receiver and type parameters are in force in the signature, and all of them in the body. -/
def funcVisits (t : Tree) (v : Context) : List (Visit t) :=
  let method := t.kind = .methodDeclaration
  let v₁ := v.enter (labels s t)
  let recv := if method then t.at? .receiver else none
  let v₂ := (v₁.declare (gains s .params recv)).declare (Draft.typeParams s t)
  one (.text (if method then .settled false else .use)) (t.at? .name) v ++ signature s t v₂ ++
    one .block (t.at? .body) (pastSignature s t v₂) ++ one .params recv v₁

/-- The parts that are read at a node, in the order of the finished construct. -/
def visits (m : Mode) (t : Tree) (v : Context) : List (Visit t) :=
  match m.on t.kind with
  | .text _ => []
  | .expr => exprVisits s t v
  | .exprs | .operands => each .expr t.parts v
  | .args => each .arg t.parts v
  | .arg | .element => one .expr t.parts.head? v
  | .elements => each .element t.parts v
  | .keyed => one .key t.parts.head? v ++ one .element t.parts.getLast? v
  | .key => one .bareKey t.parts.head? v
  | .params => inTurn s .param t.parts v
  | .param => each (.text .binds) (t.allAt .name) v ++ one .expr (t.at? .type) v
  | .fields => each .field t.parts v
  | .field => each (.text (.settled true)) (t.allAt .name) v ++ one .expr (t.at? .type) v
  | .member => one (.text (.settled true)) (t.at? .name) v ++ signature s t v.inside
  | .block => inTurn s .stmts t.parts v.inside
  | .stmts => inTurn s .stmts t.parts v
  | .stmt => stmtVisits s t v
  | .targets => inTurn s .target t.parts v
  | .loopTargets true => inTurn s .target (t.parts.take 2) v
  | .loopTargets false => each .expr (t.parts.take 2) v
  | .header =>
    match t.kind with
    | .part .rangeClause =>
      one .expr (t.at? .right) v ++ one (.loopTargets (t.hasToken ":=")) (t.at? .left) v
    | _ =>
      one .stmt (t.at? .initializer) v ++
        one .expr (t.at? .condition) (v.declare (gains s .stmt (t.at? .initializer))) ++
        one .stmt (t.at? .update) (v.declare (gains s .stmt (t.at? .initializer)))
  | .clause => clauseVisits s t v.inside
  | .commClause =>
    one .stmt (t.at? .communication) v.inside ++
      inTurn s .stmts (Draft.afterColon t).2
        (v.inside.declare (gains s .stmt (t.at? .communication)))
  | .specs => inTurn s .spec t.parts v
  | .spec => specVisits s t v
  | .func => funcVisits s t v
  | .bareKey | .result | .target => []

/-- Whether a node is a decision: a branch, a loop, a clause or a short-circuit operator. -/
def decides (t : Tree) : Bool :=
  match t.kind with
  | .stmt .ifStatement | .stmt .forStatement | .part .expressionCase | .part .typeCase
  | .part .defaultCase | .part .communicationCase => true
  | .expr .binaryExpression =>
    (t.at? .operator).any fun c => Operator.isLogical (s.textOf c.1)
  | _ => false

/-- What is measured of a node by itself. -/
def leaf (m : Mode) (t : Tree) (v : Context) : List Site :=
  match m.on t.kind, t.kind with
  | .text role, _ => [.ofRole (s.textOf t) v.toVisible role]
  | .expr, .expr .labelName => [.settled (s.textOf t) (v.labels.contains (s.textOf t))]
  | .expr, .expr .blankIdentifier => [.settled blank false]
  | .expr, _ | .stmt, _ | .clause, _ | .commClause, _ => if decides s t then [.decision] else []
  | _, _ => []

/-- What is measured of a tree, in the order of the finished construct. -/
def sites (m : Mode) (t : Tree) (v : Context) : List Site :=
  leaf s m t v ++ (visits s m t v).flatMap fun c => sites c.mode c.part.1 c.seen
termination_by t.size
decreasing_by exact c.part.2

def Visit.sites {t : Tree} (c : Visit t) : List Site :=
  Lexical.sites s c.mode c.part.1 c.seen

theorem sites_eq (m : Mode) (t : Tree) (v : Context) :
    sites s m t v = leaf s m t v ++ (visits s m t v).flatMap (Visit.sites s) := by
  rw [sites]
  rfl

/-! Files -/

/-- The names that a top-level node makes visible throughout its file. -/
def fileNames (t : Tree) : List String :=
  match t.kind with
  | .functionDeclaration =>
    ((t.at? .name).toList.map fun c => s.textOf c.1).filter (· != "init")
  | .decl _ => t.specs.flatMap fun c => Draft.names s c.1
  | _ => []

/-- The names that a top-level node puts above what follows it. -/
def topDeclared (t : Tree) : List String :=
  match t.kind with
  | .functionDeclaration => fileNames s t
  | .decl _ => declared s .stmt t
  | _ => []

/-- How a top-level node is read; what is not read has no sites. -/
def topMode (t : Tree) : Mode :=
  match t.kind with
  | .functionDeclaration | .methodDeclaration => .func
  | _ => .stmt

/-- What is measured of top-level nodes, each node seeing the names above it. -/
def topSites : List Tree → Context → List Site
  | [], _ => []
  | t :: ts, v => sites s (topMode t) t v ++ topSites ts (v.declare (topDeclared s t))

/-- The top-level nodes of a file. -/
def fileParts (root : Tree) : List Tree :=
  root.parts.map (·.1)

/-- The names at the top level of a file, wherever they are declared. -/
def fileScope (root : Tree) : List String :=
  (fileParts root).flatMap (fileNames s)

/-- What is measured of a file. -/
def fileSites (root : Tree) : List Site :=
  topSites s (fileParts root) ⟨⟨[], [], true⟩, []⟩

end GoMetrics.Lexical
