import GoMetrics.Source

/-!
The syntax model. A node is one construct of Go; delimiters are present or not, and every
identifier carries a piece of information of type `ι`: whether it is resolved in a finished tree,
what it still waits for in a draft.

Positions, files and packages are no constructs, but they can be put where a construct is
expected; the model has them so that such a mistake can be told apart.
-/

namespace GoMetrics

inductive LiteralKind
  | int | float | imag | char | string
  deriving DecidableEq, Repr

def LiteralKind.name : LiteralKind → String
  | .int => "INT"
  | .float => "FLOAT"
  | .imag => "IMAG"
  | .char => "CHAR"
  | .string => "STRING"

inductive ChanDir
  | both | send | recv
  deriving DecidableEq, Repr

def ChanDir.name : ChanDir → String
  | .both => "both"
  | .send => "send"
  | .recv => "recv"

/-- A one-way channel type is written with an arrow. -/
def ChanDir.arrow (d : ChanDir) : Bool :=
  d != .both

inductive Node (ι : Type)
  -- expressions and types
  | ident (name : String) (info : ι)
  | basicLit (kind : LiteralKind) (value : String)
  | paren (x : Node ι) (lparen rparen : Bool)
  | selector (x sel : Node ι)
  | index (x : Node ι) (indices : List (Node ι)) (lbrack rbrack : Bool)
  | slice (x : Node ι) (low high max : Option (Node ι)) (lbrack rbrack : Bool)
  | typeAssert (x : Node ι) (type : Option (Node ι)) (lparen rparen : Bool)
  | call (fn : Node ι) (args : List (Node ι)) (ellipsis lparen rparen : Bool)
  | star (x : Node ι)
  | unary (op : String) (x : Node ι)
  | binary (x : Node ι) (op : String) (y : Node ι)
  | keyValue (key value : Node ι) (colon : Bool)
  | funcType (params results : List (Node ι)) (keyword : Bool)
  | funcLit (type body : Node ι)
  | compositeLit (type : Option (Node ι)) (elts : List (Node ι)) (lbrace rbrace : Bool)
  | ellipsis (elt : Option (Node ι))
  | chanType (value : Node ι) (dir : ChanDir)
  | arrayType (elt : Node ι) (len : Option (Node ι)) (lbrack rbrack : Bool)
  | mapType (key value : Node ι)
  | structType (fields : List (Node ι)) (lbrace rbrace : Bool)
  | interfaceType (methods : List (Node ι)) (lbrace rbrace : Bool)
  /-- A parameter, result, struct field or interface method. -/
  | field (names : List (Node ι)) (type : Option (Node ι))
  -- statements
  | block (stmts : List (Node ι)) (lbrace rbrace : Bool)
  | declStmt (decl : Node ι)
  | empty
  | labeled (label stmt : Node ι)
  | exprStmt (x : Node ι)
  | send (chan value : Node ι)
  | incDec (x : Node ι) (tok : String)
  | assign (lhs : List (Node ι)) (tok : String) (rhs : List (Node ι))
  | go (call : Node ι)
  | defer (call : Node ι)
  | ret (results : List (Node ι))
  | branch (tok : String) (label : Option (Node ι))
  | ifStmt (cond body : Node ι) (init orElse : Option (Node ι))
  /-- A clause of a switch; no list of expressions makes it the default. -/
  | caseClause (exprs : Option (List (Node ι))) (body : List (Node ι)) (colon : Bool)
  | switch (body : Node ι) (init tag : Option (Node ι))
  | typeSwitch (guard body : Node ι) (init : Option (Node ι))
  /-- A clause of a select; no communication makes it the default. -/
  | commClause (comm : Option (Node ι)) (body : List (Node ι)) (colon : Bool)
  | select (body : Node ι)
  | forStmt (body : Node ι) (init cond post : Option (Node ι))
  /-- A range loop. Targets past the second are kept in `surplus`: they can bind names, but
  they are not part of the construct. -/
  | range (x body : Node ι) (key value : Option (Node ι)) (tok : String) (surplus : List (Node ι))
  -- declarations
  | valueSpec (names : List (Node ι)) (type : Option (Node ι)) (values : List (Node ι))
  | typeSpec (name : Node ι) (typeParams : List String) (type : Node ι)
  | importSpec (path : String) (name : Option (Node ι))
  | genDecl (tok : String) (specs : List (Node ι)) (lparen rparen : Bool)
  /-- A function, or a method when it has a receiver list. -/
  | funcDecl (name : String) (info : ι) (typeParams : List String) (type : Node ι)
      (pos stop : Position) (body : Option (Node ι)) (recv : Option (List (Node ι)))
  -- what is no construct
  | position (p : Position)
  | file (filename package : String) (imports : List String) (decls : List (Node ι))
  | package (path name : String) (files : List (Node ι))
  deriving Repr

namespace Node

instance {ι : Type} : Inhabited (Node ι) := ⟨.empty⟩

/-- The name of the construct. -/
def construct {ι : Type} : Node ι → String
  | .ident .. => "Ident"
  | .basicLit .. => "BasicLit"
  | .paren .. => "ParenExpr"
  | .selector .. => "SelectorExpr"
  | .index .. => "IndexExpr"
  | .slice .. => "SliceExpr"
  | .typeAssert .. => "TypeAssertExpr"
  | .call .. => "CallExpr"
  | .star .. => "StarExpr"
  | .unary .. => "UnaryExpr"
  | .binary .. => "BinaryExpr"
  | .keyValue .. => "KeyValueExpr"
  | .funcType .. => "FuncType"
  | .funcLit .. => "FuncLit"
  | .compositeLit .. => "CompositeLit"
  | .ellipsis .. => "Ellipsis"
  | .chanType .. => "ChanType"
  | .arrayType .. => "ArrayType"
  | .mapType .. => "MapType"
  | .structType .. => "StructType"
  | .interfaceType .. => "InterfaceType"
  | .field .. => "Field"
  | .block .. => "BlockStmt"
  | .declStmt .. => "DeclStmt"
  | .empty => "EmptyStmt"
  | .labeled .. => "LabeledStmt"
  | .exprStmt .. => "ExprStmt"
  | .send .. => "SendStmt"
  | .incDec .. => "IncDecStmt"
  | .assign .. => "AssignStmt"
  | .go .. => "GoStmt"
  | .defer .. => "DeferStmt"
  | .ret .. => "ReturnStmt"
  | .branch .. => "BranchStmt"
  | .ifStmt .. => "IfStmt"
  | .caseClause .. => "CaseClause"
  | .switch .. => "SwitchStmt"
  | .typeSwitch .. => "TypeSwitchStmt"
  | .commClause .. => "CommClause"
  | .select .. => "SelectStmt"
  | .forStmt .. => "ForStmt"
  | .range .. => "RangeStmt"
  | .valueSpec .. => "ValueSpec"
  | .typeSpec .. => "TypeSpec"
  | .importSpec .. => "ImportSpec"
  | .genDecl .. => "GenDecl"
  | .funcDecl .. => "FuncDecl"
  | .position .. => "Position"
  | .file .. => "File"
  | .package .. => "CompilationUnit"

/-- The names of all constructs, in alphabetical order. -/
def constructs : List String :=
  ["ArrayType", "AssignStmt", "BasicLit", "BinaryExpr", "BlockStmt", "BranchStmt", "CallExpr",
    "CaseClause", "ChanType", "CommClause", "CompositeLit", "DeclStmt", "DeferStmt", "Ellipsis",
    "EmptyStmt", "ExprStmt", "Field", "ForStmt", "FuncDecl", "FuncLit", "FuncType", "GenDecl",
    "GoStmt", "Ident", "IfStmt", "ImportSpec", "IncDecStmt", "IndexExpr", "InterfaceType",
    "KeyValueExpr", "LabeledStmt", "MapType", "ParenExpr", "RangeStmt", "ReturnStmt",
    "SelectStmt", "SelectorExpr", "SendStmt", "SliceExpr", "StarExpr", "StructType",
    "SwitchStmt", "TypeAssertExpr", "TypeSpec", "TypeSwitchStmt", "UnaryExpr", "ValueSpec"]

def isConstruct {ι : Type} : Node ι → Bool
  | .position .. | .file .. | .package .. => false
  | _ => true

/-- What stands in the places of a node, in the order of its places. -/
def places {ι : Type} : Node ι → List (Node ι)
  | .ident .. | .basicLit .. | .empty | .position .. => []
  | .paren x _ _ | .star x | .unary _ x | .chanType x _ | .declStmt x | .exprStmt x
  | .incDec x _ | .go x | .defer x | .select x => [x]
  | .selector x y | .binary x _ y | .keyValue x y _ | .funcLit x y | .mapType x y
  | .labeled x y | .send x y => [x, y]
  | .index x is _ _ => x :: is
  | .slice x low high max _ _ => x :: (low.toList ++ high.toList ++ max.toList)
  | .typeAssert x type _ _ => x :: type.toList
  | .call fn args _ _ _ => fn :: args
  | .funcType params results _ => params ++ results
  | .compositeLit type elts _ _ => type.toList ++ elts
  | .ellipsis elt => elt.toList
  | .arrayType elt len _ _ => elt :: len.toList
  | .structType xs _ _ | .interfaceType xs _ _ | .block xs _ _ | .ret xs | .genDecl _ xs _ _ => xs
  | .field names type => names ++ type.toList
  | .assign lhs _ rhs => lhs ++ rhs
  | .branch _ label => label.toList
  | .ifStmt cond body init orElse => cond :: body :: (init.toList ++ orElse.toList)
  | .caseClause exprs body _ => exprs.getD [] ++ body
  | .switch body init tag => body :: (init.toList ++ tag.toList)
  | .typeSwitch guard body init => guard :: body :: init.toList
  | .commClause comm body _ => comm.toList ++ body
  | .forStmt body init cond post => body :: (init.toList ++ cond.toList ++ post.toList)
  | .range x body key value _ _ => x :: body :: (key.toList ++ value.toList)
  | .valueSpec names type values => names ++ type.toList ++ values
  | .typeSpec name _ type => [name, type]
  | .importSpec _ name => name.toList
  | .funcDecl name info _ type _ _ body recv =>
      .ident name info :: type :: (body.toList ++ recv.getD [])
  | .file _ _ _ decls => decls
  | .package _ _ files => files

/-- The constructs directly inside a node. -/
def children {ι : Type} (n : Node ι) : List (Node ι) :=
  n.places.filter isConstruct

mutual
/-- Change what the identifiers carry, and nothing else. -/
def map {ι κ : Type} (f : ι → κ) : Node ι → Node κ
  | .ident name info => .ident name (f info)
  | .basicLit k v => .basicLit k v
  | .paren x l r => .paren (x.map f) l r
  | .selector x sel => .selector (x.map f) (sel.map f)
  | .index x is l r => .index (x.map f) (mapAll f is) l r
  | .slice x low high max l r => .slice (x.map f) (mapOpt f low) (mapOpt f high) (mapOpt f max) l r
  | .typeAssert x type l r => .typeAssert (x.map f) (mapOpt f type) l r
  | .call fn args e l r => .call (fn.map f) (mapAll f args) e l r
  | .star x => .star (x.map f)
  | .unary op x => .unary op (x.map f)
  | .binary x op y => .binary (x.map f) op (y.map f)
  | .keyValue k v c => .keyValue (k.map f) (v.map f) c
  | .funcType ps rs k => .funcType (mapAll f ps) (mapAll f rs) k
  | .funcLit type body => .funcLit (type.map f) (body.map f)
  | .compositeLit type elts l r => .compositeLit (mapOpt f type) (mapAll f elts) l r
  | .ellipsis elt => .ellipsis (mapOpt f elt)
  | .chanType v d => .chanType (v.map f) d
  | .arrayType elt len l r => .arrayType (elt.map f) (mapOpt f len) l r
  | .mapType k v => .mapType (k.map f) (v.map f)
  | .structType fs l r => .structType (mapAll f fs) l r
  | .interfaceType ms l r => .interfaceType (mapAll f ms) l r
  | .field names type => .field (mapAll f names) (mapOpt f type)
  | .block ss l r => .block (mapAll f ss) l r
  | .declStmt d => .declStmt (d.map f)
  | .empty => .empty
  | .labeled l s => .labeled (l.map f) (s.map f)
  | .exprStmt x => .exprStmt (x.map f)
  | .send c v => .send (c.map f) (v.map f)
  | .incDec x tok => .incDec (x.map f) tok
  | .assign lhs tok rhs => .assign (mapAll f lhs) tok (mapAll f rhs)
  | .go c => .go (c.map f)
  | .defer c => .defer (c.map f)
  | .ret rs => .ret (mapAll f rs)
  | .branch tok label => .branch tok (mapOpt f label)
  | .ifStmt cond body init orElse =>
      .ifStmt (cond.map f) (body.map f) (mapOpt f init) (mapOpt f orElse)
  | .caseClause exprs body c => .caseClause (mapOptAll f exprs) (mapAll f body) c
  | .switch body init tag => .switch (body.map f) (mapOpt f init) (mapOpt f tag)
  | .typeSwitch guard body init => .typeSwitch (guard.map f) (body.map f) (mapOpt f init)
  | .commClause comm body c => .commClause (mapOpt f comm) (mapAll f body) c
  | .select body => .select (body.map f)
  | .forStmt body init cond post =>
      .forStmt (body.map f) (mapOpt f init) (mapOpt f cond) (mapOpt f post)
  | .range x body key value tok surplus =>
      .range (x.map f) (body.map f) (mapOpt f key) (mapOpt f value) tok (mapAll f surplus)
  | .valueSpec names type values =>
      .valueSpec (mapAll f names) (mapOpt f type) (mapAll f values)
  | .typeSpec name tps type => .typeSpec (name.map f) tps (type.map f)
  | .importSpec path name => .importSpec path (mapOpt f name)
  | .genDecl tok specs l r => .genDecl tok (mapAll f specs) l r
  | .funcDecl name info tps type pos stop body recv =>
      .funcDecl name (f info) tps (type.map f) pos stop (mapOpt f body) (mapOptAll f recv)
  | .position p => .position p
  | .file filename name imports decls => .file filename name imports (mapAll f decls)
  | .package path name files => .package path name (mapAll f files)
termination_by structural n => n
def mapAll {ι κ : Type} (f : ι → κ) : List (Node ι) → List (Node κ)
  | [] => []
  | n :: ns => n.map f :: mapAll f ns
termination_by structural ns => ns
def mapOpt {ι κ : Type} (f : ι → κ) : Option (Node ι) → Option (Node κ)
  | none => none
  | some n => some (n.map f)
termination_by structural n => n
def mapOptAll {ι κ : Type} (f : ι → κ) : Option (List (Node ι)) → Option (List (Node κ))
  | none => none
  | some ns => some (mapAll f ns)
termination_by structural ns => ns
end

/-- A node without what its identifiers carry. -/
def erase {ι : Type} (n : Node ι) : Node Unit :=
  n.map fun _ => ()

end Node
end GoMetrics
