import GoMetrics.Scope
import GoMetrics.Syntax.Draft.Read

/-!
Resolving the identifiers of a draft. An environment is passed through the draft in the order in
which Go brings names into force: a right-hand side before the names on its left, a type before
the names of its fields, a loop's header before its body. Blocks, headers, clauses and functions
open a scope, and what was in force before it is in force again after it.
-/

namespace GoMetrics

/-- The names in force at a place. -/
structure Env where
  scope : Scope
  /-- File-level names declared above the place. -/
  above : List String
  deriving DecidableEq, Repr

namespace Env

/-- Before the first declaration of a file that declares `names` at its top level. -/
def ofFile (names : List String) : Env :=
  ⟨Scope.root.declareAll names, []⟩

def push (e : Env) : Env :=
  { e with scope := e.scope.push }

/-- Enter a name among those declared above, if this is file level. Initialisers have no name
that can be referred to. -/
def reach (e : Env) (name : String) : Env :=
  if e.scope.isRoot && name != "init" then { e with above := e.above.insert name } else e

def declare (e : Env) (name : String) : Env :=
  { e with scope := e.scope.declare name }.reach name

def declareAll (e : Env) (names : List String) : Env :=
  { e with scope := e.scope.declareAll names }

/-- Whether an identifier is resolved. The key of a composite literal does not see file-level
names that are declared further down. -/
def resolves (e : Env) (name : String) : Role → Bool
  | .use => e.scope.lookup name
  | .key => e.scope.lookupLocal name || e.above.contains name
  | .binds => true
  | .settled b => b

end Env

namespace Binding

/-- Run in a scope of its own. -/
def within {α : Type} (m : StateM Env α) : StateM Env α := do
  let saved ← get
  set saved.push
  let a ← m
  set saved
  return a

def identifier (name : String) (role : Role) : StateM Env (Node Bool) := do
  let env ← get
  if role = .binds then set (env.declare name)
  return .ident name (env.resolves name role)

mutual

/-- Resolve a node. `sig` marks the signature of a function with a body: its names stay in force
for the body, where any other function type has a scope of its own. -/
def resolve (sig : Bool) : Node Role → StateM Env (Node Bool)
  | .ident name role => identifier name role
  | .basicLit k v => return .basicLit k v
  | .paren x l r => return .paren (← resolve false x) l r
  | .selector x sel => return .selector (← resolve false x) (← resolve false sel)
  | .index x is l r => return .index (← resolve false x) (← resolveAll is) l r
  | .slice x low high max l r =>
      return .slice (← resolve false x) (← resolveOpt low) (← resolveOpt high) (← resolveOpt max)
        l r
  | .typeAssert x type l r => return .typeAssert (← resolve false x) (← resolveOpt type) l r
  | .call fn args e l r => return .call (← resolve false fn) (← resolveAll args) e l r
  | .star x => return .star (← resolve false x)
  | .unary op x => return .unary op (← resolve false x)
  | .binary x op y => return .binary (← resolve false x) op (← resolve false y)
  | .keyValue k v c => return .keyValue (← resolve false k) (← resolve false v) c
  | .funcType ps rs k =>
      let fields : StateM Env (Node Bool) :=
        return .funcType (← resolveAll ps) (← resolveAll rs) k
      if sig then fields else within fields
  | .funcLit type body => within do
      return .funcLit (← resolve true type) (← resolve false body)
  | .compositeLit type elts l r =>
      return .compositeLit (← resolveOpt type) (← resolveAll elts) l r
  | .ellipsis elt => return .ellipsis (← resolveOpt elt)
  | .chanType v d => return .chanType (← resolve false v) d
  | .arrayType elt len l r => do
      let len ← resolveOpt len
      return .arrayType (← resolve false elt) len l r
  | .mapType k v => return .mapType (← resolve false k) (← resolve false v)
  | .structType fs l r => return .structType (← resolveAll fs) l r
  | .interfaceType ms l r => return .interfaceType (← resolveAll ms) l r
  | .field names type => do
      let type ← resolveOpt type
      return .field (← resolveAll names) type
  | .block ss l r => within do
      return .block (← resolveAll ss) l r
  | .declStmt d => return .declStmt (← resolve false d)
  | .empty => return .empty
  | .labeled label stmt => return .labeled (← resolve false label) (← resolve false stmt)
  | .exprStmt x => return .exprStmt (← resolve false x)
  | .send c v => return .send (← resolve false c) (← resolve false v)
  | .incDec x tok => return .incDec (← resolve false x) tok
  | .assign lhs tok rhs => do
      let rhs ← resolveAll rhs
      return .assign (← resolveAll lhs) tok rhs
  | .go c => return .go (← resolve false c)
  | .defer c => return .defer (← resolve false c)
  | .ret rs => return .ret (← resolveAll rs)
  | .branch tok label => return .branch tok (← resolveOpt label)
  | .ifStmt cond body init orElse => within do
      let init ← resolveOpt init
      return .ifStmt (← resolve false cond) (← resolve false body) init (← resolveOpt orElse)
  | .caseClause exprs body c => within do
      return .caseClause (← resolveOptAll exprs) (← resolveAll body) c
  | .switch body init tag => within do
      let init ← resolveOpt init
      let tag ← resolveOpt tag
      return .switch (← resolve false body) init tag
  | .typeSwitch guard body init => within do
      let init ← resolveOpt init
      return .typeSwitch (← resolve false guard) (← resolve false body) init
  | .commClause comm body c => within do
      return .commClause (← resolveOpt comm) (← resolveAll body) c
  | .select body => return .select (← resolve false body)
  | .forStmt body init cond post => within do
      let init ← resolveOpt init
      let cond ← resolveOpt cond
      let post ← resolveOpt post
      return .forStmt (← resolve false body) init cond post
  | .range x body key value tok surplus => within do
      let x ← resolve false x
      let key ← resolveOpt key
      let value ← resolveOpt value
      let surplus ← resolveAll surplus
      return .range x (← resolve false body) key value tok surplus
  | .valueSpec names type values => do
      let type ← resolveOpt type
      let values ← resolveAll values
      return .valueSpec (← resolveAll names) type values
  | .typeSpec name tps type => do
      let name ← resolve false name
      let type ← within do
        modify (·.declareAll tps)
        resolve false type
      return .typeSpec name tps type
  | .importSpec path name => return .importSpec path (← resolveOpt name)
  | .genDecl tok specs l r => return .genDecl tok (← resolveAll specs) l r
  | .funcDecl name role tps type pos stop body recv => do
      let (recv, type, body) ← within do
        let recv ← resolveOptAll recv
        modify (·.declareAll tps)
        let type ← resolve true type
        return (recv, type, ← resolveOpt body)
      let env ← get
      if recv.isNone then set (env.reach name)
      return .funcDecl name (env.resolves name role) tps type pos stop body recv
  | .position p => return .position p
  | .file filename name imports decls =>
      return .file filename name imports (← resolveAll decls)
  | .package path name files => return .package path name (← resolveAll files)
termination_by structural n => n

def resolveAll : List (Node Role) → StateM Env (List (Node Bool))
  | [] => return []
  | n :: ns => return (← resolve false n) :: (← resolveAll ns)
termination_by structural ns => ns

def resolveOpt : Option (Node Role) → StateM Env (Option (Node Bool))
  | none => return none
  | some n => return some (← resolve false n)
termination_by structural n => n

def resolveOptAll : Option (List (Node Role)) → StateM Env (Option (List (Node Bool)))
  | none => return none
  | some ns => return some (← resolveAll ns)
termination_by structural ns => ns

end

end Binding
end GoMetrics
