import GoMetrics.Syntax.Node
import GoMetrics.Tree.Basic

/-!
Drafts: what a parse tree says before any scope is consulted. The shape of every construct is
settled, and each identifier says what its resolution depends on. So whether a tree can be read,
and into what shape, does not depend on what is declared around it.

A construct is read from a node together with `Readers`, the readers of all smaller trees. The
constructs themselves are therefore plain definitions, and there is a single recursion that ties
them together.
-/

namespace GoMetrics

/-- What the resolution of an identifier depends on. -/
inductive Role
  /-- On the names visible where it stands. -/
  | use
  /-- On the local names visible where it stands and the file-level names declared above. -/
  | key
  /-- On nothing: it declares its name in the scope where it stands. -/
  | binds
  /-- On nothing: it is resolved or not by its place alone. -/
  | settled (resolved : Bool)
  deriving DecidableEq, Repr

/-- Why a construct is refused. -/
inductive Refusal
  | syntaxError
  | unexpectedTopLevel (kind : Kind)
  | unsupportedExpression (kind : Kind)
  | unsupportedStatement (kind : Kind)
  | unsupportedDeclaration (kind : Kind)
  deriving DecidableEq, Repr

def Refusal.message : Refusal → String
  | .syntaxError => "syntax error"
  | .unexpectedTopLevel k => "unexpected top-level " ++ k.name
  | .unsupportedExpression k => "unsupported expression " ++ k.name
  | .unsupportedStatement k => "unsupported statement " ++ k.name
  | .unsupportedDeclaration k => "unsupported declaration " ++ k.name

/-- What a tree that no grammar allows can lack. -/
inductive Absence
  | slot | part | fieldList
  deriving DecidableEq, Repr

/-- Why a tree cannot be read. -/
inductive Fault
  | refused (why : Refusal) (line : Nat)
  | lacks (what : Absence)
  deriving DecidableEq, Repr

namespace Draft

/-- A draft of one construct, or why there is none. -/
abbrev Result := Except Fault (Node Role)

/-- Drafts of several constructs. -/
abbrev Results := Except Fault (List (Node Role))

/-- The ways to read a tree; each depends on the labels of the function around it. -/
structure Reading where
  expr : List String → Result
  stmt : List String → Result
  /-- A list of statements reads as its statements, any other tree as a single one. -/
  stmts : List String → Results

/-- How the trees smaller than `t` are read. -/
abbrev Readers (t : Tree) := Tree.Below t → Reading

namespace Readers

variable {t : Tree}

def expr (r : Readers t) (ls : List String) (c : Tree.Below t) : Result :=
  (r c).expr ls

def stmt (r : Readers t) (ls : List String) (c : Tree.Below t) : Result :=
  (r c).stmt ls

def stmts (r : Readers t) (ls : List String) (c : Tree.Below t) : Results :=
  (r c).stmts ls

/-- The readers that are left when one descends. -/
def under (r : Readers t) (c : Tree.Below t) : Readers c.1 :=
  fun d => r (c.trans d)

end Readers

def refuse {α : Type} (s : Source) (t : Tree) (why : Kind → Refusal) : Except Fault α :=
  .error (.refused (why t.kind) (s.lineOf t))

/-- The child that a construct cannot do without. -/
def slot (t : Tree) (p : Slot) : Except Fault (Tree.Below t) :=
  match t.at? p with
  | some c => .ok c
  | none => .error (.lacks .slot)

/-- The first meaningful child. -/
def first (t : Tree) : Except Fault (Tree.Below t) :=
  match t.parts with
  | c :: _ => .ok c
  | [] => .error (.lacks .part)

/-- The text of the child in a slot. -/
def slotText (s : Source) (t : Tree) (p : Slot) : Except Fault String := do
  return s.textOf (← slot t p).1

/-- The texts of all children labelled as names. -/
def names (s : Source) (t : Tree) : List String :=
  (t.allAt .name).map fun c => s.textOf c.1

/-- The names that a list of type parameters declares. -/
def typeParams (s : Source) (t : Tree) : List String :=
  match t.at? .typeParameters with
  | some c => c.1.parts.flatMap fun d => names s d.1
  | none => []

def bindings (xs : List String) : List (Node Role) :=
  xs.map fun x => .ident x .binds

/-- The labels in force in the body of a function. -/
def bodyLabels (s : Source) (t : Tree) : Except Fault (List String) :=
  match t.at? .body with
  | none => .ok []
  | some c =>
    match s.labels? c.1 with
    | some ls => .ok ls
    | none => .error (.lacks .slot)

end Draft
end GoMetrics
