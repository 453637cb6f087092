import GoMetrics.Syntax.Draft.Basic

/-!
Drafts of expressions and types, one definition for each construct. `expr` chooses among them by
the kind of the node.
-/

namespace GoMetrics.Draft

variable (s : Source) (ls : List String) {t : Tree} (r : Readers t)

/-! Parts of expressions -/

/-- An argument of a call; the mark of a spread argument is not part of it. -/
def argument (c : Tree.Below t) : Result := do
  if c.1.kind = .part .variadicArgument then r.expr ls (c.trans (← first c.1)) else r.expr ls c

/-- The expressions of a list, or of a single expression. -/
def exprList (c : Tree.Below t) : Results := do
  if c.1.kind = .part .expressionList then c.1.parts.mapM ((r.under c).expr ls)
  else return [← r.expr ls c]

/-- The expressions in a slot that may be empty. -/
def slotList (p : Slot) : Results :=
  match t.at? p with
  | none => .ok []
  | some c => exprList ls r c

/-- An element of a composite literal without its wrapper, if it has one. -/
def unwrap (c : Tree.Below t) : Except Fault (Tree.Below t) := do
  if c.1.kind = .part .literalElement then return c.trans (← first c.1) else return c

def element (c : Tree.Below t) : Result := do
  r.expr ls (← unwrap c)

/-- A key that is a plain name, or any other key. -/
def elementKey (c : Tree.Below t) : Result :=
  match c.1.kind with
  | .expr .identifier | .expr .fieldIdentifier => .ok (.ident (s.textOf c.1) .key)
  | _ => r.expr ls c

def keyed : Result := do
  let key ← elementKey s ls r (← unwrap (← first t))
  match t.parts.getLast? with
  | none => .error (.lacks .part)
  | some v => return .keyValue key (← element ls r v) (t.hasToken ":")

/-- The elements between the braces of a literal. -/
def elements : Results :=
  t.parts.mapM fun c =>
    if c.1.kind = .part .keyedElement then keyed s ls (r.under c) else element ls r c

/-! Signatures -/

/-- A parameter declaration, which may declare several parameters of one type, or none. -/
def param : Result := do
  let type ← r.expr ls (← slot t .type)
  let type := if t.kind = .part .variadicParameterDeclaration then .ellipsis (some type) else type
  return .field (bindings (names s t)) (some type)

def params : Results :=
  t.parts.mapM fun c => param s ls (r.under c)

/-- Results come as a list of parameters or as a single type. -/
def results : Results :=
  match t.at? .result with
  | none => .ok []
  | some c =>
    if c.1.kind = .part .parameterList then params s ls (r.under c)
    else do return [.field [] (some (← r.expr ls c))]

/-- Parameters and results of a function, literal, function type or interface method. -/
def signature (keyword : Bool) : Result := do
  let ps ← match t.at? .parameters with
    | none => .ok []
    | some c => params s ls (r.under c)
  return .funcType ps (← results s ls r) keyword

/-! Operands and operators -/

def paren : Result := do
  return .paren (← r.expr ls (← first t)) (t.hasToken "(") (t.hasToken ")")

def selector : Result := do
  let x ← r.expr ls (← slot t .operand)
  return .selector x (.ident (← slotText s t .field) (.settled false))

def index : Result := do
  let x ← r.expr ls (← slot t .operand)
  let indices ← (t.allAt .index).mapM (r.expr ls)
  return .index x indices (t.hasToken "[") (t.hasToken "]")

def slice : Result := do
  let x ← r.expr ls (← slot t .operand)
  let low ← (t.at? .start).mapM (r.expr ls)
  let high ← (t.at? .stop).mapM (r.expr ls)
  let max ← (t.at? .capacity).mapM (r.expr ls)
  return .slice x low high max (t.hasToken "[") (t.hasToken "]")

def typeAssertion : Result := do
  let x ← r.expr ls (← slot t .operand)
  let type ← r.expr ls (← slot t .type)
  return .typeAssert x (some type) (t.hasToken "(") (t.hasToken ")")

def conversion : Result := do
  let type ← r.expr ls (← slot t .type)
  let x ← r.expr ls (← slot t .operand)
  return .call type [x] false (t.hasToken "(") (t.hasToken ")")

def instantiation : Result :=
  match t.parts with
  | [] => .error (.lacks .part)
  | c :: rest => do
    let x ← r.expr ls c
    return .index x (← rest.mapM (r.expr ls)) (t.hasToken "[") (t.hasToken "]")

/-- An operand applied to the type arguments in a list. -/
def applied (x : Node Role) (list : Tree.Below t) : Result := do
  let args ← list.1.parts.mapM ((r.under list).expr ls)
  return .index x args (list.1.hasToken "[") (list.1.hasToken "]")

def call : Result := do
  let fn ← r.expr ls (← slot t .function)
  let fn ← match t.at? .typeArguments with
    | none => pure fn
    | some list => applied ls r fn list
  let list ← slot t .arguments
  let args ← list.1.parts.mapM (argument ls (r.under list))
  let spread := list.1.parts.any (·.1.kind == .part .variadicArgument)
  return .call fn args spread (list.1.hasToken "(") (list.1.hasToken ")")

def unary : Result := do
  let op ← slotText s t .operator
  let x ← r.expr ls (← slot t .operand)
  return if op = "*" then .star x else .unary op x

def binary : Result := do
  let x ← r.expr ls (← slot t .left)
  let op ← slotText s t .operator
  return .binary x op (← r.expr ls (← slot t .right))

/-! Literals -/

def composite : Result := do
  let type ← r.expr ls (← slot t .type)
  let body ← slot t .body
  return .compositeLit (some type) (← elements s ls (r.under body)) (body.1.hasToken "\x7b")
    (body.1.hasToken "\x7d")

/-- A composite literal whose type is that of the place where it stands. -/
def bareComposite : Result := do
  return .compositeLit none (← elements s ls r) (t.hasToken "\x7b") (t.hasToken "\x7d")

/-- A sequence of statements in braces. -/
def block : Result := do
  let body ← t.parts.mapM (r.stmts ls)
  return .block body.flatten (t.hasToken "\x7b") (t.hasToken "\x7d")

/-- A function literal has labels of its own. -/
def funcLit : Result := do
  let own ← bodyLabels s t
  let type ← signature s own r true
  return .funcLit type (← block own (r.under (← slot t .body)))

/-! Types -/

def pointer : Result := do
  return .star (← r.expr ls (← first t))

def array : Result := do
  let len ← r.expr ls (← slot t .length)
  let elt ← r.expr ls (← slot t .element)
  return .arrayType elt (some len) (t.hasToken "[") (t.hasToken "]")

/-- An array type whose length is that of its literal, or a slice type. -/
def unsized (len : Option (Node Role)) : Result := do
  let elt ← r.expr ls (← slot t .element)
  return .arrayType elt len (t.hasToken "[") (t.hasToken "]")

def map : Result := do
  let key ← r.expr ls (← slot t .key)
  return .mapType key (← r.expr ls (← slot t .value))

/-- The arrow of a channel type comes first for receiving, later for sending. -/
def chanDir (t : Tree) : ChanDir :=
  let tokens := (t.children.filter fun c => !c.isNamed).map (·.kind)
  if tokens.head? = some (.other "<-") then .recv
  else if tokens.contains (.other "<-") then .send
  else .both

def chan : Result := do
  return .chanType (← r.expr ls (← slot t .value)) (chanDir t)

/-- A field of a struct; an embedded pointer is marked by its star alone. -/
def structField : Result := do
  let type ← r.expr ls (← slot t .type)
  let xs := names s t
  let type := if xs.isEmpty && t.hasToken "*" then .star type else type
  return .field (xs.map fun x => .ident x (.settled true)) (some type)

def struct : Result :=
  match t.parts.find? (·.1.kind == .part .fieldDeclarationList) with
  | none => .error (.lacks .fieldList)
  | some list => do
    let fields ← list.1.parts.mapM fun c => structField s ls ((r.under list).under c)
    return .structType fields (list.1.hasToken "\x7b") (list.1.hasToken "\x7d")

def method : Result := do
  let name ← slotText s t .name
  return .field [.ident name (.settled true)] (some (← signature s ls r false))

/-- A method of an interface, or a type that it embeds. -/
def interfaceElem (c : Tree.Below t) : Result := do
  if c.1.kind = .part .methodElem ∨ c.1.kind = .part .methodSpec then method s ls (r.under c)
  else return .field [] (some (← r.expr ls c))

def interface : Result := do
  let methods ← t.parts.mapM (interfaceElem s ls r)
  return .interfaceType methods (t.hasToken "\x7b") (t.hasToken "\x7d")

def qualified (t : Tree) : Result := do
  let package ← slotText s t .package
  return .selector (.ident package .use) (.ident (← slotText s t .name) (.settled false))

def generic : Result := do
  let x ← r.expr ls (← slot t .type)
  applied ls r x (← slot t .typeArguments)

def negated : Result := do
  return .unary "~" (← r.expr ls (← first t))

/-- Types joined into a union, as a constraint has them. -/
def union : Result := do
  match ← t.parts.mapM (r.expr ls) with
  | [] => .error (.lacks .part)
  | x :: rest => return rest.foldl (fun union term => .binary union "|" term) x

/-- An expression or a type. -/
def expr : Result :=
  match t.kind with
  | .expr .identifier | .expr .typeIdentifier | .expr .packageIdentifier | .expr .nilName
  | .expr .trueName | .expr .falseName | .expr .iotaName => .ok (.ident (s.textOf t) .use)
  | .expr .fieldIdentifier => .ok (.ident (s.textOf t) (.settled false))
  | .expr .labelName => .ok (.ident (s.textOf t) (.settled (ls.contains (s.textOf t))))
  | .expr .blankIdentifier => .ok (.ident "_" (.settled false))
  | .expr .intLiteral => .ok (.basicLit .int (s.textOf t))
  | .expr .floatLiteral => .ok (.basicLit .float (s.textOf t))
  | .expr .imaginaryLiteral => .ok (.basicLit .imag (s.textOf t))
  | .expr .runeLiteral => .ok (.basicLit .char (s.textOf t))
  | .expr .interpretedStringLiteral | .expr .rawStringLiteral =>
    .ok (.basicLit .string (s.textOf t))
  | .expr .parenthesizedExpression | .expr .parenthesizedType => paren ls r
  | .expr .selectorExpression => selector s ls r
  | .expr .indexExpression => index ls r
  | .expr .sliceExpression => slice ls r
  | .expr .typeAssertionExpression => typeAssertion ls r
  | .expr .typeConversionExpression => conversion ls r
  | .expr .typeInstantiationExpression => instantiation ls r
  | .expr .callExpression => call ls r
  | .expr .unaryExpression => unary s ls r
  | .expr .binaryExpression => binary s ls r
  | .expr .compositeLiteral => composite s ls r
  | .expr .literalValue => bareComposite s ls r
  | .expr .funcLiteral => funcLit s r
  | .expr .pointerType => pointer ls r
  | .expr .arrayType => array ls r
  | .expr .implicitLengthArrayType => unsized ls r (some (.ellipsis none))
  | .expr .sliceType => unsized ls r none
  | .expr .mapType => map ls r
  | .expr .channelType => chan ls r
  | .expr .functionType => signature s ls r true
  | .expr .structType => struct s ls r
  | .expr .interfaceType => interface s ls r
  | .expr .qualifiedType => qualified s t
  | .expr .genericType => generic ls r
  | .expr .negatedType => negated ls r
  | .expr .typeElem | .expr .typeConstraint => union ls r
  | _ => refuse s t .unsupportedExpression

end GoMetrics.Draft
