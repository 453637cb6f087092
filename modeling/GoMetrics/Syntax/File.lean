import GoMetrics.Syntax.Binding

/-!
Go files and packages. A file is read from its source and its parse tree in two steps: the
top-level names are collected, so that they are visible throughout the file, and then each
declaration is read and resolved in order.
-/

namespace GoMetrics

structure GoFile where
  filename : String
  package : String
  /-- Import paths as written, in order. -/
  imports : List String
  decls : List (Node Bool)
  deriving Repr

/-- The files of one package. -/
structure Package where
  path : String
  name : String
  files : List GoFile
  deriving Repr

/-- A function or method declaration. -/
structure Func where
  name : String
  resolved : Bool
  typeParams : List String
  type : Node Bool
  pos : Position
  stop : Position
  body : Option (Node Bool)
  recv : Option (List (Node Bool))
  deriving Repr

namespace Func

def isMethod (f : Func) : Bool :=
  f.recv.isSome

def node (f : Func) : Node Bool :=
  .funcDecl f.name f.resolved f.typeParams f.type f.pos f.stop f.body f.recv

/-- Lines that the function spans, the first and the last included. -/
def lines (f : Func) : Int :=
  f.stop.line - f.pos.line + 1

end Func

/-- The function that a declaration declares. -/
def Node.func? : Node Bool → Option Func
  | .funcDecl name resolved tps type pos stop body recv =>
      some ⟨name, resolved, tps, type, pos, stop, body, recv⟩
  | _ => none

def GoFile.functions (f : GoFile) : List Func :=
  f.decls.filterMap Node.func?

def Package.functions (p : Package) : List Func :=
  p.files.flatMap GoFile.functions

/-- The distinct import paths of all files, in order of their code points. -/
def Package.imports (p : Package) : List String :=
  (p.files.flatMap GoFile.imports).eraseDups.mergeSort fun a b => decide (a ≤ b)

/-- Why a file is not taken in. -/
inductive ReadError
  | fault (why : Fault)
  | noPackageClause
  /-- A package name or an import path is not well-formed text. -/
  | illFormedText
  deriving DecidableEq, Repr

namespace Draft

/-- The receiver of a method; a function has none. -/
def receiver (s : Source) (ls : List String) {t : Tree} (r : Readers t) :
    Except Fault (Option (List (Node Role))) :=
  if t.kind = .methodDeclaration then
    match t.at? .receiver with
    | none => .ok (some [])
    | some c => some <$> params s ls (r.under c)
  else .ok none

/-- A function or method declaration. Methods are not looked up by their name. -/
def funcDecl (s : Source) {t : Tree} (r : Readers t) : Result := do
  let name ← slotText s t .name
  let ls ← bodyLabels s t
  let recv ← receiver s ls r
  let type ← signature s ls r true
  let body ← (t.at? .body).mapM fun c => block ls (r.under c)
  return .funcDecl name (if t.kind = .methodDeclaration then .settled false else .use)
    (typeParams s t) type (s.position t.start) (s.position t.stop) body recv

/-- What a top-level node declares; clauses for the package and its imports declare nothing. -/
def decl (s : Source) (t : Tree) : Except Fault (Option (Node Role)) :=
  match t.kind with
  | .functionDeclaration | .methodDeclaration => some <$> funcDecl s (readers s t)
  | .decl k => some <$> genDecl s [] (readers s t) k
  | .part .packageClause | .part .importDeclaration => .ok none
  | _ => refuse s t .unexpectedTopLevel

/-- The names that a top-level node makes visible throughout its file. -/
def fileNames (s : Source) (t : Tree) : Except Fault (List String) :=
  match t.kind with
  | .functionDeclaration => do
    let name ← slotText s t .name
    return [name].filter (· != "init")
  | .decl _ => .ok (t.specs.flatMap fun c => names s c.1)
  | _ => .ok []

/-- The drafts of all declarations of a file, after the names visible throughout it. -/
def file (s : Source) (root : Tree) : Except Fault (List String × List (Node Role)) := do
  if root.isFaulty then
    throw (.refused .syntaxError (s.lineOf root.faultSite))
  let names ← root.parts.mapM fun t => fileNames s t.1
  let decls ← root.parts.mapM fun t => decl s t.1
  return (names.flatten, decls.reduceOption)

end Draft

namespace GoFile

/-- The declarations of a file, with every identifier resolved. -/
def declarations (s : Source) (root : Tree) : Except Fault (List (Node Bool)) := do
  let (names, drafts) ← Draft.file s root
  return ((Binding.resolveAll drafts).run (.ofFile names)).1

/-- The texts of the package clause, in order. -/
def packageNames (s : Source) (root : Tree) : List (Option String) :=
  (root.preorder.filter (·.kind == .part .packageClause)).flatMap fun t =>
    (t.children.filter (·.kind == .expr .packageIdentifier)).map fun c =>
      Utf8.decode? (s.slice c.start c.stop)

/-- An import path without its quotes. -/
def unquote (literal : String) : String :=
  if literal.length < 2 then literal
  else String.ofList ((literal.toList.drop 1).dropLast)

/-- The import paths, in order. -/
def importPaths (s : Source) (root : Tree) : List (Option String) :=
  (root.preorder.filter (·.kind == .part .importSpec)).flatMap fun t =>
    (t.children.filter (·.slot == some .path)).map fun c =>
      (Utf8.decode? (s.slice c.start c.stop)).map unquote

/-- Read a file. Of several package clauses the last one counts. -/
def read (s : Source) (root : Tree) : Except ReadError GoFile := do
  let decls ← (declarations s root).mapError .fault
  let some names := (packageNames s root).mapM id | throw .illFormedText
  let some imports := (importPaths s root).mapM id | throw .illFormedText
  let package := names.getLastD ""
  if package.isEmpty then throw .noPackageClause
  return ⟨s.filename, package, imports, decls⟩

end GoFile
end GoMetrics
