import GoMetrics.FileTree
import GoMetrics.Text.Blank

/-!
Go modules and import paths. A directory belongs to the nearest module file above it that names a
module, and its import path is the name of the module continued by the way down to the directory.
-/

namespace GoMetrics.Module

def fileName : String := "go.mod"

/-- The part of a line before a comment. -/
def uncommented : List Char → List Char
  | [] => []
  | '/' :: '/' :: _ => []
  | c :: cs => c :: uncommented cs

/-- What a line names as the module. -/
def named? (line : List Char) : Option String :=
  let text := Text.strip Text.isBlank (uncommented line)
  let keyword := "module".toList
  if keyword.isPrefixOf text then
    let rest := Text.strip Text.isBlank (text.drop keyword.length)
    if rest.isEmpty then none
    else some (String.ofList (Text.strip (fun c => c == '"' || c == '\x60') rest))
  else none

/-- The module that the contents of a module file name. -/
def nameIn? (bytes : List UInt8) : Option String :=
  (Text.lines (Utf8.decodeLossy bytes).toList).findSome? named?

/-- The module that a module file names. -/
def readName (fs : FileTree) (p : Path) : Except AccessFault (Option String) := do
  return nameIn? (← fs.read p).bytes

/-- The module, if any, whose file lies right in a directory. A file that names nothing does not
count. -/
def at? (fs : FileTree) (dir : Path) : Except AccessFault (Option (Path × String)) := do
  let file := dir.child fileName
  if ← fs.isFile file then
    return (← readName fs file).bind fun name => if name.isEmpty then none else some (dir, name)
  else return none

/-- The directory and the name of the module around a directory. -/
def find? (fs : FileTree) (dir : Path) : Except AccessFault (Option (Path × String)) :=
  (dir :: dir.parents).findSomeM? (at? fs)

/-- The components below a directory above. -/
def below? (p root : Path) : Option (List String) :=
  if p.root = root.root && root.parts.isPrefixOf p.parts then
    some (p.parts.drop root.parts.length)
  else none

/-- The import path of a directory. Outside a module it is the path from the working directory,
if the directory lies below it, and the name of the working directory itself. -/
def importPath (fs : FileTree) (dir : Path) : Except AccessFault String := do
  let dir ← fs.resolve dir
  match ← find? fs dir with
  | some (root, name) =>
    return String.intercalate "/" (name :: (below? dir root).getD [])
  | none =>
    match below? dir ⟨"/", Path.collapse fs.work⟩ with
    | some [] => return dir.name
    | some parts => return String.intercalate "/" parts
    | none => return dir.render

end GoMetrics.Module
