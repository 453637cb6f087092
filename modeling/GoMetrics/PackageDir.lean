import GoMetrics.Module
import GoMetrics.Outcome
import GoMetrics.PackageDir.Walk

/-!
From targets to package directories. A target names a directory, a directory with everything below
it, or a single Go file; the single files of all targets together make up one more package.
-/

namespace GoMetrics

structure PackageDir where
  directory : Path
  importPath : String
  files : List Path
  deriving DecidableEq, Repr

namespace PackageDir

/-- The import path of a package that is a list of files. -/
def adHoc : String := "command-line-arguments"

def isTest (p : Path) : Bool :=
  p.name.endsWith "_test.go"

/-- Whether a file right in a package directory belongs to the package. -/
def isMember (includeTests : Bool) (p : Path) : Bool :=
  p.suffix == ".go" && !isHidden p.name && (includeTests || !isTest p)

/-- The Go files right inside a directory, in order of their names. -/
def goFiles (fs : FileTree) (dir : Path) (includeTests : Bool) :
    Except AccessFault (List Path) := do
  let place ← fs.directory dir
  let candidates := ((fs.namesIn place).map dir.child).filter (·.suffix == ".go")
  if candidates.any Path.isTooLong then throw .tooLong
  return Path.sort (((fs.filesIn place).map dir.child).filter (isMember includeTests))

/-- A target, taken apart: where it begins, and whether all below it is meant. -/
def target (text : String) : Path × Bool :=
  if text == "..." || text.endsWith "/..." then
    (Path.ofString (String.ofList (text.toList.dropLast.dropLast.dropLast)), true)
  else (Path.ofString text, false)

/-- The package in a directory, if it holds any Go file. -/
def ofDirectory? (fs : FileTree) (includeTests : Bool) (dir : Path) :
    Except AccessFault (Option PackageDir) := do
  let files ← goFiles fs dir includeTests
  if files.isEmpty then return none
  else return some ⟨dir, ← Module.importPath fs dir, files⟩

/-- What a target stands for: packages, or a single file. -/
def expandTarget (fs : FileTree) (includeTests : Bool) (text : String) :
    Outcome (List PackageDir × List Path) := do
  let (base, recursive) := target text
  if !(← .ofExcept .access (fs.exists? base)) then
    Outcome.complain (.invalidPath base.render "no such file or directory")
  else if ← .ofExcept .access (fs.isFile base) then
    if base.suffix == ".go" then return ([], [base])
    else Outcome.complain (.invalidPath base.render "not a Go source file")
  else
    let dirs ← if recursive then .ofExcept .access (walk fs base) else pure [base]
    let found ← dirs.mapM fun dir => .ofExcept .access (ofDirectory? fs includeTests dir)
    if !recursive && found.all Option.isNone then
      .record .warning ("No Go files in " ++ base.render)
    return (found.reduceOption, [])

/-- The packages of all targets, in order, with the one made of single files at the end. -/
def expand (fs : FileTree) (includeTests : Bool) (targets : List String) :
    Outcome (List PackageDir) := do
  let found ← targets.mapM (expandTarget fs includeTests)
  let loose := found.flatMap (·.2)
  let last := match loose with
    | [] => []
    | first :: _ => [⟨first.parent, adHoc, Path.sort loose⟩]
  let packages := found.flatMap (·.1) ++ last
  .record .debug ("Expanded " ++ toString targets.length ++ " targets into " ++
    toString packages.length ++ " package directories")
  return packages

end PackageDir
end GoMetrics
