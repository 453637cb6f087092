import GoMetrics.PackageDir
import GoMetrics.Settings.Basic
import GoMetrics.Syntax.File

/-!
Loading packages. The files of a directory are read one by one and grouped by the package they
declare, so a directory with tests from outside gives two packages. A file that cannot be read is
passed over with a warning, or ends the loading if the run is strict.
-/

namespace GoMetrics

/-- The complaint about a file that is refused, if there is one; any other failure is unexpected. -/
def ReadError.failure (filename : String) : ReadError → Failure
  | .fault (.refused why line) =>
    .complaint (.parsing filename "go" (why.message ++ " at line " ++ toString line))
  | .fault (.lacks what) => .incomplete what
  | .noPackageClause => .complaint (.parsing filename "go" "missing package clause")
  | .illFormedText => .illFormedText

namespace GoFile

/-- Read a file with its failures in the words of the user. -/
def parse (s : Source) (root : Tree) : Except Failure GoFile :=
  (GoFile.read s root).mapError (·.failure s.filename)

/-- Read the file at a path. -/
def load (fs : FileTree) (p : Path) : Except Failure GoFile :=
  match fs.read p with
  | .error .nul => .error (.access .nul)
  | .error f => .error (.complaint (.fileAccess p.render ("OS error: " ++ f.message p.render)))
  | .ok doc => parse ⟨p.render, doc.bytes⟩ doc.tree

/-- Read the file at a path, or pass it over. -/
def loadOrSkip (fs : FileTree) (strict : Bool) (p : Path) : Outcome (Option GoFile) :=
  match load fs p with
  | .ok file => pure (some file)
  | .error (.complaint c) => do
    if strict then Outcome.complain c
    else
      Outcome.record .warning ("Skipping " ++ p.render ++ ": " ++ c.render)
      return none
  | .error f => .fail f

end GoFile

namespace Package

/-- Files grouped by the package they declare, in order of first appearance. -/
def group : List GoFile → List (String × List GoFile) :=
  List.foldl insert []
where
  insert : List (String × List GoFile) → GoFile → List (String × List GoFile)
    | [], file => [(file.package, [file])]
    | (name, files) :: rest, file =>
      if name = file.package then (name, files ++ [file]) :: rest
      else (name, files) :: insert rest file

/-- The packages that the files of one directory make up. A package of outside tests beside
another package has a path of its own. -/
def ofFiles (importPath : String) (files : List GoFile) : List Package :=
  let groups := group files
  groups.map fun (name, members) =>
    let outside := name.endsWith "_test" && 1 < groups.length
    ⟨if outside then importPath ++ "_test" else importPath, name, members⟩

/-- Load the packages of one directory. -/
def loadDir (fs : FileTree) (strict : Bool) (dir : PackageDir) : Outcome (List Package) := do
  let files ← dir.files.mapM (GoFile.loadOrSkip fs strict)
  let packages := ofFiles dir.importPath files.reduceOption
  packages.forM fun p =>
    .record .debug ("Loaded package " ++ p.path ++ " (" ++ toString p.files.length ++ " files)")
  return packages

/-- Load the packages of directories one after another. The packages loaded before a failure are
kept beside the outcome. -/
def loadAll (fs : FileTree) (strict : Bool) : List PackageDir → List Package × Outcome Unit
  | [] => ([], pure ())
  | dir :: dirs =>
    let first := loadDir fs strict dir
    match first.result with
    | .error f => ([], ⟨first.out, first.log, .error f⟩)
    | .ok packages =>
      let (more, rest) := loadAll fs strict dirs
      (packages ++ more, first.bind fun _ => rest)

/-- Load the packages of targets as a table of settings says. -/
def loadConfigured (fs : FileTree) (config : Table) (targets : List String) :
    List Package × Outcome Unit :=
  match Settings.ofConfig config with
  | .error f => ([], .fail f)
  | .ok settings =>
    let options := settings.options
    let dirs := PackageDir.expand fs options.includeTests targets
    match dirs.result with
    | .error f => ([], ⟨dirs.out, dirs.log, .error f⟩)
    | .ok found =>
      let (packages, rest) := loadAll fs options.strict found
      (packages, dirs.bind fun _ => rest)

end Package
end GoMetrics
