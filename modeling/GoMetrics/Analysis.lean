import GoMetrics.Loading

/-!
Analysing packages. Every function is measured; those that cross a threshold are flagged, added to
the totals of their package and reported. A run over several packages can be asked to fail when
anything was flagged, and does so only after everything was reported.
-/

namespace GoMetrics

structure PackageReport where
  path : String
  name : String
  /-- All functions, in order of declaration. -/
  results : List FuncReport
  /-- Those that crossed a threshold. -/
  flagged : List FuncReport
  totals : Totals
  deriving Repr

structure RunReport where
  packages : List PackageReport
  deriving Repr

namespace PackageReport

def issuesFound (r : PackageReport) : Bool :=
  !r.flagged.isEmpty

/-- The report on a package in which nothing was measured yet. -/
def start (p : Package) (imports selfImports : Int) : PackageReport :=
  ⟨p.path, p.name, [], [], { imports, selfImports }⟩

end PackageReport

namespace RunReport

def issuesFound (r : RunReport) : Bool :=
  r.packages.any PackageReport.issuesFound

def totals (r : RunReport) : Totals :=
  Totals.mergeAll (r.packages.map PackageReport.totals)

end RunReport

/-- How a run reports. -/
structure Reporter where
  thresholds : Thresholds
  style : Style
  /-- Report packages as a whole instead of single functions. -/
  totalsOnly : Bool
  deriving Repr

namespace Reporter

def ofOptions (o : Options) (style : Option Style) : Reporter :=
  ⟨o.thresholds, style.getD (if o.csvStats then .csv else .text), o.csvTotals⟩

/-- Measure one function and take it into the report. -/
def function (r : Reporter) (report : PackageReport) (f : Func) : Outcome PackageReport := do
  let metrics ← .ofExcept .unmeasured (f.measure report.totals.imports report.totals.selfImports)
  let result : FuncReport := ⟨f.name, f.pos, metrics⟩
  let report := { report with results := report.results ++ [result] }
  .record .debug (f.pos.render ++ ": Cyclomatic complexity: " ++ toString metrics.cyclomatic ++
    ", Halstead difficulty: " ++ FuncReport.measure metrics.difficulty ++
    ", volume: " ++ FuncReport.measure metrics.volume)
  let exceeded ← .ofExcept .mismatch
    (r.thresholds.isExceeded metrics.cyclomatic metrics.maintainability)
  if !exceeded then return report
  if !r.totalsOnly then
    .write (written (← .ofExcept .mismatch (result.lines r.style r.thresholds)))
  return { report with
    flagged := report.flagged ++ [result]
    totals := report.totals.add metrics }

/-- Analyse one package. -/
def package (r : Reporter) (p : Package) : Outcome PackageReport := do
  let selfImports ← .ofExcept .mismatch (r.thresholds.selfImportDepth.selfImports p.path p.imports)
  let report ← p.functions.foldlM r.function (.start p p.imports.length selfImports)
  if r.totalsOnly then .write (written [report.totals.csvRow p.name])
  .record .debug (p.path ++ ": " ++ toString report.results.length ++ " functions, " ++
    toString report.flagged.length ++ " over thresholds")
  return report

/-- The end of a run: its summary, and its failure if that was asked for and is due. -/
def finish (failOnIssues : Bool) (report : RunReport) : Outcome RunReport := do
  let functions := report.totals.functions
  let packages := report.packages.length
  .record .info (toString functions ++ " functions over thresholds in " ++ toString packages ++
    " packages")
  if report.issuesFound && failOnIssues then
    Outcome.complain (.thresholdsExceeded functions packages)
  else return report

/-- Analyse packages that are at hand. -/
def run (r : Reporter) (failOnIssues : Bool) (packages : List Package) : Outcome RunReport := do
  finish failOnIssues ⟨← packages.mapM r.package⟩

/-- Analyse the packages of targets. A directory is loaded when its turn comes, after everything
before it was reported. -/
def runTargets (r : Reporter) (o : Options) (fs : FileTree) (targets : List String) :
    Outcome RunReport := do
  let dirs ← PackageDir.expand fs o.includeTests targets
  let reports ← dirs.mapM fun dir => do
    (← Package.loadDir fs o.strict dir).mapM r.package
  finish o.failOnIssues ⟨reports.flatten⟩

/-- Analyse packages as a table of settings and the name of a style say. The style is looked at
first. -/
def configured (config : Table) (style : Option String) (packages : List Package) :
    Outcome RunReport := do
  let style ← style.mapM fun name => Outcome.ofExcept id (Style.parse name)
  let options := (← .ofExcept id (Settings.ofConfig config)).options
  (ofOptions options style).run options.failOnIssues packages

end Reporter
end GoMetrics
