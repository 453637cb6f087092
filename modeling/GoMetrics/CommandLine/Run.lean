import GoMetrics.Analysis
import GoMetrics.CommandLine.Args
import GoMetrics.Console.Page
import GoMetrics.Settings.Sources

/-!
A run of the command: arguments, environment and files in; exit status, output and log out.
-/

namespace GoMetrics.CommandLine

structure Exit where
  status : Nat
  stdout : String := ""
  /-- What the command itself says beside its report. -/
  console : String := ""
  /-- The log records that the verbosity lets through. -/
  log : List LogRecord := []
  /-- A failure that the command does not explain. -/
  escaped : Option Failure := none
  /-- Why the command could not say something. -/
  garbled : Option Console.Fault := none
  deriving Repr

def version : String := "0.1.0"

def versionMessage : String :=
  "[bold cyan]go-complexity[/bold cyan] version [green]" ++ version ++ "[/green]"

def defaultTarget : String := "./..."

/-- Arguments that were checked. -/
structure Checked where
  cyclomaticOver : Option Int
  maintainabilityUnder : Option Int
  selfImportDepth : Option Int
  config : Option Path
  deriving Repr

/-- The settings that options override; an option that was not given overrides nothing. -/
def overrides (g : Given) (c : Checked) : Table :=
  let whole (o : Option Int) : Value := (o.map Value.int).getD .none
  let flag (f : Flag) (key : String) : Table := if g.has f then [(key, .bool true)] else []
  [("cyclomatic_over", whole c.cyclomaticOver),
    ("maintainability_under", whole c.maintainabilityUnder),
    ("self_import_depth", whole c.selfImportDepth),
    ("include_tests", (g.tests?.map Value.bool).getD .none),
    ("verbose", .bool (g.has .verbose)), ("quiet", .bool (g.has .quiet))] ++
    flag .csvStats "csv_stats" ++ flag .csvTotals "csv_totals" ++ flag .mustFail "fail_on_issues"

/-- Show a message on the console. -/
def Exit.say (e : Exit) (message : String) : Exit :=
  match Console.show? message with
  | .ok text => { e with console := e.console ++ text ++ "\n" }
  | .error fault => { e with garbled := some fault }

/-- How a run ends that failed. -/
def failed (e : Exit) : Failure → Exit
  | .complaint (.thresholdsExceeded functions packages) =>
    let message := (Complaint.thresholdsExceeded functions packages).message
    { e with status := 1 }.say ("[red]" ++ message ++ "[/red]")
  | .complaint c =>
    let e := { e with status := 1 }.say ("[red]Error:[/red] " ++ c.render)
    match c.hint? with
    | some hint => if hint.isEmpty then e else e.say ("[yellow]Hint:[/yellow] " ++ hint)
    | none => e
  | f => { e with status := 1, escaped := some f }

/-- How a run ends whose arguments are not understood. -/
def refused : Exit := { status := 2 }

/-- Check the configuration file that was asked for. It has to be there and be a file. -/
def checkConfig (fs : FileTree) (text : String) : Except Exit Unit :=
  match fs.read (Path.ofString text) with
  | .ok _ => .ok ()
  | .error .nul => .error (failed { status := 0 } (.access .nul))
  | .error _ => .error refused

/-- Check the value of an option. -/
def checkOption (fs : FileTree) (g : Given) (v : Valued) : Except Exit Unit :=
  match v, g.value? v with
  | .config, some text => checkConfig fs text
  | v, _ => if (g.whole? v).isSome then .ok () else .error refused

/-- Check the values of options, in the order in which the options first came up. -/
def check (fs : FileTree) (g : Given) : Except Exit Checked := do
  g.values.forM fun (v, _) => checkOption fs g v
  return ⟨(g.whole? .cycloOver).join, (g.whole? .maintUnder).join, (g.whole? .selfImpDepth).join,
    (g.value? .config).map Path.ofString⟩

/-- Log records about the failure of a run. -/
def failureLog : Failure → List LogRecord
  | .complaint (.thresholdsExceeded functions _) =>
    [⟨.info, toString functions ++ " functions over thresholds"⟩]
  | _ => []

/-- Run with arguments that were understood. -/
def execute (fs : FileTree) (env : List (String × String)) (g : Given) (c : Checked) : Exit :=
  match Settings.load fs env c.config (overrides g c) with
  | .error f => failed { status := 0 } f
  | .ok settings =>
    let options := settings.options
    let targets := if g.targets.isEmpty then [defaultTarget] else g.targets
    let o := (Reporter.ofOptions options none).runTargets options fs targets
    match o.result with
    | .ok _ => { status := 0, stdout := o.out, log := options.verbosity.shown o.log }
    | .error f =>
      let log := options.verbosity.shown (o.log ++ failureLog f)
      failed { status := 0, stdout := o.out, log } f

/-- Run the command. Arguments that are not understood end it with status 2. -/
def run (fs : FileTree) (env : List (String × String)) (args : List String) : Exit :=
  match parse {} args with
  | none => refused
  | some g =>
    if g.has .help then { status := 0 }
    else
      match check fs g with
      | .error e => e
      | .ok c =>
        if g.has .version then { status := 0 : Exit }.say versionMessage
        else execute fs env g c

end GoMetrics.CommandLine
