import GoMetrics.Failure
import GoMetrics.Log

/-!
Settings of a run. `Settings` holds what the sources of configuration give, and no type is
enforced there except on the verbosity. `Options` is what a run makes of them: switches are on if
their value is set, and thresholds are limits.
-/

namespace GoMetrics

structure Options where
  thresholds : Thresholds
  csvStats : Bool
  csvTotals : Bool
  failOnIssues : Bool
  includeTests : Bool
  strict : Bool
  verbosity : Verbosity
  deriving Repr

/-- The thresholds as configured. -/
structure ThresholdSettings where
  cyclomaticOver : Value := .int 10
  maintainabilityUnder : Value := .int 20
  selfImportDepth : Value := .int (-1)
  deriving Repr

structure Settings where
  thresholds : ThresholdSettings := {}
  csvStats : Value := .bool false
  csvTotals : Value := .bool false
  failOnIssues : Value := .bool false
  includeTests : Value := .bool true
  strict : Value := .bool false
  verbosity : Verbosity := .normal
  deriving Repr

namespace ThresholdSettings

def keys : List String :=
  ["cyclomatic_over", "maintainability_under", "self_import_depth"]

def limits (t : ThresholdSettings) : Thresholds :=
  ⟨.ofValue t.cyclomaticOver, .ofValue t.maintainabilityUnder, .ofValue t.selfImportDepth⟩

end ThresholdSettings

namespace Settings

/-- The keys beside the thresholds. -/
def keys : List String :=
  ["csv_stats", "csv_totals", "fail_on_issues", "include_tests", "strict", "verbosity"]

def options (s : Settings) : Options where
  thresholds := s.thresholds.limits
  csvStats := s.csvStats.isSet
  csvTotals := s.csvTotals.isSet
  failOnIssues := s.failOnIssues.isSet
  includeTests := s.includeTests.isSet
  strict := s.strict.isSet
  verbosity := s.verbosity

/-- The first key of a table that does not belong there. -/
def strayKey? (owner : String) (known : List String) (t : Table) : Option Mismatch :=
  t.findSome? fun (key, _) =>
    if known.contains key then none
    else if key = "self" then some (.repeatedKey owner key)
    else some (.unexpectedKey owner key)

/-- The thresholds that a table sets, over the defaults. -/
def thresholdsOf (t : Table) : Except Mismatch ThresholdSettings :=
  match strayKey? "Thresholds" ThresholdSettings.keys t with
  | some m => .error m
  | none => .ok
    { cyclomaticOver := (t.get? "cyclomatic_over").getD (.int 10)
      maintainabilityUnder := (t.get? "maintainability_under").getD (.int 20)
      selfImportDepth := (t.get? "self_import_depth").getD (.int (-1)) }

/-- The verbosity that a value names. -/
def verbosityOf (v : Value) : Except Failure Verbosity :=
  let known? := match v with
    | .text s => Verbosity.ofName? s
    | _ => none
  match known? with
  | some verbosity => .ok verbosity
  | none => .error <| .complaint <|
      .invalidSetting "verbosity" v.render "expected quiet, normal or verbose"

/-- The settings that a table sets beside the thresholds, over the defaults. -/
def ofTable (t : Table) (thresholds : ThresholdSettings) : Except Failure Settings := do
  if let some m := strayKey? "AnalysisConfig" (keys ++ ["thresholds"]) t then
    throw (.mismatch m)
  let verbosity ← verbosityOf ((t.get? "verbosity").getD (.text "normal"))
  let get (key : String) (standard : Bool) := (t.get? key).getD (.bool standard)
  return {
    thresholds
    csvStats := get "csv_stats" false
    csvTotals := get "csv_totals" false
    failOnIssues := get "fail_on_issues" false
    includeTests := get "include_tests" true
    strict := get "strict" false
    verbosity }

/-- The settings that a single table gives, its thresholds in a table of their own. -/
def ofConfig (t : Table) : Except Failure Settings := do
  let given := match t.get? "thresholds" with
    | some (.table thresholds) => thresholds
    | _ => []
  ofTable t (← (thresholdsOf given).mapError Failure.mismatch)

end Settings

/-- The style that a name stands for. -/
def Style.parse (name : String) : Except Failure Style :=
  match Style.ofName? name with
  | some style => .ok style
  | none => .error (.unknownStyle name)

end GoMetrics
