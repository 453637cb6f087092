import GoMetrics.Settings.Basic
import GoMetrics.Text.Digit

/-!
Where settings come from. Later sources win over earlier ones, key by key: the user's file, the
project's file, a file named explicitly, the environment, and direct overrides. A threshold may be
given flat or in a table of thresholds; both ways set the same key.
-/

namespace GoMetrics

/-- Settings under way: the thresholds and the rest. -/
structure Layers where
  thresholds : Table := []
  rest : Table := []
  deriving Repr

namespace Layers

/-- Set one key. -/
def put (l : Layers) (key : String) (v : Value) : Except Complaint Layers :=
  if key = "thresholds" then
    match v with
    | .table t => .ok { l with thresholds := l.thresholds.update t }
    | _ => .error (.invalidSetting "thresholds" v.render "expected a table")
  else if ThresholdSettings.keys.contains key then
    .ok { l with thresholds := l.thresholds.set key v }
  else .ok { l with rest := l.rest.set key v }

/-- Set all keys of a table, in order. -/
def merge (l : Layers) (t : Table) : Except Complaint Layers :=
  t.foldlM (fun l (key, v) => l.put key v) l

/-- The settings that the layers come to. -/
def settle (l : Layers) : Except Failure Settings :=
  let built : Except Failure Settings := do
    let thresholds ← (Settings.thresholdsOf l.thresholds).mapError Failure.mismatch
    Settings.ofTable l.rest thresholds
  built.mapError fun
    | .mismatch m => .complaint (.configuration ("Invalid configuration: " ++ m.message))
    | f => f

end Layers

namespace Environment

/-- The variable that sets a key. -/
def variableName (key : String) : String :=
  "GO_COMPLEXITY_" ++ key.map Char.toUpper

def switches : List String :=
  ["csv_stats", "csv_totals", "fail_on_issues", "include_tests", "strict"]

/-- A switch is on or off by one of a few words, in any case. No letter outside ASCII turns into
one of these words in lower case. -/
def switch? (text : String) : Option Bool :=
  let word := text.map Char.toLower
  if ["true", "1", "yes", "on"].contains word then some true
  else if ["false", "0", "no", "off"].contains word then some false
  else none

/-- The longest piece of a text that a message repeats. -/
def excerptLength : Nat := 200

/-- Why a text is no number, in the words of the message. -/
def numberReason (text : String) : Text.NotWhole → String
  | .illFormed =>
    let excerpt := (Text.quoted text).toList.take excerptLength
    "invalid literal for int() with base 10: " ++ String.ofList excerpt
  | .tooLong digits =>
    "Exceeds the limit (" ++ toString Text.digitLimit ++
      " digits) for integer string conversion: value has " ++ toString digits ++
      " digits; use sys.set_int_max_str_digits() to increase the limit"

/-- The value that a variable gives to a key. -/
def value (key text : String) : Except Complaint Value :=
  if switches.contains key then
    match switch? text with
    | some b => .ok (.bool b)
    | none => .error (.invalidSetting (variableName key) text
        ("expected true/false, got '" ++ text ++ "'"))
  else if key = "verbosity" then .ok (.text text)
  else
    match Text.readInt text with
    | .ok i => .ok (.int i)
    | .error e => .error (.invalidSetting (variableName key) text (numberReason text e))

/-- The settings that the environment gives. -/
def table (env : List (String × String)) : Except Complaint Table :=
  (Settings.keys ++ ThresholdSettings.keys).filterMapM fun key =>
    match env.lookup (variableName key) with
    | none => .ok none
    | some text => do return some (key, ← value key text)

end Environment

namespace Settings

/-- The table that a configuration file holds. -/
def fileTable (fs : FileTree) (p : Path) : Except Failure Table :=
  let invalid (why : String) : Failure :=
    .complaint (.configuration ("Invalid config file '" ++ p.render ++ "': " ++ why))
  match fs.read p with
  | .error .nul => .error (.access .nul)
  | .error f => .error (invalid (f.message p.render))
  | .ok doc =>
    match doc.settings with
    | .table t => .ok t
    | .error message => .error (invalid message)
    | .illFormedText => .error .illFormedText

/-- Overrides that are set; asking for quiet or for verbose output sets the verbosity. -/
def overrideTable (overrides : Table) : Table :=
  let asks (key : String) : Bool := ((overrides.get? key).map Value.isSet).getD false
  let t := overrides.filter fun (key, _) => key != "verbose" && key != "quiet"
  let t := if asks "verbose" then Table.set t "verbosity" (.text "verbose") else t
  let t := if asks "quiet" then Table.set t "verbosity" (.text "quiet") else t
  t.filter fun (_, v) => !v.isNone

def userFile (fs : FileTree) : Path :=
  ⟨"/", fs.home ++ [".go-complexity.toml"]⟩

def projectFile (fs : FileTree) : Path :=
  ⟨"/", fs.work ++ ["go-complexity.toml"]⟩

/-- A configuration file that need not be there. -/
def optionalFile (fs : FileTree) (p : Path) : Except Failure Table := do
  if ← (fs.exists? p).mapError Failure.access then fileTable fs p else return []

/-- A configuration file that was asked for. -/
def explicitFile (fs : FileTree) : Option Path → Except Failure Table
  | none => .ok []
  | some p => do
    if ← (fs.exists? p).mapError Failure.access then fileTable fs p
    else throw (.complaint (.configuration ("Config file not found: " ++ p.render)))

/-- What each source gives, from the weakest to the strongest. -/
def sources (fs : FileTree) (env : List (String × String)) (explicit : Option Path)
    (overrides : Table) : List (Except Failure Table) :=
  [optionalFile fs (userFile fs), optionalFile fs (projectFile fs), explicitFile fs explicit,
    (Environment.table env).mapError .complaint, .ok (overrideTable overrides)]

/-- The key that names the explicit file; no override may use it. -/
def fileKey : String := "config_file"

/-- The settings of all sources together. A source that fails ends the loading, unless an earlier
one does. -/
def load (fs : FileTree) (env : List (String × String)) (explicit : Option Path)
    (overrides : Table) : Except Failure Settings := do
  if (overrides.get? fileKey).isSome then throw (.mismatch (.repeatedArgument fileKey))
  let layers ← (sources fs env explicit overrides).foldlM (fun (l : Layers) source => do
    (l.merge (← source)).mapError Failure.complaint) {}
  layers.settle

end Settings
end GoMetrics
