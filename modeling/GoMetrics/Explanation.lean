import GoMetrics.Settings.Limit

/-!
How a complaint is told to the user: a message, details in order, and perhaps a hint among them.
Most parts are texts, but any value can stand there, and it is kept as it is.
-/

namespace GoMetrics

namespace Value

/-- Whether a value can be a key: lists and tables cannot. -/
def isKey : Value → Bool
  | .list _ | .table _ => false
  | _ => true

/-- Whether two values are the same key. Numbers are if they are equal, and a truth value counts as
a number. -/
def sameKey (a b : Value) : Bool :=
  match a, b with
  | .text s, .text t => s == t
  | .none, .none => true
  | a, b => match Limit.ofValue a, Limit.ofValue b with
    | .whole i, .whole j => i == j
    | .whole i, .real x | .real x, .whole i => Limit.compareReal i x == some .eq
    | .real x, .real y => x == y
    | _, _ => false

/-- What a value goes through item by item: the members of a list, the characters of a text and the
names of a table. -/
def items? : Value → Option (List Value)
  | .list xs => some xs
  | .text s => some (s.toList.map fun c => .text (String.singleton c))
  | .table t => some (t.map fun (k, _) => .text k)
  | _ => .none

end Value

/-- Keys with their values, in the order in which the keys first came up. -/
abbrev Details := List (Value × Value)

namespace Details

/-- Set a key; one that was there keeps its place. -/
def set (d : Details) (key v : Value) : Details :=
  match d with
  | [] => [(key, v)]
  | (k, u) :: rest => if k.sameKey key then (k, v) :: rest else (k, u) :: set rest key v

def get? (d : Details) (key : Value) : Option Value :=
  (d.find? fun (k, _) => k.sameKey key).map (·.2)

def ofTable (t : Table) : Details :=
  t.map fun (k, v) => (.text k, v)

/-- Set a key and its value, given as the item at some index. -/
def add (d : Details) (index : Nat) (item : Value) : Except Mismatch Details :=
  match item.items? with
  | none => .error (.notSequence index)
  | some [key, v] => if key.isKey then .ok (d.set key v) else .error (.notKey key.typeName)
  | some parts => .error (.notPair index parts.length)

/-- Details from a table or from pairs. There are none in a value that is not set. -/
def ofValue (v : Value) : Except Mismatch Details :=
  if !v.isSet then .ok []
  else match v with
    | .table t => .ok (ofTable t)
    | v => match v.items? with
      | none => .error (.notIterable v.typeName)
      | some items => items.zipIdx.foldlM (fun d (item, i) => d.add i item) []

end Details

structure Explanation where
  message : Value
  /-- The details, a hint among them. -/
  context : Details
  deriving Repr

namespace Explanation

/-- The key of a hint. -/
def hintKey : Value := .text "hint"

def hint (e : Explanation) : Value :=
  (e.context.get? hintKey).getD .none

def details (e : Explanation) : Details :=
  e.context.filter fun (k, _) => !k.sameKey hintKey

/-- The message, followed by the details in parentheses if there are any. -/
def render (e : Explanation) : String :=
  if e.details.isEmpty then e.message.render
  else
    let context := e.details.map fun (k, v) => k.render ++ "=" ++ v.render
    e.message.render ++ " (" ++ String.intercalate ", " context ++ ")"

/-- The explanation as a text. A message that stands alone has to be one. -/
def toText (e : Explanation) : Except Mismatch String :=
  match e.message with
  | .text _ => .ok e.render
  | m => if e.details.isEmpty then .error (.notText m.typeName) else .ok e.render

/-- A message with details that have names. -/
def named (message : String) (details : Table) : Explanation :=
  ⟨.text message, .ofTable details⟩

def fileAccess (path reason : Value) : Explanation :=
  .named ("Cannot access file: " ++ path.render)
    [("filepath", .text path.render), ("reason", reason)]

def parsing (path language reason : Value) : Explanation :=
  .named ("Failed to parse " ++ language.render ++ " file: " ++ path.render)
    [("filepath", .text path.render), ("language", language), ("reason", reason)]

def parserUnavailable (language : Value) : Explanation :=
  .named ("No parser available for " ++ language.render)
    [("language", language),
      ("hint", .text ("pip install tree-sitter tree-sitter-" ++ language.render))]

def thresholdsExceeded (functions packages : Value) : Explanation :=
  .named "complexity test failed"
    [("functions", .text functions.render), ("packages", .text packages.render)]

def invalidPath (path reason : Value) : Explanation :=
  .named ("Invalid path: " ++ path.render) [("path", .text path.render), ("reason", reason)]

def invalidSetting (key value reason : Value) : Explanation :=
  .named ("Invalid configuration for " ++ key.render ++ ": " ++ value.render)
    [("key", key), ("value", .text value.render), ("reason", reason)]

end Explanation

/-- The kinds of complaints. Each but the first is a case of a wider one. -/
inductive ComplaintKind
  | general | analysis | configuration | fileAccess | parsing | parserUnavailable
  | thresholdsExceeded | invalidPath | invalidSetting
  deriving DecidableEq, Repr

namespace ComplaintKind

/-- A kind and the wider ones, step by step. -/
def lineage : ComplaintKind → List ComplaintKind
  | .general => [.general]
  | .analysis => [.analysis, .general]
  | .configuration => [.configuration, .general]
  | .fileAccess => [.fileAccess, .analysis, .general]
  | .parsing => [.parsing, .analysis, .general]
  | .parserUnavailable => [.parserUnavailable, .analysis, .general]
  | .thresholdsExceeded => [.thresholdsExceeded, .analysis, .general]
  | .invalidPath => [.invalidPath, .configuration, .general]
  | .invalidSetting => [.invalidSetting, .configuration, .general]

def name : ComplaintKind → String
  | .general => "GoComplexityError"
  | .analysis => "AnalysisError"
  | .configuration => "ConfigurationError"
  | .fileAccess => "FileAccessError"
  | .parsing => "ParsingError"
  | .parserUnavailable => "ParserUnavailableError"
  | .thresholdsExceeded => "ThresholdsExceededError"
  | .invalidPath => "InvalidPathError"
  | .invalidSetting => "InvalidConfigError"

/-- The kind that says how many parts there are: the wide kinds leave it to the widest. -/
def owner : ComplaintKind → ComplaintKind
  | .analysis | .configuration => .general
  | k => k

/-- The parts that a complaint needs. -/
def parts : ComplaintKind → List String
  | .general | .analysis | .configuration => ["message"]
  | .fileAccess => ["filepath", "reason"]
  | .parsing => ["filepath", "language", "reason"]
  | .parserUnavailable => ["language"]
  | .thresholdsExceeded => ["function_count", "unit_count"]
  | .invalidPath => ["path", "reason"]
  | .invalidSetting => ["key", "value", "reason"]

/-- How many parts a complaint can have beyond those that it needs. -/
def spare (k : ComplaintKind) : Nat :=
  if k.owner = .general then 1 else 0

/-- What is wrong with the number of parts. -/
def countFault (k : ComplaintKind) (given : Nat) : Mismatch :=
  if given < k.parts.length then .missingParts k.owner.name (k.parts.drop given)
  else .surplusParts k.owner.name k.parts.length (k.parts.length + k.spare) given

/-- The explanation of a complaint from its parts. -/
def explain (k : ComplaintKind) (given : List Value) : Except Mismatch Explanation :=
  match k, given with
  | .general, [m] | .analysis, [m] | .configuration, [m] => .ok ⟨m, []⟩
  | .general, [m, ds] | .analysis, [m, ds] | .configuration, [m, ds] => do
    return ⟨m, ← Details.ofValue ds⟩
  | .fileAccess, [path, reason] => .ok (.fileAccess path reason)
  | .parsing, [path, language, reason] => .ok (.parsing path language reason)
  | .parserUnavailable, [language] => .ok (.parserUnavailable language)
  | .thresholdsExceeded, [functions, packages] => .ok (.thresholdsExceeded functions packages)
  | .invalidPath, [path, reason] => .ok (.invalidPath path reason)
  | .invalidSetting, [key, value, reason] => .ok (.invalidSetting key value reason)
  | k, given => .error (k.countFault given.length)

end ComplaintKind
end GoMetrics
