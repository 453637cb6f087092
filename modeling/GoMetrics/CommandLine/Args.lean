import GoMetrics.CommandLine.Number

/-!
Command-line arguments. Options and targets mix freely; two dashes end the options. A long option
takes its value after an equals sign or as the next argument, short options can be run together,
and of a repeated option the last one counts.
-/

namespace GoMetrics.CommandLine

/-- Options without a value. -/
inductive Flag
  | csvStats | csvTotals | mustFail | tests | noTests | verbose | quiet | version | help
  deriving DecidableEq, Repr

/-- Options with a value. -/
inductive Valued
  | cycloOver | maintUnder | selfImpDepth | config
  deriving DecidableEq, Repr

inductive Opt
  | flag (f : Flag)
  | valued (v : Valued)
  deriving DecidableEq, Repr

def long? : String → Option Opt
  | "--cycloover" => some (.valued .cycloOver)
  | "--maintunder" => some (.valued .maintUnder)
  | "--selfimpdepth" => some (.valued .selfImpDepth)
  | "--config" => some (.valued .config)
  | "--csvstats" => some (.flag .csvStats)
  | "--csvtotals" => some (.flag .csvTotals)
  | "--mustfail" => some (.flag .mustFail)
  | "--tests" => some (.flag .tests)
  | "--no-tests" => some (.flag .noTests)
  | "--verbose" => some (.flag .verbose)
  | "--quiet" => some (.flag .quiet)
  | "--version" => some (.flag .version)
  | "--help" => some (.flag .help)
  | _ => none

def short? : Char → Option Opt
  | 'c' => some (.valued .config)
  | 'v' => some (.flag .verbose)
  | 'q' => some (.flag .quiet)
  | _ => none

/-- What was given, in the order in which it was given. -/
structure Given where
  flags : List Flag := []
  values : List (Valued × String) := []
  targets : List String := []
  deriving DecidableEq, Repr

namespace Given

def has (g : Given) (f : Flag) : Bool :=
  g.flags.contains f

/-- The last value given to an option. -/
def value? (g : Given) (v : Valued) : Option String :=
  (g.values.reverse.find? (·.1 = v)).map (·.2)

/-- Whether tests were asked for or ruled out, by the last option that says so. -/
def tests? (g : Given) : Option Bool :=
  (g.flags.reverse.find? fun f => f = .tests ∨ f = .noTests).map (· = .tests)

def addFlag (g : Given) (f : Flag) : Given :=
  { g with flags := g.flags ++ [f] }

def addValue (g : Given) (v : Valued) (text : String) : Given :=
  { g with values := g.values ++ [(v, text)] }

def addTargets (g : Given) (ts : List String) : Given :=
  { g with targets := g.targets ++ ts }

end Given

/-- What an argument that begins with a dash does. -/
inductive Reading
  | refused
  | taken (g : Given)
  /-- The next argument is the value of an option. -/
  | waiting (g : Given) (v : Valued)

/-- Short options run together; what follows one that takes a value is its value. -/
def cluster (g : Given) : List Char → Reading
  | [] => .taken g
  | c :: cs =>
    match short? c with
    | none => .refused
    | some (.flag f) => cluster (g.addFlag f) cs
    | some (.valued v) =>
      if cs.isEmpty then .waiting g v else .taken (g.addValue v (String.ofList cs))

/-- A single argument that begins with a dash and is longer than that. -/
def option (g : Given) (cs : List Char) : Reading :=
  let name := cs.takeWhile (· != '=')
  let attached := cs.drop name.length
  match long? (String.ofList name), attached with
  | some (.flag f), [] => .taken (g.addFlag f)
  | some (.flag _), _ :: _ => .refused
  | some (.valued v), [] => .waiting g v
  | some (.valued v), _ :: text => .taken (g.addValue v (String.ofList text))
  | none, _ => if "--".toList.isPrefixOf cs then .refused else cluster g (cs.drop 1)

/-- Read all arguments; `none` if they are not understood. -/
def parse (g : Given) : List String → Option Given
  | [] => some g
  | arg :: rest =>
    if arg = "--" then some (g.addTargets rest)
    else if arg.startsWith "-" && arg != "-" then
      match option g arg.toList with
      | .refused => none
      | .taken g => parse g rest
      | .waiting g v =>
        match rest with
        | [] => none
        | text :: rest => parse (g.addValue v text) rest
    else parse (g.addTargets [arg]) rest

/-- The whole number given to an option, if it was given; `none` if it is no whole number. -/
def Given.whole? (g : Given) (v : Valued) : Option (Option Int) :=
  match g.value? v with
  | none => some none
  | some text => (number? text).map some

end GoMetrics.CommandLine
