import GoMetrics.Metrics.Coupling
import GoMetrics.Settings.Value

/-!
Limits that measures are compared with. A limit ought to be a whole number, but a configuration
can put any value there: other numbers compare as numbers do, and anything else does not compare.
-/

namespace GoMetrics

/-- A value that does not fit where it is used. -/
inductive Mismatch
  | incomparable (operator type : String)
  | notWhole (type : String)
  | unexpectedKey (owner key : String)
  | repeatedKey (owner key : String)
  | repeatedArgument (key : String)
  | notText (type : String)
  | missingParts (owner : String) (names : List String)
  | surplusParts (owner : String) (least most given : Nat)
  | notIterable (type : String)
  | notSequence (index : Nat)
  | notPair (index length : Nat)
  | notKey (type : String)
  deriving DecidableEq, Repr

/-- Names in quotes, with commas between them and a word before the last. -/
def enumerated (names : List String) : String :=
  match names.map (fun name => "'" ++ name ++ "'") with
  | [a, b] => a ++ " and " ++ b
  | [a, b, c] => a ++ ", " ++ b ++ ", and " ++ c
  | quoted => String.intercalate ", " quoted

def Mismatch.message : Mismatch → String
  | .incomparable operator type =>
    "'" ++ operator ++ "' not supported between instances of 'int' and '" ++ type ++ "'"
  | .notWhole type => "'" ++ type ++ "' object cannot be interpreted as an integer"
  | .unexpectedKey owner key =>
    owner ++ ".__init__() got an unexpected keyword argument '" ++ key ++ "'"
  | .repeatedKey owner key =>
    owner ++ ".__init__() got multiple values for argument '" ++ key ++ "'"
  | .repeatedArgument key => "load_config() got multiple values for argument '" ++ key ++ "'"
  | .notText type => "__str__ returned non-string (type " ++ type ++ ")"
  | .missingParts owner names =>
    owner ++ ".__init__() missing " ++ toString names.length ++ " required positional argument" ++
      (if names.length = 1 then "" else "s") ++ ": " ++ enumerated names
  | .surplusParts owner least most given =>
    let range := if least = most then toString (most + 1)
      else "from " ++ toString (least + 1) ++ " to " ++ toString (most + 1)
    owner ++ ".__init__() takes " ++ range ++ " positional arguments but " ++
      toString (given + 1) ++ " were given"
  | .notIterable type => "'" ++ type ++ "' object is not iterable"
  | .notSequence index =>
    "cannot convert dictionary update sequence element #" ++ toString index ++ " to a sequence"
  | .notPair index length =>
    "dictionary update sequence element #" ++ toString index ++ " has length " ++
      toString length ++ "; 2 is required"
  | .notKey type => "unhashable type: '" ++ type ++ "'"

inductive Limit
  | whole (i : Int)
  | real (x : Float)
  | other (type : String)
  deriving Repr

namespace Limit

def ofValue : Value → Limit
  | .int i => .whole i
  | .bool b => .whole (if b then 1 else 0)
  | .float x => .real x
  | v => .other v.typeName

/-- How a whole number compares with a double; a double that is no number compares with nothing. -/
def compareReal (i : Int) (x : Float) : Option Ordering :=
  match Decimal.parts x with
  | .nan => none
  | .infinite negative => some (if negative then .gt else .lt)
  | .finite negative mantissa exponent =>
    let m : Int := if negative then -(mantissa : Int) else mantissa
    some (compare (i * Decimal.pow2 (-exponent).toNat) (m * Decimal.pow2 exponent.toNat))

/-- Whether a measure is above the limit. -/
def exceededBy (l : Limit) (i : Int) : Except Mismatch Bool :=
  match l with
  | .whole j => .ok (j < i)
  | .real x => .ok (compareReal i x == some .gt)
  | .other type => .error (.incomparable ">" type)

/-- Whether a measure is below the limit. -/
def undercutBy (l : Limit) (i : Int) : Except Mismatch Bool :=
  match l with
  | .whole j => .ok (i < j)
  | .real x => .ok (compareReal i x == some .lt)
  | .other type => .error (.incomparable "<" type)

/-- The number of self imports with the limit as the depth. -/
def selfImports (l : Limit) (path : String) (imports : List String) : Except Mismatch Nat :=
  match l with
  | .whole depth => .ok (Coupling.selfImports path imports depth)
  | .real x =>
    let reaches (p : String) : Bool :=
      compareReal (Coupling.segments p).length x != some .lt
    if compareReal Coupling.disabled x == some .eq then .ok 0
    else if imports.any fun i => reaches path && reaches i then .error (.notWhole "float")
    else .ok 0
  | .other type => if imports.isEmpty then .ok 0 else .error (.incomparable "<" type)

end Limit

/-- What a function must stay within to go unreported, and how deep a shared root is. -/
structure Thresholds where
  cyclomaticOver : Limit
  maintainabilityUnder : Limit
  selfImportDepth : Limit
  deriving Repr

namespace Thresholds

def ofInts (cyclomaticOver maintainabilityUnder selfImportDepth : Int) : Thresholds :=
  ⟨.whole cyclomaticOver, .whole maintainabilityUnder, .whole selfImportDepth⟩

/-- Whether a function crosses a threshold. The second one is looked at only if the first is
kept. -/
def isExceeded (t : Thresholds) (cyclomatic maintainability : Int) : Except Mismatch Bool := do
  if ← t.cyclomaticOver.exceededBy cyclomatic then return true
  t.maintainabilityUnder.undercutBy maintainability

end Thresholds
end GoMetrics
