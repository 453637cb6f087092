import GoMetrics.Decimal.Shortest
import GoMetrics.Text.Quoted

/-!
Values as configuration files hold them, of no fixed type.
-/

namespace GoMetrics

inductive Value
  | none
  | bool (b : Bool)
  | int (i : Int)
  | float (x : Float)
  | text (s : String)
  | list (items : List Value)
  | table (entries : List (String × Value))
  deriving Repr, Inhabited

/-- Named values in the order in which the names first came up. -/
abbrev Table := List (String × Value)

namespace Value

def typeName : Value → String
  | .none => "NoneType"
  | .bool _ => "bool"
  | .int _ => "int"
  | .float _ => "float"
  | .text _ => "str"
  | .list _ => "list"
  | .table _ => "dict"

/-- Everything counts as set, except what is empty, zero, false or absent. -/
def isSet : Value → Bool
  | .none => false
  | .bool b => b
  | .int i => i != 0
  | .float x => x != 0.0
  | .text s => !s.isEmpty
  | .list xs => !xs.isEmpty
  | .table es => !es.isEmpty

def isNone : Value → Bool
  | .none => true
  | _ => false

mutual
/-- A value as it stands inside another one: texts are quoted. -/
def literal : Value → String
  | .none => "None"
  | .bool b => if b then "True" else "False"
  | .int i => toString i
  | .float x => Decimal.render x
  | .text s => Text.quoted s
  | .list xs => "[" ++ String.intercalate ", " (literals xs) ++ "]"
  | .table es => "\x7b" ++ String.intercalate ", " (entryLiterals es) ++ "\x7d"
def literals : List Value → List String
  | [] => []
  | x :: xs => x.literal :: literals xs
def entryLiterals : List (String × Value) → List String
  | [] => []
  | (k, v) :: es => (Text.quoted k ++ ": " ++ v.literal) :: entryLiterals es
end

/-- A value as text: a text stands for itself. -/
def render : Value → String
  | .text s => s
  | v => v.literal

end Value

namespace Table

/-- Set a name; one that was there keeps its place. -/
def set (t : Table) (key : String) (v : Value) : Table :=
  match t with
  | [] => [(key, v)]
  | (k, u) :: rest => if k = key then (k, v) :: rest else (k, u) :: set rest key v

/-- Set all names of another table, in its order. -/
def update (t u : Table) : Table :=
  u.foldl (fun t (k, v) => t.set k v) t

def get? (t : Table) (key : String) : Option Value :=
  t.lookup key

end Table
end GoMetrics
