/-!
Lexical scopes: a chain of sets of declared names, the innermost first. A chain is never empty.
The blank identifier can be declared but is not entered, so it is never found.
-/

namespace GoMetrics

def blank : String := "_"

structure Scope where
  /-- Names of the current scope. -/
  inner : List String
  /-- Names of the enclosing scopes, the nearest first. -/
  outer : List (List String)
  deriving DecidableEq, Repr

namespace Scope

def root : Scope := ⟨[], []⟩

def frames (s : Scope) : List (List String) :=
  s.inner :: s.outer

def isRoot (s : Scope) : Bool :=
  s.outer.isEmpty

def push (s : Scope) : Scope :=
  ⟨[], s.frames⟩

/-- Back to the enclosing scope; at the outermost scope nothing changes. -/
def pop (s : Scope) : Scope :=
  match s.outer with
  | [] => s
  | f :: fs => ⟨f, fs⟩

def declare (s : Scope) (name : String) : Scope :=
  if name = blank then s else { s with inner := s.inner.insert name }

def declareAll (s : Scope) (names : List String) : Scope :=
  names.foldl declare s

/-- Whether the current scope itself declares a name. -/
def contains (s : Scope) (name : String) : Bool :=
  s.inner.contains name

/-- Whether one of the `k` innermost scopes declares a name. -/
def lookupWithin (s : Scope) (k : Nat) (name : String) : Bool :=
  (s.frames.take k).any (·.contains name)

def lookup (s : Scope) (name : String) : Bool :=
  s.frames.any (·.contains name)

/-- Whether a scope strictly inside the outermost one declares a name. -/
def lookupLocal (s : Scope) (name : String) : Bool :=
  s.lookupWithin s.outer.length name

end Scope
end GoMetrics
