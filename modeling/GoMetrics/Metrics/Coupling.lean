import GoMetrics.Text.Split

/-!
Coupling by imports. An import is a self import when it lies under the same root as the package
that imports it.
-/

namespace GoMetrics.Coupling

def segments (path : String) : List String :=
  Text.split '/' path

/-- Both paths have at least `depth` segments and agree on all but the last of the first `depth`
of them. -/
def sharesRoot (a b : List String) (depth : Int) : Bool :=
  depth ≤ a.length && depth ≤ b.length && a.take (depth - 1).toNat == b.take (depth - 1).toNat

/-- The depth that turns the detection of self imports off. -/
def disabled : Int := -1

/-- How many of the imports are self imports. -/
def selfImports (path : String) (imports : List String) (depth : Int) : Nat :=
  if depth = disabled then 0
  else imports.countP fun i => sharesRoot (segments path) (segments i) depth

end GoMetrics.Coupling
