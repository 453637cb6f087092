import GoMetrics.Text.Split

/-!
File paths as they are written: a root, which is empty for a relative path, and components.
Writing a path out drops empty components and single dots; parent references stay.
-/

namespace GoMetrics

structure Path where
  /-- Empty, one slash, or two. -/
  root : String
  parts : List String
  deriving DecidableEq, Repr

namespace Path

/-- Exactly two leading slashes are kept as they are; any other number is one. -/
def rootOf (cs : List Char) : String :=
  match (cs.takeWhile (· == '/')).length with
  | 0 => ""
  | 2 => "//"
  | _ => "/"

def ofString (s : String) : Path :=
  ⟨rootOf s.toList, (Text.split '/' s).filter fun c => !c.isEmpty && c != "."⟩

def isAbsolute (p : Path) : Bool :=
  !p.root.isEmpty

def render (p : Path) : String :=
  if p.root.isEmpty && p.parts.isEmpty then "."
  else p.root ++ String.intercalate "/" p.parts

def hasNul (p : Path) : Bool :=
  p.parts.any fun c => c.toList.contains '\x00'

/-- A path as it is written has fewer bytes than this. -/
def byteLimit : Nat := 4096

def isTooLong (p : Path) : Bool :=
  byteLimit ≤ p.render.utf8ByteSize

/-- The last component, empty if there is none. -/
def name (p : Path) : String :=
  p.parts.getLastD ""

/-- A path continued by further components. -/
def append (p : Path) (more : List String) : Path :=
  { p with parts := p.parts ++ more }

def child (p : Path) (name : String) : Path :=
  p.append [name]

def parent (p : Path) : Path :=
  { p with parts := p.parts.dropLast }

/-- All paths strictly above, the nearest first. -/
def parents (p : Path) : List Path :=
  (List.range p.parts.length).reverse.map fun n => { p with parts := p.parts.take n }

/-- The name from its last dot on. A dot that begins or ends the name does not count. -/
def suffixOf (name : String) : String :=
  let tail := (name.toList.reverse.takeWhile (· != '.')).reverse
  let rest := name.length - tail.length
  if rest ≤ 1 || tail.isEmpty then "" else String.ofList ('.' :: tail)

def suffix (p : Path) : String :=
  suffixOf p.name

/-- Lists of components compare component by component, a shorter one first. -/
def componentsLe : List String → List String → Bool
  | [], _ => true
  | _ :: _, [] => false
  | a :: as, b :: bs => if a = b then componentsLe as bs else a < b

/-- The components with the root in front. -/
def components (p : Path) : List String :=
  if p.root.isEmpty then p.parts else p.root :: p.parts

def le (p q : Path) : Bool :=
  componentsLe p.components q.components

def sort (ps : List Path) : List Path :=
  ps.mergeSort le

/-- Components without parent references: each takes away the component before it. -/
def collapse (parts : List String) : List String :=
  parts.foldl (fun seen c => if c = ".." then seen.dropLast else seen ++ [c]) []

end Path
end GoMetrics
