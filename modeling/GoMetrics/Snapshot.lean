import GoMetrics.FileTree
import GoMetrics.Text.Digit
import GoMetrics.Text.Hex
import GoMetrics.Text.Utf8

/-!
Snapshots: texts that hold all that a run can see. There is one record a line, its fields divided
by single blanks, and free text in a field is written as the hexadecimal digits of its bytes.

A file is followed by what the parsers make of it, as nodes and values in preorder, each with the
number of its children. Read from the last line to the first, such a record finds its children
right at hand, so a snapshot is read in one pass and without looking ahead.
-/

namespace GoMetrics

structure Snapshot where
  fs : FileTree
  env : List (String × String) := []
  deriving Repr

namespace Snapshot

/-- Records that stand by themselves. -/
inductive Item
  | work (place : List String)
  | home (place : List String)
  | env (name text : String)
  | dir (place : List String)
  | file (place : List String) (doc : Document)
  deriving Repr

/-- What was read of the lines further down. -/
structure Rest where
  items : List Item := []
  /-- Trees and values that no parent or file has taken yet. -/
  trees : List Tree := []
  values : Table := []
  /-- That the configuration parser refused the file. -/
  refused : Option Parsed := none
  deriving Repr

def bytes? (field : String) : Option (List UInt8) :=
  Text.hexBytes? field.toList

def text? (field : String) : Option String :=
  (bytes? field).bind Utf8.decode?

def place? (field : String) : Option (List String) :=
  (text? field).map fun s => (Path.ofString s).parts

def whole? (field : String) : Option Int :=
  (Text.readInt field).toOption

def count? (field : String) : Option Nat :=
  (whole? field).map Int.toNat

/-- A value by the fields after its key, and the values that are left below it. -/
def value? (below : Table) : List String → Option (Value × Table)
  | ["none"] => some (.none, below)
  | ["true"] => some (.bool true, below)
  | ["false"] => some (.bool false, below)
  | ["int", digits] => do return (.int (← whole? digits), below)
  | ["float", bits] => do return (.float (Float.ofBits (← count? bits).toUInt64), below)
  | ["text", text] => do return (.text (← text? text), below)
  | ["list", count] => do
    let n ← count? count
    return (.list ((below.take n).map (·.2)), below.drop n)
  | ["table", count] => do
    let n ← count? count
    return (.table (below.take n), below.drop n)
  | _ => none

/-- The head of a node by its fields. A letter in the flags stands for what is the case. -/
def head? (kind start stop flags slot : String) : Option Head := do
  let has (c : Char) : Bool := flags.toList.contains c
  return ⟨Kind.ofName (← text? kind), ← count? start, ← count? stop, has 'n', has 'm', has 'f',
    Slot.ofName? slot⟩

/-- Put one more record in front of what was read. -/
def add? (rest : Rest) : List String → Option Rest
  | ["work", place] => do return { rest with items := .work (← place? place) :: rest.items }
  | ["home", place] => do return { rest with items := .home (← place? place) :: rest.items }
  | ["env", name, text] => do
    return { rest with items := .env (← text? name) (← text? text) :: rest.items }
  | ["dir", place] => do return { rest with items := .dir (← place? place) :: rest.items }
  | ["file", place, bytes] => do
    let settings := rest.refused.getD (.table rest.values)
    let doc : Document := ⟨← bytes? bytes, rest.trees.headD .empty, settings⟩
    return { items := .file (← place? place) doc :: rest.items }
  | ["node", kind, start, stop, flags, slot, count] => do
    let n ← count? count
    let tree := .node (← head? kind start stop flags slot) (rest.trees.take n)
    return { rest with trees := tree :: rest.trees.drop n }
  | ["refused", message] => do return { rest with refused := some (.error (← text? message)) }
  | ["undecodable"] => some { rest with refused := some .illFormedText }
  | "value" :: key :: fields => do
    let (v, left) ← value? rest.values fields
    return { rest with values := (← text? key, v) :: left }
  | [""] => some rest
  | _ => none

/-- The items of a snapshot in order; `none` if a line is no record. -/
def items? (text : String) : Option (List Item) :=
  let lines := (Text.split '\n' text).map (Text.split ' ')
  (lines.foldr (fun fields rest => rest.bind (add? · fields)) (some {})).map (·.items)

/-- Take an item into the snapshot. -/
def insert (s : Snapshot) : Item → Snapshot
  | .work place => { s with fs := { s.fs.addDir place with work := place } }
  | .home place => { s with fs := { s.fs.addDir place with home := place } }
  | .env name text => { s with env := s.env ++ [(name, text)] }
  | .dir place => { s with fs := s.fs.addDir place }
  | .file place doc => { s with fs := s.fs.addFile place doc }

def read? (text : String) : Option Snapshot :=
  (items? text).map fun items => items.foldl insert ⟨.bare [] [], []⟩

end Snapshot
end GoMetrics
