import GoMetrics.Source
import GoMetrics.Tree.Kind

/-!
Parse trees of Go files, as a parser hands them over: every token is a node, offsets are in bytes,
and a node that was invented to recover from an error is marked as missing. `Below` is how the
readers of a tree descend: a subtree together with the fact that it is smaller.
-/

namespace GoMetrics

structure Head where
  kind : Kind
  start : Nat
  stop : Nat
  named : Bool
  missing : Bool
  /-- Whether an error lies somewhere at or below the node. -/
  faulty : Bool
  slot : Option Slot
  deriving DecidableEq, Repr

inductive Tree
  | node (head : Head) (children : List Tree)
  deriving Repr

namespace Tree

def head : Tree → Head
  | .node h _ => h

def children : Tree → List Tree
  | .node _ cs => cs

def kind (t : Tree) : Kind := t.head.kind
def start (t : Tree) : Nat := t.head.start
def stop (t : Tree) : Nat := t.head.stop
def isNamed (t : Tree) : Bool := t.head.named
def isMissing (t : Tree) : Bool := t.head.missing
def isFaulty (t : Tree) : Bool := t.head.faulty
def slot (t : Tree) : Option Slot := t.head.slot

/-- The tree of a file that holds nothing. -/
def empty : Tree :=
  .node ⟨.other "source_file", 0, 0, true, false, false, none⟩ []

instance : Inhabited Tree := ⟨empty⟩

mutual
def size : Tree → Nat
  | .node _ cs => sizeAll cs + 1
def sizeAll : List Tree → Nat
  | [] => 0
  | t :: ts => t.size + sizeAll ts
end

theorem size_le_sizeAll_of_mem {c : Tree} {ts : List Tree} (h : c ∈ ts) :
    c.size ≤ sizeAll ts := by
  induction ts with
  | nil => cases h
  | cons t ts ih =>
      rw [sizeAll]
      rcases List.mem_cons.1 h with rfl | h
      · omega
      · have := ih h
        omega

theorem size_lt_of_mem {c t : Tree} (h : c ∈ t.children) : c.size < t.size := by
  cases t with
  | node head cs =>
      have := size_le_sizeAll_of_mem (show c ∈ cs from h)
      rw [size]
      omega

theorem sizeAll_append (ts us : List Tree) : sizeAll (ts ++ us) = sizeAll ts + sizeAll us := by
  induction ts with
  | nil => rw [List.nil_append, sizeAll, Nat.zero_add]
  | cons t ts ih => rw [List.cons_append, sizeAll, sizeAll, ih, Nat.add_assoc]

theorem sizeAll_children_lt (t : Tree) : sizeAll t.children < t.size := by
  cases t with
  | node head cs =>
      rw [size]
      exact Nat.lt_succ_self _

/-- A tree smaller than `t`. -/
abbrev Below (t : Tree) := { c : Tree // c.size < t.size }

/-- What is smaller than a smaller tree is smaller. -/
def Below.trans {t : Tree} (c : Below t) (d : Below c.1) : Below t :=
  ⟨d.1, Nat.lt_trans d.2 c.2⟩

/-- The children of `t`, each known to be smaller. -/
def kids (t : Tree) : List (Below t) :=
  t.children.attach.map fun c => ⟨c.1, size_lt_of_mem c.2⟩

theorem map_val_kids (t : Tree) : t.kids.map (·.val) = t.children := by
  simp [kids, Function.comp_def]

theorem mem_children_of_mem_kids {t : Tree} {c : Below t} (h : c ∈ t.kids) :
    c.1 ∈ t.children := by
  rw [← map_val_kids t]
  exact List.mem_map_of_mem h

/-- The children that carry meaning: named, and no comment. -/
def parts (t : Tree) : List (Below t) :=
  t.kids.filter fun c => c.1.isNamed && c.1.kind != .comment

theorem mem_children_of_mem_parts {t : Tree} {c : Below t} (h : c ∈ t.parts) :
    c.1 ∈ t.children :=
  mem_children_of_mem_kids (List.mem_filter.1 h).1

/-- The first child in a slot. -/
def at? (t : Tree) (s : Slot) : Option (Below t) :=
  t.kids.find? fun c => c.1.slot == some s

/-- All children in a slot, separators that carry the label included. -/
def allAt (t : Tree) (s : Slot) : List (Below t) :=
  t.kids.filter fun c => c.1.slot == some s

/-- The specs of a declaration, grouped or not. -/
def specs (t : Tree) : List (Below t) :=
  t.parts.flatMap fun c =>
    if c.1.kind.isSpecList then c.1.parts.map c.trans else [c]

/-- The node that holds the parentheses of a declaration: its list of specs, else itself. -/
def group (t : Tree) : Tree :=
  match t.parts.find? (·.1.kind.isSpecList) with
  | some c => c.1
  | none => t

/-- Whether a punctuation child is really in the source, not supplied by error recovery. -/
def hasToken (t : Tree) (text : String) : Bool :=
  t.children.any fun c => c.kind == .other text && !c.isNamed && !c.isMissing

mutual
/-- The node and all nodes below it, a parent before its children. -/
def preorder : Tree → List Tree
  | .node h cs => .node h cs :: preorderAll cs
def preorderAll : List Tree → List Tree
  | [] => []
  | t :: ts => t.preorder ++ preorderAll ts
end

/-- Whether a node is an error, or is not in the source. -/
def isFault (t : Tree) : Bool :=
  t.kind == .error || t.isMissing

/-- The first fault among pending trees. What lies inside a tree is looked at right after it. -/
@[semireducible]
def firstFault : List Tree → Option Tree
  | [] => none
  | t :: pending => if t.isFault then some t else firstFault (t.children ++ pending)
termination_by ts => sizeAll ts
decreasing_by
  have := sizeAll_children_lt t
  rw [sizeAll_append, sizeAll]
  omega

/-- The node that a syntax error is reported at: the first fault, else the root. -/
def faultSite (t : Tree) : Tree :=
  (firstFault [t]).getD t

end Tree

namespace Source

def textOf (s : Source) (t : Tree) : String :=
  s.text t.start t.stop

def lineOf (s : Source) (t : Tree) : Nat :=
  s.line t.start

mutual
/-- The labels that statements in a function body declare; `none` if one of these statements has
none. Function literals inside have labels of their own and are not entered. -/
def labels? (s : Source) : Tree → Option (List String)
  | .node h cs => do
    let own ← if h.kind.isLabeled then (cs.find? (·.slot == some .label)).map fun c => [s.textOf c]
      else some []
    return own ++ (← labelsAll? s cs)
def labelsAll? (s : Source) : List Tree → Option (List String)
  | [] => some []
  | t :: ts => do
    let first ← if t.isNamed && t.kind != .expr .funcLiteral then s.labels? t else some []
    return first ++ (← labelsAll? s ts)
end

end Source
end GoMetrics
