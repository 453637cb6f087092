import GoMetrics.Syntax.Draft.Stmt

/-!
The one recursion behind drafts: the constructs at a node, given the readings of all smaller trees.
-/

namespace GoMetrics.Draft

/-- The readings of a tree. -/
def reading (s : Source) (t : Tree) : Reading :=
  let r : Readers t := fun c => reading s c.1
  ⟨fun ls => expr s ls r, fun ls => stmt s ls r, fun ls => stmts s ls r⟩
termination_by t.size
decreasing_by exact c.2

/-- The readers of the trees smaller than `t`. -/
def readers (s : Source) (t : Tree) : Readers t :=
  fun c => reading s c.1

theorem reading_eq (s : Source) (t : Tree) :
    reading s t = ⟨fun ls => expr s ls (readers s t), fun ls => stmt s ls (readers s t),
      fun ls => stmts s ls (readers s t)⟩ := by
  rw [reading]
  rfl

@[simp] theorem readers_under (s : Source) (t : Tree) (c : Tree.Below t) :
    (readers s t).under c = readers s c.1 :=
  rfl

@[simp] theorem readers_expr (s : Source) (t : Tree) (ls : List String) (c : Tree.Below t) :
    (readers s t).expr ls c = expr s ls (readers s c.1) := by
  rw [Readers.expr, readers, reading_eq]

@[simp] theorem readers_stmt (s : Source) (t : Tree) (ls : List String) (c : Tree.Below t) :
    (readers s t).stmt ls c = stmt s ls (readers s c.1) := by
  rw [Readers.stmt, readers, reading_eq]

@[simp] theorem readers_stmts (s : Source) (t : Tree) (ls : List String) (c : Tree.Below t) :
    (readers s t).stmts ls c = stmts s ls (readers s c.1) := by
  rw [Readers.stmts, readers, reading_eq]

end GoMetrics.Draft
