import Mathlib.Algebra.BigOperators.Group.List.Basic
import Mathlib.Algebra.Ring.Nat
import Mathlib.Data.List.Flatten
import GoMetrics.Metrics.Cyclomatic
import GoMetrics.Proofs.Walk

/-!
Positions in the syntax model. A position is the way down to a node: which child to take at each
step. Keeping a list of pending nodes comes past every position inside a node once, in the order in
which one reads, and so gives what recursion into the children gives. A count on a walk is therefore
that of the node itself together with those of its children, and decisions are counted alike
wherever they stand.
-/

namespace GoMetrics.Node

variable {ι : Type}

/-- What holds of the children of a node and passes to the node holds of every node. -/
theorem children_induction {P : Node ι → Prop} (step : ∀ n, (∀ c ∈ n.children, P c) → P n)
    (n : Node ι) : P n :=
  n.places_induction fun n ih => step n fun c h => ih c (List.mem_of_mem_filter h)

/-! The recursive form -/

theorem preorder_eq (n : Node ι) : n.preorder = n :: n.children.flatMap preorder := by
  rw [preorder, List.flatMap_subtype (g := preorder) (fun _ _ => rfl), List.unattach_attach]

theorem walk_eq_preorder (n : Node ι) : n.walk = n.preorder := by
  induction n using children_induction with
  | step n ih => rw [walk_eq, preorder_eq, List.flatMap_congr ih]

/-! Positions -/

/-- The node at a position, if there is one. -/
def at? (n : Node ι) : List Nat → Option (Node ι)
  | [] => some n
  | i :: p => n.children[i]?.bind fun c => c.at? p

/-- The positions inside a node: its own, and those inside each of its children. -/
def positions (n : Node ι) : List (List Nat) :=
  [] :: n.children.zipIdx.attach.flatMap fun c => (positions c.1.1).map (c.1.2 :: ·)
termination_by sizeOf n
decreasing_by exact sizeOf_lt_of_mem_children (List.fst_mem_of_mem_zipIdx c.2)

theorem positions_eq (n : Node ι) :
    n.positions = [] :: n.children.zipIdx.flatMap fun c => c.1.positions.map (c.2 :: ·) := by
  rw [positions, List.flatMap_subtype (g := fun c : Node ι × Nat => c.1.positions.map (c.2 :: ·))
    (fun _ _ => rfl), List.unattach_attach]

theorem mem_positions_iff {n : Node ι} {p : List Nat} : p ∈ n.positions ↔ (n.at? p).isSome := by
  induction p generalizing n with
  | nil =>
      rw [positions_eq]
      exact iff_of_true List.mem_cons_self rfl
  | cons i p ih =>
      calc i :: p ∈ n.positions
        _ ↔ ∃ c, n.children[i]? = some c ∧ p ∈ c.positions := by
            rw [positions_eq]
            simp [List.mem_zipIdx_iff_getElem?]
        _ ↔ (n.at? (i :: p)).isSome := by
            cases h : n.children[i]? <;> simp [at?, h, ih]

/-- A position comes before those inside it, and those inside one child before those inside the
next. -/
theorem pairwise_positions (n : Node ι) : n.positions.Pairwise (· < ·) := by
  induction n using children_induction with
  | step n ih =>
      rw [positions_eq, List.pairwise_cons, List.pairwise_flatMap]
      refine ⟨fun p hp => ?_, fun c hc => ?_, ?_⟩
      · obtain ⟨c, -, hp⟩ := List.mem_flatMap.1 hp
        obtain ⟨q, -, rfl⟩ := List.mem_map.1 hp
        exact List.nil_lt_cons c.2 q
      · refine List.pairwise_map.2 ((ih _ (List.fst_mem_of_mem_zipIdx hc)).imp fun h => ?_)
        exact List.cons_lt_cons_iff.2 (.inr ⟨rfl, h⟩)
      · have hidx : n.children.zipIdx.Pairwise fun c d => c.2 < d.2 := by
          rw [← List.pairwise_map, List.zipIdx_map_snd]
          exact List.pairwise_lt_range'
        refine hidx.imp fun hlt p hp q hq => ?_
        obtain ⟨p, -, rfl⟩ := List.mem_map.1 hp
        obtain ⟨q, -, rfl⟩ := List.mem_map.1 hq
        exact List.cons_lt_cons_iff.2 (.inl hlt)

/-- A walk comes past the positions in their order. -/
theorem map_at?_positions (n : Node ι) : n.positions.map n.at? = n.walk.map some := by
  induction n using children_induction with
  | step n ih =>
      have hchild (c) (hc : c ∈ n.children.zipIdx) :
          (c.1.positions.map (c.2 :: ·)).map n.at? = c.1.walk.map some := by
        rw [← ih _ (List.fst_mem_of_mem_zipIdx hc), List.map_map]
        refine List.map_congr_left fun p _ => ?_
        rw [Function.comp_apply, at?, List.mem_zipIdx_iff_getElem?.1 hc, Option.bind_some]
      rw [positions_eq, walk_eq, List.map_cons, List.map_cons, List.map_flatMap,
        List.flatMap_congr hchild, ← List.map_flatMap]
      conv_rhs => rw [← List.zipIdx_map_fst 0 n.children, List.flatMap_map]
      rfl

/-! Decisions -/

/-- A place at which a function goes on in more than one way. -/
inductive IsDecision : Node ι → Prop
  | ifStmt (cond body : Node ι) (init orElse : Option (Node ι)) :
      IsDecision (.ifStmt cond body init orElse)
  | forStmt (body : Node ι) (init cond post : Option (Node ι)) :
      IsDecision (.forStmt body init cond post)
  | range (x body : Node ι) (key value : Option (Node ι)) (tok : String)
      (surplus : List (Node ι)) : IsDecision (.range x body key value tok surplus)
  | caseClause (exprs : Option (List (Node ι))) (body : List (Node ι)) (colon : Bool) :
      IsDecision (.caseClause exprs body colon)
  | commClause (comm : Option (Node ι)) (body : List (Node ι)) (colon : Bool) :
      IsDecision (.commClause comm body colon)
  | shortCircuit (x y : Node ι) (op : String) (h : op = "&&" ∨ op = "||") :
      IsDecision (.binary x op y)

theorem decides_iff {n : Node ι} : n.decides = true ↔ n.IsDecision := by
  cases n with
  | ifStmt => exact iff_of_true rfl (.ifStmt ..)
  | forStmt => exact iff_of_true rfl (.forStmt ..)
  | range => exact iff_of_true rfl (.range ..)
  | caseClause => exact iff_of_true rfl (.caseClause ..)
  | commClause => exact iff_of_true rfl (.commClause ..)
  | binary x op y =>
      rw [decides, Operator.isLogical, Bool.or_eq_true, beq_iff_eq, beq_iff_eq]
      exact ⟨.shortCircuit x y op, fun | .shortCircuit _ _ _ h => h⟩
  | _ => exact iff_of_false Bool.false_ne_true nofun

instance : DecidablePred (IsDecision (ι := ι)) := fun _ =>
  decidable_of_iff _ decides_iff

/-- Decisions are counted position by position. -/
theorem countP_positions (n : Node ι) :
    (n.positions.countP fun p => (n.at? p).any decides) = n.walk.countP decides :=
  calc n.positions.countP ((Option.any decides) ∘ n.at?)
    _ = (n.positions.map n.at?).countP (Option.any decides) := List.countP_map.symm
    _ = n.walk.countP decides := by
        rw [map_at?_positions, List.countP_map]
        rfl

theorem countP_decides_walk (n : Node ι) : n.walk.countP decides =
    (if n.IsDecision then 1 else 0) + (n.children.map fun c => c.walk.countP decides).sum := by
  rw [walk_eq, List.countP_cons, List.countP_flatMap, Nat.add_comm]
  simp only [← decides_iff]
  rfl

/-! All of it -/

/-- What a walk through a node comes past. -/
structure Walked (n : Node ι) : Prop where
  recursive : n.walk = n :: n.children.flatMap walk
  preorder : n.walk = n.preorder
  /-- A node that is pending is done with before those that wait behind it. -/
  pending : ∀ ns, walkFrom (n :: ns) = n.walk ++ walkFrom ns
  /-- Every position inside the node is there once, in its order. -/
  positions : n.positions.Pairwise (· < ·)
  mem_positions : ∀ p, p ∈ n.positions ↔ (n.at? p).isSome
  visited : n.positions.map n.at? = n.walk.map some

/-- How the decisions inside a node make up its complexity. -/
structure AddsDecisions (n : Node ι) : Prop where
  pos : 1 ≤ n.cyclomatic
  children : n.cyclomatic - 1 =
    (if n.IsDecision then 1 else 0) + (n.children.map fun c => c.cyclomatic - 1).sum
  /-- It makes no difference how deep a decision lies. -/
  positions : n.cyclomatic - 1 = n.positions.countP fun p => (n.at? p).any decides
  /-- It makes no difference in which order the children stand. -/
  siblings : ∀ m : Node ι, (m.IsDecision ↔ n.IsDecision) →
    (m.children.map cyclomatic).Perm (n.children.map cyclomatic) → m.cyclomatic = n.cyclomatic

theorem walk_goes_down (n : Node ι) : n.Walked ∧ n.AddsDecisions := by
  refine ⟨⟨n.walk_eq, n.walk_eq_preorder, fun ns => ?_, n.pairwise_positions,
    fun p => mem_positions_iff, n.map_at?_positions⟩, Nat.le_add_left 1 _, n.countP_decides_walk,
    n.countP_positions.symm, fun m hown hperm => ?_⟩
  · exact walkFrom_append [n] ns
  · have hsum := (hperm.map (· - 1)).sum_eq
    rw [List.map_map, List.map_map] at hsum
    rw [cyclomatic, cyclomatic, countP_decides_walk, countP_decides_walk]
    simp only [hown]
    exact congrArg (_ + · + 1) hsum

/-- `for { if a && b { } }` -/
def guardedLoop : Node Unit :=
  .forStmt (.block [.ifStmt (.binary (.ident "a" ()) "&&" (.ident "b" ())) (.block [] true true)
    none none] true true) none none none

example : guardedLoop.positions =
    [[], [0], [0, 0], [0, 0, 0], [0, 0, 0, 0], [0, 0, 0, 1], [0, 0, 1]] := by
  cbv

example : guardedLoop.cyclomatic = 4 := by
  cbv

end GoMetrics.Node
