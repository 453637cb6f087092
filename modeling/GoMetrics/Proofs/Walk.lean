import GoMetrics.Syntax.Walk

/-!
The order of a walk. Keeping a list of pending nodes visits a node and then, one after another, all
that lies inside each of its children. What is gathered on a walk is therefore gathered place by
place: `gather` is the form in which the measures of the syntax model are computed.
-/

namespace GoMetrics.Node

variable {ι α : Type}

/-- The size of a node, whatever its identifiers carry. -/
noncomputable def bulk (n : Node ι) : Nat :=
  sizeOf n

theorem bulk_lt_of_mem_places {c n : Node ι} (h : c ∈ n.places) : c.bulk < n.bulk :=
  Nat.lt_of_le_of_lt (sizeOf_le_weight_of_mem h) (weight_places_lt n)

/-- What passes from the places of a node to the node holds of every node. -/
theorem places_induction {P : Node ι → Prop} (step : ∀ n, (∀ c ∈ n.places, P c) → P n)
    (n : Node ι) : P n :=
  step n fun c h =>
    have := bulk_lt_of_mem_places h
    places_induction step c
termination_by n.bulk

/-- What stands in a node, the surplus targets of a range included. -/
def inner : Node ι → List (Node ι)
  | .range x body key value _ surplus => x :: body :: (key.toList ++ value.toList ++ surplus)
  | n => n.places

theorem mem_inner_of_mem_places {c n : Node ι} (h : c ∈ n.places) : c ∈ n.inner := by
  cases n with
  | range x body key value tok surplus =>
      simp only [places, inner, List.mem_cons, List.mem_append] at h ⊢
      grind
  | _ => exact h

theorem bulk_lt_of_mem_inner {c n : Node ι} (h : c ∈ n.inner) : c.bulk < n.bulk := by
  cases n with
  | range x body key value tok surplus =>
      have := sizeOf_le_weight_of_mem h
      simp only [inner, weight, weight_append, bulk, range.sizeOf_spec, sizeOf_eq_weight,
        sizeOf_eq_weight_toList] at *
      omega
  | _ => exact bulk_lt_of_mem_places h

/-- What passes from all that stands in a node to the node holds of every node. -/
theorem inner_induction {P : Node ι → Prop} (step : ∀ n, (∀ c ∈ n.inner, P c) → P n)
    (n : Node ι) : P n :=
  step n fun c h =>
    have := bulk_lt_of_mem_inner h
    inner_induction step c
termination_by n.bulk

theorem walkFrom_append (ms ns : List (Node ι)) :
    walkFrom (ms ++ ns) = walkFrom ms ++ walkFrom ns := by
  fun_induction walkFrom ms with
  | case1 => rfl
  | case2 m ms ih =>
      rw [List.cons_append, walkFrom, ← List.append_assoc, ih, List.cons_append]

theorem walkFrom_eq_flatMap (ns : List (Node ι)) : walkFrom ns = ns.flatMap walk := by
  induction ns with
  | nil => rw [walkFrom, List.flatMap_nil]
  | cons n ns ih =>
      rw [← List.singleton_append, walkFrom_append, ih, List.flatMap_append,
        List.flatMap_singleton, walk]

/-- A walk is the node itself and then the walks of its children. -/
theorem walk_eq (n : Node ι) : n.walk = n :: n.children.flatMap walk := by
  rw [walk, walkFrom, List.append_nil, walkFrom_eq_flatMap]

/-- What `f` says of the constructs of a node, in the order of the walk. What is no construct has
nothing to say, nor has anything inside it. -/
def gather (f : Node ι → List α) (n : Node ι) : List α :=
  if n.isConstruct then n.walk.flatMap f else []

theorem flatMap_walk_children (f : Node ι → List α) (ns : List (Node ι)) :
    (ns.filter isConstruct).flatMap (fun n => n.walk.flatMap f) = ns.flatMap (gather f) := by
  induction ns with
  | nil => rfl
  | cons n ns ih =>
      cases h : n.isConstruct <;> simp [gather, h, ih]

theorem flatMap_walk (f : Node ι → List α) (n : Node ι) :
    n.walk.flatMap f = f n ++ n.places.flatMap (gather f) := by
  rw [walk_eq, List.flatMap_cons, List.flatMap_assoc, children, flatMap_walk_children]

theorem gather_eq (f : Node ι → List α) (n : Node ι) (h : n.isConstruct = true) :
    n.gather f = f n ++ n.places.flatMap (gather f) := by
  rw [gather, if_pos h, flatMap_walk]

end GoMetrics.Node
