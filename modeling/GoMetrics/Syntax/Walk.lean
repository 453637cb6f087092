import GoMetrics.Syntax.Node

/-!
Walking the syntax model. `walk` keeps a list of pending nodes; `preorder` recurses into the
children. Both end because the children of a node are together smaller than the node.
-/

namespace GoMetrics.Node

variable {ι : Type}

/-- The size of several nodes together. -/
noncomputable def weight : List (Node ι) → Nat
  | [] => 0
  | n :: ns => sizeOf n + weight ns

theorem weight_append (ms ns : List (Node ι)) : weight (ms ++ ns) = weight ms + weight ns := by
  induction ms with
  | nil => simp [weight]
  | cons m ms ih =>
      rw [List.cons_append, weight, weight, ih]
      omega

theorem sizeOf_eq_weight (ns : List (Node ι)) : sizeOf ns = 1 + weight ns + ns.length := by
  induction ns with
  | nil => simp [weight]
  | cons n ns ih =>
      rw [weight, List.cons.sizeOf_spec, ih, List.length_cons]
      omega

theorem sizeOf_eq_weight_toList (o : Option (Node ι)) : sizeOf o = 1 + weight o.toList := by
  cases o <;> simp [weight]

theorem weight_getD_lt (o : Option (List (Node ι))) : weight (o.getD []) < sizeOf o := by
  cases o with
  | none => simp [weight]
  | some ns =>
      rw [Option.getD_some, Option.some.sizeOf_spec, sizeOf_eq_weight]
      omega

section

-- The equations of `places` are many, and most of what follows rests on them: derived here, they
-- are at hand for every later proof.
attribute [local simp] places weight weight_append sizeOf_eq_weight sizeOf_eq_weight_toList

theorem weight_places_lt (n : Node ι) : weight n.places < sizeOf n := by
  cases n <;> simp
  case caseClause exprs body colon =>
    have := weight_getD_lt exprs
    omega
  case funcDecl name info tps type pos stop body recv =>
    have := weight_getD_lt recv
    omega
  all_goals omega

end

theorem weight_filter_le (p : Node ι → Bool) (ns : List (Node ι)) :
    weight (ns.filter p) ≤ weight ns := by
  induction ns with
  | nil => simp
  | cons n ns ih =>
      rw [List.filter_cons, weight]
      split
      · rw [weight]
        omega
      · omega

theorem weight_children_lt (n : Node ι) : weight n.children < sizeOf n :=
  Nat.lt_of_le_of_lt (weight_filter_le _ _) (weight_places_lt n)

theorem sizeOf_le_weight_of_mem {c : Node ι} {ns : List (Node ι)} (h : c ∈ ns) :
    sizeOf c ≤ weight ns := by
  induction ns with
  | nil => cases h
  | cons n ns ih =>
      rw [weight]
      rcases List.mem_cons.1 h with rfl | h
      · omega
      · have := ih h
        omega

theorem sizeOf_lt_of_mem_children {c n : Node ι} (h : c ∈ n.children) : sizeOf c < sizeOf n :=
  Nat.lt_of_le_of_lt (sizeOf_le_weight_of_mem h) (weight_children_lt n)

/-- Visit the pending nodes in order, the children of a node right after it. -/
def walkFrom : List (Node ι) → List (Node ι)
  | [] => []
  | n :: pending => n :: walkFrom (n.children ++ pending)
termination_by ns => weight ns
decreasing_by
  have := weight_children_lt n
  rw [weight_append, weight]
  omega

/-- The node and all constructs inside it. -/
def walk (n : Node ι) : List (Node ι) :=
  walkFrom [n]

/-- The node, followed by what lies inside each of its children. -/
def preorder (n : Node ι) : List (Node ι) :=
  n :: n.children.attach.flatMap fun c => preorder c.1
termination_by sizeOf n
decreasing_by exact sizeOf_lt_of_mem_children c.2

end GoMetrics.Node
