import GoMetrics.Tree.Basic

/-!
The node that a syntax error is reported at. The search keeps a list of trees that are still to be
looked at and stops at the first fault. It comes past the nodes of a tree in preorder, so what it
finds is the first fault in that order, at whatever depth, and nothing only if the tree is clear.
-/

namespace GoMetrics.Tree

variable {root t : Tree}

/-! Preorder -/

theorem preorder_eq (t : Tree) : t.preorder = t :: t.children.flatMap preorder := by
  have hall : ∀ ts : List Tree, preorderAll ts = ts.flatMap preorder := by
    intro ts
    induction ts with
    | nil => rfl
    | cons t ts ih => rw [preorderAll, ih, List.flatMap_cons]
  cases t with
  | node head cs =>
      rw [preorder, hall]
      rfl

theorem self_mem_preorder (t : Tree) : t ∈ t.preorder := by
  rw [preorder_eq]
  exact List.mem_cons_self

/-- What is inside a tree stays inside on the way down. -/
theorem mem_preorder_of_mem_children {root t c : Tree} (ht : t ∈ root.preorder)
    (hc : c ∈ t.children) : c ∈ root.preorder := by
  rw [preorder_eq] at ht ⊢
  obtain rfl | ht := List.mem_cons.1 ht
  · exact List.mem_cons_of_mem _ (List.mem_flatMap.2 ⟨c, hc, self_mem_preorder c⟩)
  · obtain ⟨d, hd, ht⟩ := List.mem_flatMap.1 ht
    have := size_lt_of_mem hd
    exact List.mem_cons_of_mem _ (List.mem_flatMap.2 ⟨d, hd, mem_preorder_of_mem_children ht hc⟩)
termination_by root.size

/-! The search -/

theorem isFault_iff : t.isFault = true ↔ t.kind = .error ∨ t.isMissing = true := by
  rw [isFault, Bool.or_eq_true, beq_iff_eq]

theorem not_isFault_iff :
    (!t.isFault) = true ↔ ¬ (t.kind = .error ∨ t.isMissing = true) := by
  rw [Bool.not_eq_true', ← Bool.not_eq_true, isFault_iff]

/-- Stopping at the first fault among pending trees finds the first of all nodes inside them. -/
theorem firstFault_eq (ts : List Tree) :
    firstFault ts = (ts.flatMap preorder).find? isFault := by
  fun_induction firstFault ts with
  | case1 => rfl
  | case2 t pending h =>
      rw [List.flatMap_cons, preorder_eq, List.cons_append, List.find?_cons_of_pos h]
  | case3 t pending h ih =>
      rw [ih, List.flatMap_append, List.flatMap_cons, preorder_eq t, List.cons_append,
        List.find?_cons_of_neg h]

theorem faultSite_eq (t : Tree) : t.faultSite = (t.preorder.find? isFault).getD t := by
  rw [faultSite, firstFault_eq, List.flatMap_singleton]

/-- Where a syntax error in a tree belongs, said without a search: to the node of type error or
missing that all others inside come after, and to the root if there is none. -/
inductive ReportedAt (root : Tree) : Tree → Prop
  | fault {before after : List Tree} {site : Tree} (order : root.preorder = before ++ site :: after)
      (own : site.kind = .error ∨ site.isMissing = true)
      (clear : ∀ n ∈ before, ¬ (n.kind = .error ∨ n.isMissing = true)) : ReportedAt root site
  | clear (clear : ∀ n ∈ root.preorder, ¬ (n.kind = .error ∨ n.isMissing = true)) :
      ReportedAt root root

theorem reportedAt_iff {site : Tree} : root.ReportedAt site ↔ root.faultSite = site := by
  rw [faultSite_eq]
  constructor
  · intro h
    cases h with
    | @fault before after site order own clear =>
        have hfind : root.preorder.find? isFault = some site :=
          List.find?_eq_some_iff_append.2 ⟨isFault_iff.2 own, before, after, order,
            fun n hn => not_isFault_iff.2 (clear n hn)⟩
        rw [hfind, Option.getD_some]
    | clear clear =>
        have hfind : root.preorder.find? isFault = none :=
          List.find?_eq_none.2 fun n hn => mt isFault_iff.1 (clear n hn)
        rw [hfind, Option.getD_none]
  · rintro rfl
    cases hfind : root.preorder.find? isFault with
    | none =>
        exact .clear fun n hn => mt isFault_iff.2 (List.find?_eq_none.1 hfind n hn)
    | some site =>
        obtain ⟨own, before, after, order, clear⟩ := List.find?_eq_some_iff_append.1 hfind
        exact .fault order (isFault_iff.1 own) fun n hn => not_isFault_iff.1 (clear n hn)

theorem reportedAt_faultSite (root : Tree) : root.ReportedAt root.faultSite :=
  reportedAt_iff.2 rfl

end GoMetrics.Tree
