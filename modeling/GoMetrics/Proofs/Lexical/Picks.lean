import GoMetrics.Proofs.Lexical.Basic

/-!
Which parts of a node a reading selects, and how each is read, whatever the names in force. Some of
them are found again in the finished construct, others leave nothing to measure. All of them are
children of the node.
-/

namespace GoMetrics.Lexical

variable (s : Source)

/-- A part that is selected at a node, and how it is read. -/
structure Pick (t : Tree) where
  mode : Mode
  part : Tree.Below t

def Visit.pick {t : Tree} (c : Visit t) : Pick t :=
  ⟨c.mode, c.part⟩

/-- Which parts are selected does not depend on the names in force. -/
def nowhere : Context :=
  ⟨⟨[], [], false⟩, []⟩

/-- The parts that are found again in the finished construct. A loop selects its header as a
whole. -/
def kept (m : Mode) (t : Tree) : List (Pick t) :=
  match m.on t.kind, t.kind with
  | .stmt, .stmt .forStatement =>
    (header? t).toList.map (Pick.mk .header) ++ (t.at? .body).toList.map (Pick.mk .block)
  | _, _ => (visits s m t nowhere).map Visit.pick

/-- The parts that are selected but leave nothing to measure: operators, tags and type parameters,
and what a range loop has no room for. -/
def dropped (m : Mode) (t : Tree) : List (Pick t) :=
  match m.on t.kind, t.kind with
  | .expr, .expr .unaryExpression | .expr, .expr .binaryExpression
  | .stmt, .stmt .assignmentStatement =>
    (t.at? .operator).toList.map (Pick.mk (.text (.settled false)))
  | .spec, .part .typeSpec | .spec, .part .typeAlias | .func, _ =>
    (t.at? .typeParameters).toList.map (Pick.mk (.text (.settled false)))
  | .field, _ => (t.at? (.other "tag")).toList.map (Pick.mk (.text (.settled false)))
  | .loopTargets declares, _ =>
    (t.parts.drop 2).map (Pick.mk (if declares then .target else .expr))
  | _, _ => []

def picks (m : Mode) (t : Tree) : List (Pick t) :=
  kept s m t ++ dropped m t

/-- The nodes that a reading comes to, each with how it is read. -/
def passed (m : Mode) (t : Tree) : List (Mode × Tree) :=
  (m, t) :: (picks s m t).flatMap fun c => passed c.mode c.part.1
termination_by t.size
decreasing_by exact c.part.2

/-- Whether a node is read for its text alone. -/
def readsText (m : Mode) (k : Kind) : Bool :=
  match m.on k, k with
  | .text _, _ => true
  | .expr, .expr .labelName | .expr, .expr .blankIdentifier | .expr, .expr .intLiteral
  | .expr, .expr .floatLiteral | .expr, .expr .imaginaryLiteral | .expr, .expr .runeLiteral
  | .expr, .expr .interpretedStringLiteral | .expr, .expr .rawStringLiteral => true
  | _, _ => false

/-- Whether a node carries meaning: named, and no comment. -/
def isPart (t : Tree) : Bool :=
  t.isNamed && t.kind != .comment

variable {s} {t : Tree}

theorem passed_eq (m : Mode) (t : Tree) :
    passed s m t = (m, t) :: (picks s m t).flatMap fun c => passed s c.mode c.part.1 := by
  rw [passed]

theorem self_mem_passed (m : Mode) (t : Tree) : (m, t) ∈ passed s m t := by
  rw [passed_eq]
  exact List.mem_cons_self

/-- What the reading of a part comes to, the reading of the node comes to. -/
theorem mem_passed_of_mem_picks {m : Mode} {p : Pick t} {q : Mode × Tree} (hp : p ∈ picks s m t)
    (hq : q ∈ passed s p.mode p.part.1) : q ∈ passed s m t := by
  rw [passed_eq]
  exact List.mem_cons_of_mem _ (List.mem_flatMap.2 ⟨p, hp, hq⟩)

/-! Visits without the names in force -/

theorem map_pick_each (m : Mode) (cs : List (Tree.Below t)) (v : Context) :
    (each m cs v).map Visit.pick = cs.map (Pick.mk m) := by
  rw [each, List.map_map]
  rfl

theorem map_pick_one (m : Mode) (o : Option (Tree.Below t)) (v : Context) :
    (one m o v).map Visit.pick = o.toList.map (Pick.mk m) :=
  map_pick_each m o.toList v

theorem map_pick_inTurn (m : Mode) (cs : List (Tree.Below t)) (v : Context) :
    (inTurn s m cs v).map Visit.pick = cs.map (Pick.mk m) := by
  induction cs generalizing v with
  | nil => rfl
  | cons c cs ih => rw [inTurn, List.map_cons, List.map_cons, ih, Visit.pick]

/-- Which parts are read, and how, does not depend on the names in force. -/
theorem map_pick_visits (m : Mode) (t : Tree) (v : Context) :
    (visits s m t v).map Visit.pick = (visits s m t nowhere).map Visit.pick := by
  unfold visits exprVisits stmtVisits loopVisits specVisits clauseVisits funcVisits signature
  split <;> try split
  all_goals try split
  all_goals simp only [List.map_append, apply_ite (List.map Visit.pick), map_pick_each,
    map_pick_one, map_pick_inTurn]

/-! What is selected are children -/

/-- Selections of parts that are children of the node. -/
def Near (ps : List (Pick t)) : Prop :=
  ∀ p ∈ ps, p.part.1 ∈ t.children

theorem near_append {ps qs : List (Pick t)} : Near (ps ++ qs) ↔ Near ps ∧ Near qs :=
  List.forall_mem_append

theorem near_map {m : Mode} {cs : List (Tree.Below t)} :
    Near (cs.map (Pick.mk m)) ↔ ∀ c ∈ cs, c.1 ∈ t.children :=
  List.forall_mem_map

theorem near_at (m : Mode) (p : Slot) : Near ((t.at? p).toList.map (Pick.mk m)) :=
  near_map.2 fun _ hc =>
    Tree.mem_children_of_mem_kids (List.mem_of_find?_eq_some (Option.mem_toList.1 hc))

theorem near_all (m : Mode) (p : Slot) : Near ((t.allAt p).map (Pick.mk m)) :=
  near_map.2 fun _ hc => Tree.mem_children_of_mem_kids (List.mem_filter.1 hc).1

/-- Any selection among the parts will do. -/
theorem near_parts (m : Mode) {cs : List (Tree.Below t)} (h : ∀ c ∈ cs, c ∈ t.parts) :
    Near (cs.map (Pick.mk m)) :=
  near_map.2 fun c hc => Tree.mem_children_of_mem_parts (h c hc)

theorem near_option (m : Mode) {o : Option (Tree.Below t)} (h : ∀ c ∈ o, c ∈ t.parts) :
    Near (o.toList.map (Pick.mk m)) :=
  near_parts m fun c hc => h c (Option.mem_toList.1 hc)

theorem mem_parts_of_mem_labeled {c : Tree.Below t} (h : c ∈ labeled? t) : c ∈ t.parts := by
  rw [labeled?, Option.mem_def, Option.bind_eq_some_iff] at h
  obtain ⟨label, _, hc⟩ := h
  exact List.mem_of_find?_eq_some hc

theorem mem_parts_of_mem_header {c : Tree.Below t} (h : c ∈ header? t) : c ∈ t.parts := by
  rw [header?, Option.mem_def, Option.bind_eq_some_iff] at h
  obtain ⟨body, _, hc⟩ := h
  exact List.mem_of_find?_eq_some hc

theorem near_visits (m : Mode) (t : Tree) (v : Context)
    (h : ¬ (m.on t.kind = .stmt ∧ t.kind = .stmt .forStatement)) :
    Near ((visits s m t v).map Visit.pick) := by
  have hnil : Near (t := t) [] := nofun
  have hparts : ∀ m, Near (t.parts.map (Pick.mk m)) := fun m => near_parts m fun _ hc => hc
  have htake : ∀ m n, Near ((t.parts.take n).map (Pick.mk m)) := fun m n =>
    near_parts m fun _ hc => List.mem_of_mem_take hc
  have hhead : ∀ m, Near (t.parts.head?.toList.map (Pick.mk m)) := fun m =>
    near_option m fun _ hc => List.mem_of_mem_head? hc
  have hlast : ∀ m, Near (t.parts.getLast?.toList.map (Pick.mk m)) := fun m =>
    near_option m fun _ hc => List.mem_of_mem_getLast? hc
  have hfind : ∀ m q, Near ((t.parts.find? q).toList.map (Pick.mk m)) := fun m q =>
    near_option m fun _ hc => List.mem_of_find?_eq_some hc
  have hlabel : ∀ m, Near ((labeled? t).toList.map (Pick.mk m)) := fun m =>
    near_option m fun _ hc => mem_parts_of_mem_labeled hc
  have hclauses : ∀ m k, Near ((clauses k t).map (Pick.mk m)) := fun m k =>
    near_parts m fun _ hc => (List.mem_filter.1 hc).1
  have hbody : ∀ m, Near ((Draft.afterColon t).2.map (Pick.mk m)) := fun m =>
    near_parts m fun _ hc => Draft.mem_parts_of_mem_afterColon hc
  have hrecv : ∀ (m : Mode) (p : Prop) [Decidable p],
      Near ((if p then t.at? .receiver else none).toList.map (Pick.mk m)) := by
    intro m p _
    split
    · exact near_at m .receiver
    · exact hnil
  unfold visits exprVisits stmtVisits specVisits clauseVisits funcVisits signature
  split <;> try split
  all_goals try split
  -- Only the loop, which reads through its header, has visits that are no children.
  all_goals first
    | exact absurd ⟨‹_›, ‹_›⟩ h
    | simp only [List.map_append, List.map_nil, map_pick_each, map_pick_one, map_pick_inTurn,
        near_append, near_at, near_all, hnil, hparts, htake, hhead, hlast, hfind, hlabel, hclauses,
        hbody, hrecv, and_self]

theorem near_kept (m : Mode) (t : Tree) : Near (kept s m t) := by
  unfold kept
  split
  · exact near_append.2 ⟨near_option _ fun _ hc => mem_parts_of_mem_header hc, near_at _ _⟩
  · rename_i h
    exact near_visits m t nowhere fun hk => h hk.1 hk.2

theorem near_dropped (m : Mode) (t : Tree) : Near (dropped m t) := by
  unfold dropped
  split
  all_goals first
    | exact near_at _ _
    | exact near_parts _ fun _ hc => List.mem_of_mem_drop hc
    | nofun

end GoMetrics.Lexical
