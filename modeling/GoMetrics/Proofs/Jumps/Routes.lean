import GoMetrics.Proofs.Draft.Stmts
import GoMetrics.Proofs.Jumps.Table

/-!
The nodes around a jump. `routes` lists the jumps of a tree with all nodes around them and how each
of these is read, so that the function of a jump can be told from its place. Outside functions only
declarations, types and expressions are read, and none of them is a jump.
-/

namespace GoMetrics.Lexical

open Draft

/-- A jump with a label, and the nodes around it, each with how it is read. The innermost node comes
first. -/
structure Route where
  label : Tree
  around : List (Mode × Tree)

/-- The innermost node that is read as a function. -/
def innermost? (around : List (Mode × Tree)) : Option Tree :=
  (around.find? fun p => opens p.1 p.2).map (·.2)

namespace Route

/-- The function of a jump. -/
def function? (r : Route) : Option Tree :=
  innermost? r.around

/-- The innermost node around a jump that is a function by its kind, however it is read. -/
def nearest? (r : Route) : Option Tree :=
  (r.around.find? fun p => p.2.kind == .functionDeclaration || p.2.kind == .methodDeclaration ||
    p.2.kind == .expr .funcLiteral).map (·.2)

def jump (r : Route) : Jump :=
  ⟨r.label, r.function?⟩

end Route

/-- The jumps with labels in a tree, in the order of the finished construct. -/
def routes (s : Source) (m : Mode) (t : Tree) (around : List (Mode × Tree)) : List Route :=
  (jumpsTo? m t).toList.map (Route.mk · around) ++ (visits s m t nowhere).flatMap fun c =>
    routes s c.mode c.part.1 ((m, t) :: around)
termination_by t.size
decreasing_by exact c.part.2

def fileRoutes (s : Source) (root : Tree) : List Route :=
  (fileParts root).flatMap fun t => routes s (topMode t) t []

variable {s : Source} {t : Tree}

theorem map_jump_routes (m : Mode) (t : Tree) (around : List (Mode × Tree)) :
    (routes s m t around).map Route.jump = jumps s m t (innermost? around) := by
  have hin : innermost? ((m, t) :: around) =
      if opens m t then some t else innermost? around := by
    rw [innermost?, List.find?_cons]
    cases opens m t <;> rfl
  rw [routes, jumps, List.map_append, List.map_map, List.map_flatMap]
  congr 1
  refine List.flatMap_congr fun c _ => ?_
  rw [map_jump_routes, hin]
termination_by t.size
decreasing_by exact c.part.2

/-! Every jump is in a function -/

/-- Modes in which nodes outside functions are read. -/
def Mode.isOuter : Mode → Bool
  | .block | .stmts | .stmt | .targets | .target | .loopTargets _ | .header | .clause
  | .commClause => false
  | _ => true

theorem Mode.isOuter_on {m : Mode} (h : m.isOuter = true) (k : Kind) : (m.on k).isOuter = true := by
  have hexpr : (atExpr k).isOuter = true := by
    unfold atExpr
    split <;> rfl
  have hkey : (atKey k).isOuter = true := by
    unfold atKey
    split <;> first | rfl | exact hexpr
  cases m with
  | block | stmts | stmt | targets | target | loopTargets | header | clause | commClause => cases h
  | expr => exact hexpr
  | bareKey => exact hkey
  | exprs | arg | element | key | result | member | specs =>
      simp only [on]
      split <;> first | rfl | exact hexpr | exact hkey | (split <;> first | rfl | exact hexpr)
  | _ => rfl

theorem jumpsTo?_of_isOuter {m : Mode} (h : m.isOuter = true) : jumpsTo? m t = none := by
  have hm := Mode.isOuter_on h t.kind
  unfold jumpsTo?
  split <;> simp_all [Mode.isOuter]

/-- Selections of parts that are read as outside functions. -/
def Outer (ps : List (Pick t)) : Prop :=
  ∀ p ∈ ps, p.mode.isOuter = true

theorem outer_nil : Outer (t := t) [] :=
  nofun

theorem outer_append {ps qs : List (Pick t)} : Outer (ps ++ qs) ↔ Outer ps ∧ Outer qs :=
  List.forall_mem_append

theorem outer_map {m : Mode} {cs : List (Tree.Below t)} :
    Outer (cs.map (Pick.mk m)) ↔ cs = [] ∨ m.isOuter = true := by
  rw [Outer, List.forall_mem_map]
  cases cs with
  | nil => simp
  | cons c cs => exact ⟨fun h => .inr (h c List.mem_cons_self), fun h _ _ => h.resolve_left nofun⟩

/-- Outside functions all parts are, unless the node is a function itself. -/
theorem outer_visits {m : Mode} (h : m.isOuter = true) (ho : opens m t = false) :
    Outer ((visits s m t nowhere).map Visit.pick) := by
  have hm := Mode.isOuter_on h t.kind
  unfold visits
  unfold opens at ho
  generalize m.on t.kind = m' at hm ho ⊢
  cases m' with
  | block | stmts | stmt | targets | target | loopTargets | header | clause | commClause => cases hm
  | func => cases ho
  | text | bareKey | result => exact outer_nil
  | expr =>
      have hf : t.kind ≠ .expr .funcLiteral := by
        intro hk
        rw [hk] at ho
        cases ho
      change Outer ((exprVisits s t nowhere).map Visit.pick)
      unfold exprVisits signature
      split
      all_goals first
        | exact absurd ‹t.kind = .expr .funcLiteral› hf
        | exact outer_nil
        | simp only [List.map_append, map_pick_each, map_pick_one, outer_append, outer_map,
            Mode.isOuter, or_true, and_self]
  | spec =>
      change Outer ((specVisits s t nowhere).map Visit.pick)
      unfold specVisits
      split
      all_goals simp only [List.map_append, map_pick_each, map_pick_one, outer_append, outer_map,
        Mode.isOuter, or_true, and_self]
  | _ =>
      simp only [signature, List.map_append, map_pick_each, map_pick_one, map_pick_inTurn,
        outer_append, outer_map, Mode.isOuter, or_true, and_self]

theorem function_of_mem_jumps (t : Tree) {m : Mode} {f : Option Tree}
    (h : f.isSome = true ∨ m.isOuter = true) :
    ∀ j ∈ jumps s m t f, j.function.isSome = true := by
  rw [jumps_eq, List.forall_mem_append]
  constructor
  · obtain hf | hm := h
    · exact List.forall_mem_map.2 fun _ _ => hf
    · rw [jumpsTo?_of_isOuter hm]
      nofun
  · intro j hj
    obtain ⟨p, hp, hj⟩ := List.mem_flatMap.1 hj
    refine function_of_mem_jumps p.part.1 ?_ j hj
    cases ho : opens m t with
    | true => exact .inl rfl
    | false => exact h.imp id fun hm => outer_visits hm ho p hp
termination_by t.size
decreasing_by exact p.part.2

/-- A top-level node that can be read has no jumps outside its functions. -/
theorem function_of_mem_top {d : Option (Node Role)} (h : decl s t = .ok d) :
    ∀ j ∈ jumps s (topMode t) t none, j.function.isSome = true := by
  obtain ⟨hk, -⟩ | ⟨k, hk, -⟩ | ⟨hk, -⟩ := decl_eq_ok.1 h
  · have hm : topMode t = .func := by
      obtain hk | hk := hk <;> simp only [topMode, hk]
    rw [hm]
    exact function_of_mem_jumps t (.inr rfl)
  · simp only [topMode, hk]
    rw [jumps_eq, jumpsTo?, visits, opens, stmtVisits, hk]
    simp only [Mode.on, Mode.atStmt, map_pick_inTurn, List.flatMap_map, List.mem_append]
    rintro j (hj | hj)
    · cases hj
    · obtain ⟨c, -, hj⟩ := List.mem_flatMap.1 hj
      exact function_of_mem_jumps c.1 (.inr rfl) j hj
  · obtain hk | hk := hk
    all_goals
      simp only [topMode, hk]
      rw [jumps_eq, jumpsTo?, visits, stmtVisits, hk]
      exact List.forall_mem_nil _

end GoMetrics.Lexical
