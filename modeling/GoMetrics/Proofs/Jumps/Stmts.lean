import GoMetrics.Proofs.Draft.Stmts
import GoMetrics.Proofs.Jumps.Exprs

/-!
The jumps in statements and declarations. A statement that jumps to a label is a jump itself; all
others have the jumps of their parts. The result covers every tree, and every top-level node.
-/

namespace GoMetrics.Lexical

open Draft

variable {s : Source} {f : Option Tree} {t : Tree}

/-- Kinds of statements that jump. -/
def isJumping : StmtKind → Bool
  | .breakStatement | .continueStatement | .gotoStatement | .fallthroughStatement => true
  | _ => false

theorem Gathers.reads_stmt {ns : List (Node Role)} {ps : List (Pick t)} {k : StmtKind}
    (h : Gathers s f ns ps) (hk : t.kind = .stmt k) (hj : isJumping k = false)
    (hv : (stmtVisits s t nowhere).map Visit.pick = ps) : GathersAt s f .stmt t ns := by
  have hm : Mode.stmt.on t.kind = .stmt := by
    rw [hk]
    rfl
  refine h.reads ?_ ?_ ?_
  · rw [jumpsTo?, hm, hk]
    cases k <;> first | rfl | cases hj
  · rw [opens, hm]
  · rw [visits, hm, ← hv]

theorem jumpsTo?_of_isJumping {k : StmtKind} (hk : t.kind = .stmt k) (hj : isJumping k = true) :
    jumpsTo? .stmt t = (t.parts.find? (·.1.kind == .expr .labelName)).map (·.1) := by
  rw [jumpsTo?, hk]
  cases k <;> first | rfl | cases hj

theorem map_pick_jump {k : StmtKind} (hk : t.kind = .stmt k) (hj : isJumping k = true) :
    (visits s .stmt t nowhere).map Visit.pick =
      (t.parts.find? (·.1.kind == .expr .labelName)).toList.map (Pick.mk .expr) := by
  rw [visits, hk]
  cases k <;> first
    | exact absurd hj Bool.false_ne_true
    | simp only [Mode.on, Mode.atStmt, stmtVisits, hk, map_pick_one]

/-- The parts of a loop. -/
def loopPicks (t : Tree) : List (Pick t) :=
  let body := (t.at? .body).toList.map (Pick.mk .block)
  match header? t with
  | some header =>
    if header.1.kind = .part .rangeClause then
      ((header.1.at? .right).map header.trans).toList.map (Pick.mk .expr) ++ body ++
        ((header.1.at? .left).map header.trans).toList.map
          (Pick.mk (.loopTargets (header.1.hasToken ":=")))
    else body ++ (some header).toList.map (Pick.mk .header)
  | none => body

theorem map_pick_loop (v : Context) : (loopVisits s t v).map Visit.pick = loopPicks t := by
  cases hh : header? t with
  | none => simp only [loopVisits, loopPicks, hh, map_pick_one]
  | some header =>
      simp only [loopVisits, loopPicks, hh]
      split <;> simp only [List.map_append, map_pick_one]

section

variable (ih : ∀ c : Tree.Below t, Followed s c.1)
include ih

theorem gathers_stmtOpt {o : Option (Tree.Below t)} {x : Option (Node Role)}
    (h : (readers s t).Stmts (labelsIn s f) o.toList x.toList) :
    Gathers s f x.toList (o.toList.map (Pick.mk .stmt)) :=
  .each (h.imp fun c _ hc => (ih c).stmt ((readers_stmt s t _ c).symm.trans hc))

/-! Declarations of names -/

theorem gathersAt_typeSpec {n : Node Role}
    (hk : t.kind = .part .typeSpec ∨ t.kind = .part .typeAlias)
    (h : typeSpec s (labelsIn s f) (readers s t) = .ok n) : GathersAt s f .spec t [n] := by
  obtain ⟨name, -, type, ht, rfl⟩ := typeSpec_eq_ok.1 h
  have hg : Gathers s f [.typeSpec (.ident name .binds) (typeParams s t) type]
      ((t.at? .name).toList.map (Pick.mk (.text .binds)) ++
        (t.at? .type).toList.map (Pick.mk .expr)) :=
    .still rfl ((Gathers.ident name ..).append (gathers_exprs ih ht))
  refine hg.reads_inert rfl rfl ?_
  change (specVisits s t nowhere).map Visit.pick = _
  obtain hk | hk := hk <;> simp only [specVisits, hk, List.map_append, map_pick_one]

theorem gathersAt_valueSpec {n : Node Role}
    (hk : t.kind = .part .varSpec ∨ t.kind = .part .constSpec)
    (h : valueSpec s (labelsIn s f) (readers s t) = .ok n) : GathersAt s f .spec t [n] := by
  obtain ⟨type, ht, values, hv, rfl⟩ := valueSpec_eq_ok.1 h
  have hg : Gathers s f [.valueSpec (bindings (names s t)) type values]
      ((t.allAt .name).map (Pick.mk (.text .binds)) ++
        (t.at? .type).toList.map (Pick.mk .expr) ++ (t.at? .value).toList.map (Pick.mk .exprs)) :=
    .still rfl (((Gathers.idents (names s t) ..).append (gathers_exprs ih ht)).append
      (gathers_slotList ih hv))
  refine hg.reads_inert rfl rfl ?_
  change (specVisits s t nowhere).map Visit.pick = _
  obtain hk | hk := hk <;>
    simp only [specVisits, hk, List.map_append, map_pick_one, map_pick_each]

theorem gathersAt_spec {n : Node Role} (h : spec s (labelsIn s f) (readers s t) = .ok n) :
    GathersAt s f .spec t [n] := by
  obtain ⟨hk, h⟩ | ⟨hk, h⟩ := spec_eq_ok.1 h
  · exact gathersAt_typeSpec ih hk h
  · exact gathersAt_valueSpec ih hk h

theorem gathers_specs {ns : List (Node Role)}
    (h : (t.specs.mapM fun c => spec s (labelsIn s f) ((readers s t).under c)) = .ok ns) :
    Gathers s f ns (t.parts.map (Pick.mk .specs)) := by
  obtain ⟨nss, rfl, hf⟩ := specs_of_eq_ok h
  refine .flatten (hf.imp fun c ns hc => ?_)
  obtain ⟨hk, hns⟩ | ⟨hk, n, hn, rfl⟩ := hc
  · have hm : Mode.specs.on c.1.kind = .specs := if_pos hk
    have hg := Gathers.each (hns.imp fun d n hd =>
      gathersAt_spec (fun e => ih ((c.trans d).trans e)) hd)
    refine hg.reads_inert hm rfl ?_
    rw [visits, hm, map_pick_inTurn]
  · exact (gathersAt_spec (fun d => ih (c.trans d)) hn).congr (if_neg hk)

theorem gathersAt_genDecl {k : DeclKind} {n : Node Role} (hk : t.kind = .decl k)
    (h : genDecl s (labelsIn s f) (readers s t) k = .ok n) : GathersAt s f .stmt t [n] := by
  obtain ⟨specs, hs, rfl⟩ := genDecl_eq_ok.1 h
  have hm : Mode.stmt.on t.kind = .stmt := by
    rw [hk]
    rfl
  refine .still rfl ((gathers_specs ih hs).reads ?_ ?_ ?_)
  · rw [jumpsTo?, hm, hk]
  · rw [opens, hm]
  · rw [visits, hm]
    simp only [stmtVisits, hk, map_pick_inTurn]

/-! Assignments -/

theorem gathersAt_target {c : Tree.Below t} {n : Node Role}
    (h : target s (labelsIn s f) (readers s t) c = .ok n) : GathersAt s f .target c.1 [n] := by
  obtain ⟨hk | hk, rfl⟩ | ⟨hi, hb, hn⟩ := target_eq_ok.1 h
  · exact (gathersAt_text .binds _ _).congr (by rw [hk]; rfl)
  · exact (gathersAt_text .binds _ _).congr (by rw [hk]; rfl)
  · exact (gathersAt_below ih hn).congr (Mode.on_target hi hb)

theorem gathersAt_targets {c : Tree.Below t} {ns : List (Node Role)}
    (h : targets s (labelsIn s f) (readers s t) c = .ok ns) : GathersAt s f .targets c.1 ns := by
  obtain ⟨hk, hns⟩ | ⟨hk, n, hn, rfl⟩ := targets_eq_ok.1 h
  · have hm : Mode.targets.on c.1.kind = .targets := if_pos hk
    have hg := Gathers.each (hns.imp fun d n hd => gathersAt_target (fun e => ih (c.trans e)) hd)
    refine hg.reads_inert hm rfl ?_
    rw [visits, hm, map_pick_inTurn]
  · exact (gathersAt_target ih hn).congr (if_neg hk)

theorem gathersAt_leftOf {c : Tree.Below t} {ns : List (Node Role)}
    (h : leftOf s (labelsIn s f) (readers s t) (signOf t) c = .ok ns) :
    GathersAt s f (if t.hasToken ":=" then .targets else .exprs) c.1 ns := by
  obtain ⟨ht, h⟩ | ⟨ht, h⟩ := leftOf_eq_ok.1 h
  · rw [if_pos ht]
    exact gathersAt_targets ih h
  · rw [if_neg (Bool.eq_false_iff.1 ht)]
    exact gathersAt_exprList ih h

theorem gathers_receive {n : Node Role}
    (h : receive s (labelsIn s f) (readers s t) = .ok n) :
    Gathers s f [n] ((t.at? .left).toList.map
        (Pick.mk (if t.hasToken ":=" then .targets else .exprs)) ++
      (t.at? .right).toList.map (Pick.mk .expr)) := by
  obtain ⟨x, hx, h⟩ := receive_eq_ok.1 h
  have hr := gathers_exprs ih hx
  obtain ⟨hl, rfl⟩ | ⟨c, hc, lhs, hl, rfl⟩ := h
  · rw [hl]
    exact .still rfl hr
  · exact .still rfl ((Gathers.one hc (gathersAt_leftOf ih hl)).append hr)

theorem gathers_assignment {n : Node Role}
    (h : assignment s (labelsIn s f) (readers s t) = .ok n) :
    Gathers s f [n] ((t.at? .left).toList.map (Pick.mk .exprs) ++
      (t.at? .right).toList.map (Pick.mk .exprs)) := by
  obtain ⟨rhs, hr, lhs, hl, op, -, rfl⟩ := assignment_eq_ok.1 h
  exact .still rfl ((gathers_slotList ih hl).append (gathers_slotList ih hr))

theorem gathers_shortDeclaration {n : Node Role}
    (h : shortDeclaration s (labelsIn s f) (readers s t) = .ok n) :
    Gathers s f [n] ((t.at? .left).toList.map (Pick.mk .targets) ++
      (t.at? .right).toList.map (Pick.mk .exprs)) := by
  obtain ⟨rhs, hr, c, hc, lhs, hl, rfl⟩ := shortDeclaration_eq_ok.1 h
  exact .still rfl ((Gathers.one hc (gathersAt_targets ih hl)).append (gathers_slotList ih hr))

/-! Simple statements -/

theorem gathers_send {n : Node Role} (h : send (labelsIn s f) (readers s t) = .ok n) :
    Gathers s f [n] ((t.at? .channel).toList.map (Pick.mk .expr) ++
      (t.at? .value).toList.map (Pick.mk .expr)) := by
  obtain ⟨x, hx, y, hy, rfl⟩ := send_eq_ok.1 h
  exact .still rfl ((gathers_exprs ih hx).append (gathers_exprs ih hy))

theorem gathers_ret {n : Node Role} (h : ret (labelsIn s f) (readers s t) = .ok n) :
    Gathers s f [n] (t.parts.head?.toList.map (Pick.mk .exprs)) := by
  obtain ⟨hp, rfl⟩ | ⟨c, hc, xs, hxs, rfl⟩ := ret_eq_ok.1 h
  · rw [hp]
    exact .still rfl .nil
  · exact .still rfl (.one hc (gathersAt_exprList ih hxs))

omit ih in
/-- The label of a jump is read by its text, in the function around the jump. -/
theorem gathersAt_branch {k : StmtKind} {tok : String} {n : Node Role} (hk : t.kind = .stmt k)
    (hj : isJumping k = true) (h : branch (labelsIn s f) (readers s t) tok = .ok n) :
    GathersAt s f .stmt t [n] := by
  obtain ⟨label, hl, rfl⟩ := branch_eq_ok.1 h
  rw [GathersAt, jumps_eq, jumpsTo?_of_isJumping hk hj, map_pick_jump hk hj,
    List.flatMap_singleton, Node.labels_branch]
  cases hf : t.parts.find? (·.1.kind == .expr .labelName) with
  | none =>
      rw [hf, Option.toList_none, Readers.Exprs, List.forall₂_nil_left_iff] at hl
      rw [hl]
      rfl
  | some c =>
      have hc : c.1.kind = .expr .labelName := by
        simpa using List.find?_some hf
      rw [hf, Option.toList_some, Readers.Exprs, List.forall₂_cons_left_iff] at hl
      obtain ⟨x, _, hx, hnil, hl⟩ := hl
      cases hnil
      rw [hl]
      simp only [readers_expr, Draft.expr, hc] at hx
      cases hx
      simp [Node.labels_ident, Pick.jumps, jumps_labelName hc, Jump.draft]

theorem gathers_labeled {n : Node Role} (h : labeled s (labelsIn s f) (readers s t) = .ok n) :
    Gathers s f [n] ((t.at? .label).toList.map (Pick.mk (.text (.settled true))) ++
      (labeled? t).toList.map (Pick.mk .stmt)) := by
  obtain ⟨c, hc, body, hb, rfl⟩ := labeled_eq_ok.1 h
  have hlabel := Gathers.ident (s := s) (f := f) (s.textOf c.1) (.settled true) (.settled true)
    (t.at? .label).toList
  rw [labeled?_eq hc]
  obtain ⟨hf, rfl⟩ | ⟨d, hd, hx⟩ := hb
  · rw [hf]
    exact .still rfl (hlabel.append (.still rfl .nil))
  · have hx := (ih d).stmt ((readers_stmt s t _ d).symm.trans hx)
    exact .still rfl (hlabel.append (.one hd hx))

/-! Branches and loops -/

theorem gathers_ifElse {n : Node Role} (h : ifElse (labelsIn s f) (readers s t) = .ok n) :
    Gathers s f [n] ((t.at? .condition).toList.map (Pick.mk .expr) ++
      (t.at? .consequence).toList.map (Pick.mk .block) ++
      (t.at? .initializer).toList.map (Pick.mk .stmt) ++
      (t.at? .alternative).toList.map (Pick.mk .stmt)) := by
  obtain ⟨init, hi, cond, hcond, c, hc, body, hb, orElse, ho, rfl⟩ := ifElse_eq_ok.1 h
  exact .still rfl ((((gathers_exprs ih hcond).append (gathers_blockAt ih hc hb)).append
    (gathers_stmtOpt ih hi)).append (gathers_stmtOpt ih ho))

/-- Of the targets of a range loop two have a place. -/
theorem gathersAt_loopTargets {c : Tree.Below t} {ns : List (Node Role)}
    (h : leftOf s (labelsIn s f) (readers s t) (signOf t) c = .ok ns) :
    GathersAt s f (.loopTargets (t.hasToken ":=")) c.1 (ns.take 2) := by
  obtain ⟨ht, h⟩ | ⟨ht, h⟩ := leftOf_eq_ok.1 h
  · rw [ht]
    obtain ⟨hk, hns⟩ | ⟨hk, n, hn, rfl⟩ := targets_eq_ok.1 h
    · have hm : (Mode.loopTargets true).on c.1.kind = .loopTargets true := if_pos hk
      have hr := hns.imp fun d n hd => gathersAt_target (fun e => ih (c.trans e)) hd
      refine (Gathers.each (List.forall₂_take 2 hr)).reads_inert hm rfl ?_
      rw [visits, hm, map_pick_inTurn]
    · refine (gathersAt_target ih hn).congr ?_
      simp [Mode.on, hk]
  · rw [ht]
    obtain ⟨hk, hns⟩ | ⟨hk, n, hn, rfl⟩ := exprList_eq_ok.1 h
    · have hm : (Mode.loopTargets false).on c.1.kind = .loopTargets false := if_pos hk
      have hg := gathers_exprs (fun d => ih (c.trans d)) (List.forall₂_take 2 hns)
      refine hg.reads_inert hm rfl ?_
      rw [visits, hm, map_pick_each]
    · refine (gathersAt_below ih hn).congr ?_
      simp [Mode.on, hk]

theorem gathers_rangeLoop {c header : Tree.Below t} {n : Node Role} (hc : t.at? .body = some c)
    (hh : header? t = some header) (hr : header.1.kind = .part .rangeClause)
    (h : rangeLoop s (labelsIn s f) ((readers s t).under header)
      (block (labelsIn s f) ((readers s t).under c)) = .ok n) :
    Gathers s f [n] (loopPicks t) := by
  obtain ⟨x, hx, body, hb, h⟩ := rangeLoop_eq_ok.1 h
  have hg := (gathers_exprs ih (Readers.under_exprOpt.1 hx)).append (gathers_blockAt ih hc hb)
  simp only [loopPicks, hh, if_pos hr]
  obtain ⟨hl, rfl⟩ | ⟨e, he, key, rest, hns, rfl⟩ := h
  · rw [hl]
    exact .still rfl (hg.append .nil)
  · have ht := Gathers.one (congrArg (Option.map header.trans) he)
      (gathersAt_loopTargets (fun d => ih (header.trans d)) hns)
    have htake : (key :: rest).take 2 = (some key).toList ++ rest.head?.toList := by
      cases rest <;> rfl
    rw [htake] at ht
    exact .still rfl (hg.append ht)

/-- The three clauses of a header, in turn. -/
theorem gathersAt_clauses {init cond post : Option (Node Role)} (hk : t.kind = .part .forClause)
    (hi : (readers s t).Stmts (labelsIn s f) (t.at? .initializer).toList init.toList)
    (hc : (readers s t).Exprs (labelsIn s f) (t.at? .condition).toList cond.toList)
    (hp : (readers s t).Stmts (labelsIn s f) (t.at? .update).toList post.toList) :
    GathersAt s f .header t (init.toList ++ cond.toList ++ post.toList) := by
  have hm : Mode.header.on t.kind = .header := if_pos (.inr hk)
  have hg := ((gathers_stmtOpt ih hi).append (gathers_exprs ih hc)).append
    (gathers_stmtOpt ih hp)
  refine hg.reads_inert hm rfl ?_
  rw [visits, hm]
  simp only [hk, List.map_append, map_pick_one]

theorem gathers_loop {n : Node Role} (h : loop s (labelsIn s f) (readers s t) = .ok n) :
    Gathers s f [n] (loopPicks t) := by
  obtain ⟨c, hc, h⟩ := loop_eq_ok.1 h
  rw [← header?_eq hc] at h
  obtain ⟨hn, body, hb, rfl⟩ | ⟨header, hs, h⟩ := h
  · simp only [loopPicks, hn]
    exact .still rfl (gathers_blockAt ih hc hb)
  -- A loop that is not over a range has the jumps of its body and then those of its header.
  have hpast : ∀ {body init cond post}, header.1.kind ≠ .part .rangeClause →
      block (labelsIn s f) ((readers s t).under c) = .ok body →
      GathersAt s f .header header.1
        (Option.toList init ++ Option.toList cond ++ Option.toList post) →
      Gathers s f [.forStmt body init cond post] (loopPicks t) := by
    intro body init cond post hr hb hg
    simp only [loopPicks, hs, if_neg hr]
    exact .still rfl ((gathers_blockAt ih hc hb).append (.one (o := some header) rfl hg))
  obtain ⟨hr, h⟩ | ⟨hf, h⟩ | ⟨hr, hf, cond, hcond, body, hb, rfl⟩ := h
  · exact gathers_rangeLoop ih hc hs hr h
  · obtain ⟨init, hi, cond, hcond, post, hp, body, hb, rfl⟩ := clauseLoop_eq_ok.1 h
    refine hpast ?_ hb (gathersAt_clauses (fun d => ih (header.trans d)) hf hi hcond hp)
    rw [hf]
    nofun
  · exact hpast hr hb ((gathersAt_below ih hcond).congr (if_neg (not_or.2 ⟨hr, hf⟩)))

/-! Clauses -/

theorem gathers_caseExprs {exprs : Option (List (Node Role))}
    (h : caseExprs (labelsIn s f) (readers s t) = .ok exprs) :
    Gathers s f (exprs.getD []) ((match t.kind with
      | .part .defaultCase => []
      | .part .typeCase => each .expr (t.allAt .type) nowhere
      | _ => one .exprs (t.at? .value) nowhere).map Visit.pick) := by
  obtain ⟨hd, rfl⟩ | ⟨ht, xs, hxs, rfl⟩ | ⟨hd, ht, xs, hxs, rfl⟩ := caseExprs_eq_ok.1 h
  · simp only [hd]
    exact .nil
  · simp only [ht, map_pick_each]
    exact gathers_exprs ih hxs
  · split
    · contradiction
    · contradiction
    · rw [map_pick_one]
      exact gathers_slotList ih hxs

theorem gathersAt_caseClause {n : Node Role}
    (h : caseClause (labelsIn s f) (readers s t) = .ok n) : GathersAt s f .clause t [n] := by
  obtain ⟨exprs, he, body, hb, rfl⟩ := caseClause_eq_ok.1 h
  have hg := (gathers_caseExprs ih he).append (gathers_body ih hb)
  refine GathersAt.still rfl (hg.reads_inert rfl rfl ?_)
  exact List.map_append.trans (congrArg _ (map_pick_inTurn ..))

theorem gathersAt_commClause {n : Node Role}
    (h : commClause (labelsIn s f) (readers s t) = .ok n) : GathersAt s f .commClause t [n] := by
  obtain ⟨comm, hc, body, hb, rfl⟩ := commClause_eq_ok.1 h
  have hg := (gathers_stmtOpt ih hc).append (gathers_body ih hb)
  refine GathersAt.still rfl (hg.reads_inert rfl rfl ?_)
  exact List.map_append.trans (congrArg₂ _ (map_pick_one ..) (map_pick_inTurn ..))

omit ih in
theorem gathers_clauses {m : Mode} {k : PartKind} {clause : (c : Tree.Below t) → Result}
    {n : Node Role} (hr : ∀ c n, clause c = .ok n → GathersAt s f m c.1 [n])
    (h : Draft.clauses k clause = .ok n) :
    Gathers s f [n] ((clauses k t).map (Pick.mk m)) := by
  obtain ⟨ns, hns, rfl⟩ := clauses_eq_ok.1 h
  exact .still rfl (.each (hns.imp fun c n hc => hr c n hc))

theorem gathers_switch {n : Node Role} (h : switch (labelsIn s f) (readers s t) = .ok n) :
    Gathers s f [n] ((clauses .expressionCase t).map (Pick.mk .clause) ++
      (t.at? .initializer).toList.map (Pick.mk .stmt) ++
      (t.at? .value).toList.map (Pick.mk .expr)) := by
  obtain ⟨init, hi, tag, ht, body, hb, rfl⟩ := switch_eq_ok.1 h
  have hb := gathers_clauses (m := .clause)
    (fun c n hc => gathersAt_caseClause (fun d => ih (c.trans d)) hc) hb
  exact .still rfl ((hb.append (gathers_stmtOpt ih hi)).append (gathers_exprs ih ht))

theorem gathers_guard {n : Node Role}
    (h : Draft.guard s (labelsIn s f) (readers s t) = .ok n) :
    Gathers s f [n] ((t.at? .alias).toList.map (Pick.mk .targets) ++
      (t.at? .value).toList.map (Pick.mk .expr)) := by
  obtain ⟨x, hx, h⟩ := guard_eq_ok.1 h
  have hx : Gathers s f [.typeAssert x none (t.hasToken "(") (t.hasToken ")")]
      ((t.at? .value).toList.map (Pick.mk .expr)) := .still rfl (gathers_exprs ih hx)
  obtain ⟨ha, rfl⟩ | ⟨c, hc, lhs, hl, rfl⟩ := h
  · rw [ha]
    exact .still rfl hx
  · exact .still rfl ((Gathers.one hc (gathersAt_targets ih hl)).append hx)

theorem gathers_typeSwitch {n : Node Role}
    (h : typeSwitch s (labelsIn s f) (readers s t) = .ok n) :
    Gathers s f [n] ((t.at? .alias).toList.map (Pick.mk .targets) ++
      (t.at? .value).toList.map (Pick.mk .expr) ++
      (clauses .typeCase t).map (Pick.mk .clause) ++
      (t.at? .initializer).toList.map (Pick.mk .stmt)) := by
  obtain ⟨init, hi, guard, hg, body, hb, rfl⟩ := typeSwitch_eq_ok.1 h
  have hb := gathers_clauses (m := .clause)
    (fun c n hc => gathersAt_caseClause (fun d => ih (c.trans d)) hc) hb
  exact .still rfl (((gathers_guard ih hg).append hb).append (gathers_stmtOpt ih hi))

theorem gathers_select {n : Node Role} (h : select (labelsIn s f) (readers s t) = .ok n) :
    Gathers s f [n] ((clauses .communicationCase t).map (Pick.mk .commClause)) := by
  obtain ⟨body, hb, rfl⟩ := select_eq_ok.1 h
  exact .still rfl (gathers_clauses
    (fun c n hc => gathersAt_commClause (fun d => ih (c.trans d)) hc) hb)

theorem gathersAt_stmtKind {k : StmtKind} {n : Node Role} (hk : t.kind = .stmt k)
    (h : Draft.stmt s (labelsIn s f) (readers s t) = .ok n) : GathersAt s f .stmt t [n] := by
  simp only [Draft.stmt, hk] at h
  cases k with
  | expressionStatement | incStatement | decStatement | goStatement | deferStatement =>
      refine (gathers_first ih (fun _ => rfl) (fun _ => rfl) h).reads_stmt hk rfl ?_
      simp only [stmtVisits, hk, map_pick_one]
  | sendStatement =>
      refine (gathers_send ih h).reads_stmt hk rfl ?_
      simp only [stmtVisits, hk, List.map_append, map_pick_one]
  | receiveStatement =>
      refine (gathers_receive ih h).reads_stmt hk rfl ?_
      simp only [stmtVisits, hk, List.map_append, map_pick_one]
  | assignmentStatement =>
      refine (gathers_assignment ih h).reads_stmt hk rfl ?_
      simp only [stmtVisits, hk, List.map_append, map_pick_one]
  | shortVarDeclaration =>
      refine (gathers_shortDeclaration ih h).reads_stmt hk rfl ?_
      simp only [stmtVisits, hk, List.map_append, map_pick_one]
  | returnStatement =>
      refine (gathers_ret ih h).reads_stmt hk rfl ?_
      simp only [stmtVisits, hk, map_pick_one]
  | breakStatement | continueStatement | gotoStatement | fallthroughStatement =>
      exact gathersAt_branch hk rfl h
  | labeledStatement | emptyLabeledStatement =>
      refine (gathers_labeled ih h).reads_stmt hk rfl ?_
      simp only [stmtVisits, hk, List.map_append, map_pick_one]
  | ifStatement =>
      refine (gathers_ifElse ih h).reads_stmt hk rfl ?_
      simp only [stmtVisits, hk, List.map_append, map_pick_one]
  | forStatement =>
      refine (gathers_loop ih h).reads_stmt hk rfl ?_
      simp only [stmtVisits, hk, map_pick_loop]
  | expressionSwitchStatement =>
      refine (gathers_switch ih h).reads_stmt hk rfl ?_
      simp only [stmtVisits, hk, List.map_append, map_pick_one, map_pick_each]
  | typeSwitchStatement =>
      refine (gathers_typeSwitch ih h).reads_stmt hk rfl ?_
      simp only [stmtVisits, hk, List.map_append, map_pick_one, map_pick_each]
  | selectStatement =>
      refine (gathers_select ih h).reads_stmt hk rfl ?_
      simp only [stmtVisits, hk, map_pick_each]
  | block =>
      refine (gathers_block ih h).reads_stmt hk rfl ?_
      simp only [stmtVisits, hk, map_pick_inTurn]
  | emptyStatement =>
      cases h
      refine (Gathers.still rfl .nil).reads_stmt hk rfl ?_
      simp only [stmtVisits, hk, List.map_nil]

/-- Every statement has the jumps of its tree. -/
theorem gathersAt_stmt {n : Node Role}
    (h : Draft.stmt s (labelsIn s f) (readers s t) = .ok n) : GathersAt s f .stmt t [n] := by
  obtain ⟨k, hk⟩ | ⟨k, hk⟩ | ⟨k, hk⟩ := kind_of_stmt h
  · obtain ⟨x, hx, rfl⟩ := (stmt_of_expr hk).1 h
    have hm : Mode.stmt.on t.kind = Mode.expr.on t.kind := by
      rw [hk]
      rfl
    exact ((gathersAt_expr ih hx).congr hm).wrap rfl
  · obtain ⟨d, hd, rfl⟩ := (stmt_of_decl hk).1 h
    exact (gathersAt_genDecl ih hk hd).wrap rfl
  · exact gathersAt_stmtKind ih hk h

theorem gathersAt_stmts {ns : List (Node Role)}
    (h : Draft.stmts s (labelsIn s f) (readers s t) = .ok ns) : GathersAt s f .stmts t ns := by
  obtain ⟨hk, body, hb, rfl⟩ | ⟨hk, n, hn, rfl⟩ := stmts_eq_ok.1 h
  · have hm : Mode.stmts.on t.kind = .stmts := if_pos hk
    refine (gathers_body ih hb).reads_inert hm rfl ?_
    rw [visits, hm, map_pick_inTurn]
  · exact (gathersAt_stmt ih hn).congr (if_neg hk)

end

/-- Every tree has the jumps that the table says. -/
theorem followed (s : Source) (t : Tree) : Followed s t :=
  have ih : ∀ c : Tree.Below t, Followed s c.1 := fun c => followed s c.1
  ⟨gathersAt_expr ih, gathersAt_stmt ih, gathersAt_stmts ih⟩
termination_by t.size
decreasing_by exact c.2

/-! Top-level nodes -/

theorem gathers_receiver {recv : Option (List (Node Role))}
    (h : receiver s (labelsIn s f) (readers s t) = .ok recv) :
    Gathers s f (recv.getD [])
      ((if t.kind = .methodDeclaration then t.at? .receiver else none).toList.map
        (Pick.mk .params)) := by
  obtain ⟨hk, h⟩ | ⟨hk, rfl⟩ := receiver_eq_ok.1 h
  · rw [if_pos hk]
    obtain ⟨hr, rfl⟩ | ⟨c, hc, ps, hps, rfl⟩ := h
    · rw [hr]
      exact .nil
    · exact .one hc (gathersAt_params (fun d => followed s d.1) hps)
  · rw [if_neg hk]
    exact .nil

/-- A function has labels of its own. -/
theorem gathersAt_funcDecl {n : Node Role} (h : Draft.funcDecl s (readers s t) = .ok n) :
    GathersAt s f .func t [n] := by
  have ih : ∀ c : Tree.Below t, Followed s c.1 := fun c => followed s c.1
  obtain ⟨name, -, own, ho, recv, hr, type, ht, body, hb, rfl⟩ := funcDecl_eq_ok.1 h
  cases labelsIn_of_bodyLabels ho
  have hb : Gathers s (some t) body.toList ((t.at? .body).toList.map (Pick.mk .block)) :=
    .each (hb.imp fun c _ hc => gathersAt_block (fun d => followed s d.1) hc)
  have hn := Gathers.ident (s := s) (f := some t) name
    (if t.kind = .methodDeclaration then .settled false else .use)
    (if t.kind = .methodDeclaration then .settled false else .use) (t.at? .name).toList
  have hg := ((hn.append (gathers_signature ih ht)).append hb).append (gathers_receiver hr)
  refine GathersAt.still rfl (hg.readsIn rfl rfl ?_)
  change (funcVisits s t nowhere).map Visit.pick = _
  simp only [funcVisits, List.map_append, map_pick_one, map_pick_signature]

/-- A top-level node has the jumps of its tree; there are no labels outside functions. -/
theorem gathersAt_decl {d : Option (Node Role)} (h : decl s t = .ok d) :
    GathersAt s none (topMode t) t d.toList := by
  obtain ⟨hk, n, hn, rfl⟩ | ⟨k, hk, n, hn, rfl⟩ | ⟨hk, rfl⟩ := decl_eq_ok.1 h
  · obtain hk | hk := hk <;> simp only [topMode, hk] <;> exact gathersAt_funcDecl hn
  · simp only [topMode, hk]
    exact gathersAt_genDecl (fun c => followed s c.1) hk hn
  · obtain hk | hk := hk <;> simp [GathersAt, jumps_eq, jumpsTo?, visits, stmtVisits, topMode, hk,
      Mode.on, Mode.atStmt]

end GoMetrics.Lexical
