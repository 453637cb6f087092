import GoMetrics.Proofs.Draft.Stmts
import GoMetrics.Proofs.Lexical.Exprs

/-!
Statements and declarations of names are read as the table of visits says: one lemma for each
construct, under the assumption that all smaller trees are read so.
-/

namespace GoMetrics.Lexical

open Draft

variable {s : Source} {ls : List String} {t : Tree}

/-- Kinds of statements that can leave names in force. -/
def isDeclaring : StmtKind → Bool
  | .shortVarDeclaration | .receiveStatement | .labeledStatement | .emptyLabeledStatement => true
  | _ => false

/-- Kinds of statements that are decisions. -/
def isDeciding : StmtKind → Bool
  | .ifStatement | .forStatement => true
  | _ => false

theorem declared_of_not_isDeclaring {k : StmtKind} (hk : t.kind = .stmt k)
    (hd : isDeclaring k = false) : declared s .stmt t = [] := by
  rw [declared, hk]
  cases k <;> first | rfl | cases hd

theorem decides_eq_isDeciding {k : StmtKind} (hk : t.kind = .stmt k) :
    decides s t = isDeciding k := by
  rw [decides, hk]
  cases k <;> rfl

/-- A statement with a scope of its own. -/
theorem reads_scope {k : StmtKind} {n : Node Role} (hk : t.kind = .stmt k)
    (hd : isDeclaring k = false) (hc : n.isCompound = true) (hb : n.bindsInTurn = true)
    (ht : n.turns = []) (hs : n.decides = isDeciding k)
    (hv : ∀ v : Context, v.labels = ls →
      (n.stands false v.toVisible).flatMap Node.Stand.sites =
        (stmtVisits s t v).flatMap (Visit.sites s)) : Reads s ls .stmt t [n] := by
  have hm : Mode.stmt.on t.kind = .stmt := by
    rw [hk]
    rfl
  apply Reads.of_stands
  · intro top
    rw [Node.binds_eq_flatMap_turns _ _ hb, ht, declared_of_not_isDeclaring hk hd]
    rfl
  · intro v _
    rw [leaf, hm, Node.ownSites_of_isCompound hc, decides_eq_isDeciding hk, hs]
  · intro v hls
    rw [visits, hm]
    exact hv v hls

/-- A statement that is no decision, in the scope where it stands. -/
theorem Gives.reads_stmt {k : StmtKind} {ns : List (Node Role)} {adds : List String}
    {vs : Context → List (Visit t)} (h : Gives s ls ns adds vs) (hk : t.kind = .stmt k)
    (hs : isDeciding k = false) (hd : declared s .stmt t = adds)
    (hv : ∀ v, stmtVisits s t v = vs v) : Reads s ls .stmt t ns := by
  have hm : Mode.stmt.on t.kind = .stmt := by
    rw [hk]
    rfl
  refine h.reads hd ?_ ?_
  · intro v
    rw [leaf, hm, decides_eq_isDeciding hk, hs]
    rfl
  · intro v
    rw [visits, hm, ← hv]

/-- A statement that neither decides nor declares anything. -/
theorem Gives.reads_simple {k : StmtKind} {ns : List (Node Role)} {vs : Context → List (Visit t)}
    (h : Gives s ls ns [] vs) (hk : t.kind = .stmt k) (hs : isDeciding k = false)
    (hd : isDeclaring k = false) (hv : ∀ v, stmtVisits s t v = vs v) : Reads s ls .stmt t ns :=
  h.reads_stmt hk hs (declared_of_not_isDeclaring hk hd) hv

section

variable (ih : ∀ c : Tree.Below t, Sound s c.1)
include ih

/-! Declarations of names -/

theorem reads_typeSpec {n : Node Role}
    (hk : t.kind = .part .typeSpec ∨ t.kind = .part .typeAlias)
    (h : typeSpec s ls (readers s t) = .ok n) : Reads s ls .spec t [n] := by
  obtain ⟨name, hname, x, hx, rfl⟩ := typeSpec_eq_ok.1 h
  obtain ⟨c, hc, rfl⟩ := slotText_eq_ok.1 hname
  have hn : Gives s ls [.ident (s.textOf c.1) .binds] _ (one (.text .binds) (t.at? .name)) :=
    .one hc (reads_text .binds c.1)
  have ht := gives_exprOpt ih hx
  have hdecl : declared s .spec t = [s.textOf c.1] := by
    rw [declared]
    obtain hk | hk := hk <;> simp [Mode.on, hk, hc]
  have hvis : ∀ v, specVisits s t v = one (.text .binds) (t.at? .name) v ++
      one .expr (t.at? .type)
        ((v.declare (declared s .spec t)).inside.declare (typeParams s t)) := by
    intro v
    obtain hk | hk := hk <;> simp only [specVisits, hk]
  apply Reads.of_stands
  · intro top
    rw [Node.binds_eq_flatMap_turns _ _ rfl, hdecl]
    simp [Node.turns, Node.binds]
  · intro v _
    rfl
  · intro v hv
    have hp : Node.past [.ident (s.textOf c.1) .binds] v.toVisible =
        (v.declare [s.textOf c.1]).toVisible := by
      simp [Node.past, Node.binds]
    change _ = (specVisits s t v).flatMap (Visit.sites s)
    rw [hvis, hdecl, List.flatMap_append, ← hn.sites v hv,
      ← ht.sites ((v.declare [s.textOf c.1]).inside.declare (typeParams s t)) hv]
    simp only [Node.stands, List.flatMap_cons, List.flatMap_nil, List.append_nil,
      Node.Stand.sites, hp, Node.sitesAll_singleton]
    rfl

theorem reads_valueSpec {n : Node Role}
    (hk : t.kind = .part .varSpec ∨ t.kind = .part .constSpec)
    (h : valueSpec s ls (readers s t) = .ok n) : Reads s ls .spec t [n] := by
  obtain ⟨type, ht, values, hv, rfl⟩ := valueSpec_eq_ok.1 h
  have hg := (gives_names t).valueSpec
    ((gives_exprOpt ih ht).append_quiet (gives_slotList ih hv))
  refine hg.reads ?_ (fun _ => rfl) fun v => ?_
  · rw [declared]
    obtain hk | hk := hk <;> simp [Mode.on, hk]
  · change specVisits s t v = _
    obtain hk | hk := hk <;> simp only [specVisits, hk, List.append_assoc]

theorem reads_spec {n : Node Role} (h : spec s ls (readers s t) = .ok n) :
    Reads s ls .spec t [n] := by
  obtain ⟨hk, h⟩ | ⟨hk, h⟩ := spec_eq_ok.1 h
  · exact reads_typeSpec ih hk h
  · exact reads_valueSpec ih hk h

/-- Specs are read in turn, whether they stand in lists or not. -/
theorem gives_specs {ns : List (Node Role)}
    (h : (t.specs.mapM fun c => spec s ls ((readers s t).under c)) = .ok ns) :
    Gives s ls ns (t.parts.flatMap fun c => declared s .specs c.1) (inTurn s .specs t.parts) := by
  obtain ⟨nss, rfl, hf⟩ := specs_of_eq_ok h
  refine .flatten (hf.imp fun c ns hc => ?_)
  obtain ⟨hk, hns⟩ | ⟨hk, n, hn, rfl⟩ := hc
  · have hm : Mode.specs.on c.1.kind = .specs := if_pos hk
    have hr := hns.imp fun d n hd => reads_spec (fun e => ih ((c.trans d).trans e)) hd
    refine (Gives.inTurn hr).reads ?_ (leaf_eq_nil hm rfl) fun v => ?_
    · rw [declared, hm]
    · rw [visits, hm]
  · exact (reads_spec (fun e => ih (c.trans e)) hn).congr (if_neg hk)

theorem gives_genDecl {k : DeclKind} {n : Node Role} (h : genDecl s ls (readers s t) k = .ok n) :
    Gives s ls [n] (t.parts.flatMap fun c => declared s .specs c.1)
      (inTurn s .specs t.parts) := by
  obtain ⟨specs, hs, rfl⟩ := genDecl_eq_ok.1 h
  exact (gives_specs ih hs).plain rfl rfl

/-- A declaration among statements, or at file level. -/
theorem reads_genDecl {k : DeclKind} {n : Node Role} (hk : t.kind = .decl k)
    (h : genDecl s ls (readers s t) k = .ok n) : Reads s ls .stmt t [n] := by
  have hm : Mode.stmt.on t.kind = .stmt := by
    rw [hk]
    rfl
  refine (gives_genDecl ih h).reads ?_ ?_ ?_
  · rw [declared, hm]
    simp only [hk]
  · intro v
    rw [leaf, hm, decides, hk]
    rfl
  · intro v
    rw [visits, hm]
    simp only [stmtVisits, hk]

/-! Assignments -/

theorem reads_target {c : Tree.Below t} {n : Node Role}
    (h : target s ls (readers s t) c = .ok n) : Reads s ls .target c.1 [n] := by
  obtain ⟨hk | hk, rfl⟩ | ⟨hi, hb, hn⟩ := target_eq_ok.1 h
  · exact (reads_text .binds c.1).congr (by rw [hk]; rfl)
  · exact (reads_text .binds c.1).congr (by rw [hk]; rfl)
  · exact (reads_below ih hn).congr (Mode.on_target hi hb)

theorem reads_targets {c : Tree.Below t} {ns : List (Node Role)}
    (h : targets s ls (readers s t) c = .ok ns) : Reads s ls .targets c.1 ns := by
  obtain ⟨hk, hns⟩ | ⟨hk, n, hn, rfl⟩ := targets_eq_ok.1 h
  · have hm : Mode.targets.on c.1.kind = .targets := if_pos hk
    have hr := hns.imp fun d n hd => reads_target (fun e => ih (c.trans e)) hd
    refine (Gives.inTurn hr).reads ?_ (leaf_eq_nil hm rfl) fun v => ?_
    · rw [declared, hm]
    · rw [visits, hm]
  · exact (reads_target ih hn).congr (if_neg hk)

/-- What stands on the left of a sign is declared if the sign says so. -/
theorem reads_leftOf {c : Tree.Below t} {ns : List (Node Role)}
    (h : leftOf s ls (readers s t) (signOf t) c = .ok ns) :
    Reads s ls (if t.hasToken ":=" then .targets else .exprs) c.1 ns := by
  obtain ⟨ht, h⟩ | ⟨ht, h⟩ := leftOf_eq_ok.1 h
  · rw [if_pos ht]
    exact reads_targets ih h
  · rw [if_neg (Bool.eq_false_iff.1 ht)]
    exact reads_exprList ih h

theorem gives_receive {n : Node Role} (h : receive s ls (readers s t) = .ok n) :
    Gives s ls [n] (gains s (if t.hasToken ":=" then .targets else .exprs) (t.at? .left))
      fun v => one (if t.hasToken ":=" then .targets else .exprs) (t.at? .left) v ++
        one .expr (t.at? .right) v := by
  obtain ⟨x, hx, h⟩ := receive_eq_ok.1 h
  have hr := gives_exprs ih hx
  obtain ⟨hl, rfl⟩ | ⟨c, hc, lhs, hl, rfl⟩ := h
  · rw [hl]
    exact hr.plain rfl rfl
  · exact (Gives.one hc (reads_leftOf ih hl)).assign hr

theorem gives_assignment {n : Node Role} (h : assignment s ls (readers s t) = .ok n) :
    Gives s ls [n] [] fun v => one .exprs (t.at? .left) v ++ one .exprs (t.at? .right) v := by
  obtain ⟨rhs, hr, lhs, hl, op, -, rfl⟩ := assignment_eq_ok.1 h
  exact (gives_slotList ih hl).assign (gives_slotList ih hr)

theorem gives_shortDeclaration {n : Node Role}
    (h : shortDeclaration s ls (readers s t) = .ok n) :
    Gives s ls [n] (gains s .targets (t.at? .left))
      fun v => one .targets (t.at? .left) v ++ one .exprs (t.at? .right) v := by
  obtain ⟨rhs, hr, c, hc, lhs, hl, rfl⟩ := shortDeclaration_eq_ok.1 h
  exact (Gives.one hc (reads_targets ih hl)).assign (gives_slotList ih hr)

/-! Simple statements -/

theorem gives_send {n : Node Role} (h : send ls (readers s t) = .ok n) :
    Gives s ls [n] [] fun v => one .expr (t.at? .channel) v ++ one .expr (t.at? .value) v := by
  obtain ⟨x, hx, y, hy, rfl⟩ := send_eq_ok.1 h
  exact ((gives_exprs ih hx).append_quiet (gives_exprs ih hy)).plain rfl rfl

theorem gives_ret {n : Node Role} (h : ret ls (readers s t) = .ok n) :
    Gives s ls [n] [] (one .exprs t.parts.head?) := by
  obtain ⟨hp, rfl⟩ | ⟨c, hc, xs, hxs, rfl⟩ := ret_eq_ok.1 h
  · rw [hp]
    exact Gives.nil.plain rfl rfl
  · exact (Gives.one_quiet hc rfl (reads_exprList ih hxs)).plain rfl rfl

theorem gives_branch {tok : String} {n : Node Role} (h : branch ls (readers s t) tok = .ok n) :
    Gives s ls [n] [] (one .expr (t.parts.find? (·.1.kind == .expr .labelName))) := by
  obtain ⟨label, hl, rfl⟩ := branch_eq_ok.1 h
  exact (gives_exprs ih hl).plain rfl rfl

theorem gives_labeled {n : Node Role} (h : labeled s ls (readers s t) = .ok n) :
    Gives s ls [n] (gains s .stmt (labeled? t)) fun v =>
      one (.text (.settled true)) (t.at? .label) v ++ one .stmt (labeled? t) v := by
  obtain ⟨c, hc, body, hb, rfl⟩ := labeled_eq_ok.1 h
  have hlabel : Gives s ls [.ident (s.textOf c.1) (.settled true)] []
      (one (.text (.settled true)) (t.at? .label)) := gives_settledSlot true hc
  rw [labeled?_eq hc]
  obtain ⟨hf, rfl⟩ | ⟨d, hd, hx⟩ := hb
  · have he : Gives s ls (t := t) [.empty] [] fun _ => [] := Gives.nil.plain rfl rfl
    rw [hf]
    exact (hlabel.append_quiet he).plain rfl rfl
  · have hx := (ih d).stmt ((readers_stmt s t ls d).symm.trans hx)
    exact (hlabel.append_quiet (.one hd hx)).plain rfl rfl

theorem gives_stmtOpt {o : Option (Tree.Below t)} {x : Option (Node Role)}
    (h : (readers s t).Stmts ls o.toList x.toList) :
    Gives s ls x.toList (gains s .stmt o) (one .stmt o) := by
  have hg := Gives.inTurn (h.imp fun c _ hc =>
    (ih c).stmt ((readers_stmt s t ls c).symm.trans hc))
  have hv : inTurn s .stmt o.toList = one .stmt o := by
    cases o <;> rfl
  rwa [hv] at hg

/-! Branches and loops -/

theorem reads_ifElse {n : Node Role} (hk : t.kind = .stmt .ifStatement)
    (h : ifElse ls (readers s t) = .ok n) : Reads s ls .stmt t [n] := by
  obtain ⟨init, hi, cond, hcond, c, hc, body, hb, orElse, ho, rfl⟩ := ifElse_eq_ok.1 h
  have hc := (gives_exprOpt ih hcond).append_quiet
    (.one_quiet hc rfl (reads_block (fun d => ih (c.trans d)) hb))
  refine reads_scope hk rfl rfl rfl rfl rfl fun v hv => ?_
  rw [(gives_stmtOpt ih hi).ifStmt hc (gives_stmtOpt ih ho) hv]
  simp only [stmtVisits, hk]

/-- A loop that is not over a range: the body sees what the header declares. -/
theorem reads_forStmt {c : Tree.Below t} {body : Node Role} {init cond post : Option (Node Role)}
    (hk : t.kind = .stmt .forStatement) (hc : t.at? .body = some c)
    (hb : block ls (readers s c.1) = .ok body)
    (hr : ∀ header, header? t = some header → header.1.kind ≠ .part .rangeClause)
    (hh : Gives s ls (init.toList ++ cond.toList ++ post.toList) (gains s .header (header? t))
      (one .header (header? t))) : Reads s ls .stmt t [.forStmt body init cond post] := by
  have hb := Gives.one_quiet hc rfl (reads_block (fun d => ih (c.trans d)) hb)
  refine reads_scope hk rfl rfl rfl rfl rfl fun v hv => ?_
  have hs : ((Node.forStmt body init cond post).stands false v.toVisible).flatMap
      Node.Stand.sites =
      Node.sitesAll [body]
        (Node.past (init.toList ++ cond.toList ++ post.toList) v.inside.toVisible) ++
      Node.sitesAll (init.toList ++ cond.toList ++ post.toList) v.inside.toVisible := by
    rw [Node.sitesAll_singleton]
    rfl
  rw [Gives.header hs hh hb hv]
  simp only [stmtVisits, hk, loopVisits]
  cases ho : header? t with
  | none => rw [show one .header (none : Option (Tree.Below t)) v.inside = [] from rfl,
      List.append_nil]
  | some header => simp only [if_neg (hr header ho)]

/-- Of the targets of a range loop two have a place; all of them can declare names. -/
theorem loopTargets_of_leftOf {c : Tree.Below t} {ns : List (Node Role)}
    (h : leftOf s ls (readers s t) (signOf t) c = .ok ns) :
    ∃ ys zs, (∀ top, (ns.take 2).flatMap (Node.binds top false) = ys) ∧
      (∀ top, (ns.drop 2).flatMap (Node.binds top false) = zs) ∧
      ys ++ zs = declared s (if t.hasToken ":=" then .targets else .exprs) c.1 ∧
      ∀ v : Context, v.labels = ls →
        Node.sitesAll (ns.take 2) v.toVisible =
          sites s (.loopTargets (t.hasToken ":=")) c.1 v := by
  obtain ⟨ht, h⟩ | ⟨ht, h⟩ := leftOf_eq_ok.1 h
  · simp only [ht, if_true]
    obtain ⟨hk, hns⟩ | ⟨hk, n, hn, rfl⟩ := targets_eq_ok.1 h
    · have hr := hns.imp fun d n hd => reads_target (fun e => ih (c.trans e)) hd
      have h₁ := Gives.inTurn (List.forall₂_take 2 hr)
      have h₂ := Gives.inTurn (List.forall₂_drop 2 hr)
      refine ⟨_, _, h₁.binds, h₂.binds, ?_, fun v hv => ?_⟩
      · rw [← List.flatMap_append, List.take_append_drop, declared]
        simp [Mode.on, hk]
      · rw [h₁.sites v hv, sites_eq]
        simp [leaf, visits, Mode.on, hk]
    · have hr := reads_target ih hn
      have hl : Mode.targets.on c.1.kind = Mode.target.on c.1.kind := if_neg hk
      have hm : (Mode.loopTargets true).on c.1.kind = Mode.target.on c.1.kind := by
        simp [Mode.on, hk]
      exact ⟨_, [], (hr.congr hl).binds, fun _ => rfl, List.append_nil _, (hr.congr hm).sites⟩
  · simp only [ht, Bool.false_eq_true, if_false, declared_of_isQuiet (m := .exprs) rfl]
    obtain ⟨hk, hns⟩ | ⟨hk, n, hn, rfl⟩ := exprList_eq_ok.1 h
    · have h₁ := gives_exprs (fun d => ih (c.trans d)) (List.forall₂_take 2 hns)
      have h₂ := gives_exprs (fun d => ih (c.trans d)) (List.forall₂_drop 2 hns)
      refine ⟨[], [], h₁.binds, h₂.binds, rfl, fun v hv => ?_⟩
      rw [h₁.sites v hv, sites_eq]
      simp [leaf, visits, Mode.on, hk]
    · have hr := reads_below ih hn
      have hm : (Mode.loopTargets false).on c.1.kind = Mode.expr.on c.1.kind := by
        simp [Mode.on, hk]
      have hd := declared_of_isQuiet (s := s) (m := .expr) rfl c.1
      exact ⟨[], [], fun top => (hr.binds top).trans hd, fun _ => rfl, rfl, (hr.congr hm).sites⟩

theorem reads_range {c header : Tree.Below t} {x body : Node Role} {key value : Option (Node Role)}
    {tok : String} {surplus : List (Node Role)} {ys zs : List String}
    (hk : t.kind = .stmt .forStatement) (hc : t.at? .body = some c)
    (hb : block ls (readers s c.1) = .ok body) (hh : header? t = some header)
    (hr : header.1.kind = .part .rangeClause)
    (hx : Gives s ls [x] [] (one .expr ((header.1.at? .right).map header.trans)))
    (ht : Gives s ls (key.toList ++ value.toList) ys
      (one (.loopTargets (header.1.hasToken ":=")) ((header.1.at? .left).map header.trans)))
    (hs : ∀ top, surplus.flatMap (Node.binds top false) = zs)
    (hg : gains s .header (header? t) = ys ++ zs) :
    Reads s ls .stmt t [.range x body key value tok surplus] := by
  have hb := Gives.one_quiet hc rfl (reads_block (fun d => ih (c.trans d)) hb)
  refine reads_scope hk rfl rfl rfl rfl rfl fun v hv => ?_
  rw [hx.range ht hs hb hv, ← hg]
  simp only [stmtVisits, hk, loopVisits, hh, if_pos hr]

theorem reads_rangeLoop {c header : Tree.Below t} {n : Node Role}
    (hk : t.kind = .stmt .forStatement) (hc : t.at? .body = some c)
    (hh : header? t = some header) (hr : header.1.kind = .part .rangeClause)
    (h : rangeLoop s ls ((readers s t).under header) (block ls ((readers s t).under c)) = .ok n) :
    Reads s ls .stmt t [n] := by
  have hg : gains s .header (header? t) =
      if header.1.hasToken ":=" then gains s .targets (header.1.at? .left) else [] := by
    rw [hh, gains, Option.toList_some, List.flatMap_singleton, declared]
    simp only [Mode.on, hr, true_or, if_true]
    rfl
  obtain ⟨x, hx, body, hb, h⟩ := rangeLoop_eq_ok.1 h
  have hx := gives_exprOpt ih (Readers.under_exprOpt.1 hx)
  obtain ⟨hl, rfl⟩ | ⟨e, he, key, rest, hns, rfl⟩ := h
  · have ht : Gives s ls [] []
        (one (.loopTargets (header.1.hasToken ":=")) ((header.1.at? .left).map header.trans)) := by
      rw [hl]
      exact .nil
    refine reads_range ih hk hc hb hh hr hx ht (fun _ => List.flatMap_nil) ?_
    rw [hg, hl]
    split <;> rfl
  · obtain ⟨ys, zs, hys, hzs, hd, hsites⟩ :=
      loopTargets_of_leftOf (fun d => ih (header.trans d)) hns
    have htake : (some key).toList ++ rest.head?.toList = (key :: rest).take 2 := by
      cases rest <;> rfl
    have hdrop : rest.tail = (key :: rest).drop 2 := by
      cases rest <;> rfl
    have ht : Gives s ls ((some key).toList ++ rest.head?.toList) ys
        (one (.loopTargets (header.1.hasToken ":="))
          ((header.1.at? .left).map header.trans)) := by
      rw [htake, he]
      refine ⟨hys, fun v hv => (hsites v hv).trans ?_⟩
      exact (List.append_nil _).symm
    refine reads_range ih hk hc hb hh hr hx ht (fun top => hdrop ▸ hzs top) ?_
    rw [hg, he, hd]
    split
    · exact List.append_nil _
    · exact (declared_of_isQuiet rfl e.1).symm

/-- The three clauses of a header, in turn. -/
theorem reads_clauses {init cond post : Option (Node Role)} (hk : t.kind = .part .forClause)
    (hi : (readers s t).Stmts ls (t.at? .initializer).toList init.toList)
    (hc : (readers s t).Exprs ls (t.at? .condition).toList cond.toList)
    (hp : (readers s t).Stmts ls (t.at? .update).toList post.toList) :
    Reads s ls .header t (init.toList ++ cond.toList ++ post.toList) := by
  have hg := ((gives_stmtOpt ih hi).append (gives_exprs ih hc)).append (gives_stmtOpt ih hp)
  rw [List.append_nil] at hg
  refine hg.reads ?_ ?_ ?_
  · rw [declared]
    simp only [Mode.on, hk]
    rfl
  · intro v
    rw [leaf, hk]
    rfl
  · intro v
    simp only [visits, Mode.on, hk]
    rfl

theorem reads_loop {n : Node Role} (hk : t.kind = .stmt .forStatement)
    (h : loop s ls (readers s t) = .ok n) : Reads s ls .stmt t [n] := by
  obtain ⟨c, hc, h⟩ := loop_eq_ok.1 h
  rw [← header?_eq hc] at h
  obtain ⟨hn, body, hb, rfl⟩ | ⟨header, hs, h⟩ := h
  · refine reads_forStmt ih hk hc hb ?_ ?_
    · rw [hn]
      nofun
    · exact .none hn
  obtain ⟨hr, h⟩ | ⟨hf, h⟩ | ⟨hr, hf, cond, hcond, body, hb, rfl⟩ := h
  · exact reads_rangeLoop ih hk hc hs hr h
  · obtain ⟨init, hi, cond, hcond, post, hp, body, hb, rfl⟩ := clauseLoop_eq_ok.1 h
    refine reads_forStmt ih hk hc hb ?_ ?_
    · intro header' hs' hr
      cases hs.symm.trans hs'
      rw [hf] at hr
      cases hr
    · exact .one hs (reads_clauses (fun d => ih (header.trans d)) hf hi hcond hp)
  · refine reads_forStmt ih hk hc hb ?_ ?_
    · intro header' hs' hr'
      cases hs.symm.trans hs'
      exact hr hr'
    · have hm : Mode.header.on header.1.kind = Mode.expr.on header.1.kind :=
        if_neg (not_or.2 ⟨hr, hf⟩)
      exact .one hs ((reads_below ih hcond).congr hm)

/-! Clauses -/

omit ih in
/-- A clause reads what it compares with, and then its body, in a scope of its own. -/
theorem reads_clause {m : Mode} {n : Node Role} {ns : List (Node Role)} {xs : List String}
    {vs : Context → List (Visit t)} (hm : m.on t.kind = .clause ∨ m.on t.kind = .commClause)
    (hd : decides s t = true) (hn : n.decides = true) (hb : n.bindsInTurn = true)
    (ht : n.turns = []) (hs : ∀ v, n.stands false v = Node.inTurn ns v.inside)
    (hg : Gives s ls ns xs vs) (hv : ∀ v, visits s m t v = vs v.inside) :
    Reads s ls m t [n] := by
  have hc : n.isCompound = true := by
    cases n <;> first | rfl | cases hn
  apply Reads.of_stands
  · intro top
    rw [Node.binds_eq_flatMap_turns _ _ hb, ht, declared]
    obtain hm | hm := hm <;> simp [hm]
  · intro v _
    rw [Node.ownSites_of_isCompound hc, hn, leaf]
    obtain hm | hm := hm <;> simp [hm, hd]
  · intro v hls
    rw [hs, hv]
    exact hg.sites v.inside hls

theorem gives_caseExprs {exprs : Option (List (Node Role))}
    (h : caseExprs ls (readers s t) = .ok exprs) :
    Gives s ls (exprs.getD []) [] fun v =>
      match t.kind with
      | .part .defaultCase => []
      | .part .typeCase => each .expr (t.allAt .type) v
      | _ => one .exprs (t.at? .value) v := by
  obtain ⟨hd, rfl⟩ | ⟨ht, xs, hxs, rfl⟩ | ⟨hd, ht, xs, hxs, rfl⟩ := caseExprs_eq_ok.1 h
  · simp only [hd]
    exact .nil
  · simp only [ht]
    exact gives_exprs ih hxs
  · split
    · contradiction
    · contradiction
    · exact gives_slotList ih hxs

theorem reads_caseClause {n : Node Role} (hd : decides s t = true)
    (h : caseClause ls (readers s t) = .ok n) : Reads s ls .clause t [n] := by
  obtain ⟨exprs, he, body, hb, rfl⟩ := caseClause_eq_ok.1 h
  exact reads_clause (.inl rfl) hd rfl rfl rfl (fun _ => rfl)
    ((gives_caseExprs ih he).append_quiet (gives_body ih hb)) fun _ => rfl

theorem reads_commClause {n : Node Role} (hd : decides s t = true)
    (h : commClause ls (readers s t) = .ok n) : Reads s ls .commClause t [n] := by
  obtain ⟨comm, hc, body, hb, rfl⟩ := commClause_eq_ok.1 h
  exact reads_clause (.inr rfl) hd rfl rfl rfl (fun _ => rfl)
    ((gives_stmtOpt ih hc).append (gives_body ih hb)) fun _ => rfl

omit ih in
/-- The clauses of one kind and the default clauses are decisions. -/
theorem gives_clauses {m : Mode} {k : PartKind} {clause : (c : Tree.Below t) → Result}
    {n : Node Role} (hq : m.isQuiet = true)
    (hk : k = .expressionCase ∨ k = .typeCase ∨ k = .communicationCase)
    (hr : ∀ c n, decides s c.1 = true → clause c = .ok n → Reads s ls m c.1 [n])
    (h : Draft.clauses k clause = .ok n) :
    Gives s ls [n] [] fun v => each m (clauses k t) v.inside := by
  obtain ⟨ns, hns, rfl⟩ := clauses_eq_ok.1 h
  have hd : ∀ c ∈ clauses k t, decides s c.1 = true := by
    intro c hc
    have hp := (List.mem_filter.1 hc).2
    obtain hkind | hkind := of_decide_eq_true hp
    · obtain rfl | rfl | rfl := hk <;> simp only [decides, hkind]
    · simp only [decides, hkind]
  have hf := ((List.forall₂_and_left _ _).2 ⟨hd, hns⟩).imp fun c n hc => hr c n hc.1 hc.2
  exact (Gives.each_quiet hq hf).block

/-- What a switch reads before its clauses. -/
theorem reads_switch {n : Node Role} (hk : t.kind = .stmt .expressionSwitchStatement)
    (h : switch ls (readers s t) = .ok n) : Reads s ls .stmt t [n] := by
  obtain ⟨init, hi, tag, ht, body, hb, rfl⟩ := switch_eq_ok.1 h
  have hh := (gives_stmtOpt ih hi).append (gives_exprOpt ih ht)
  rw [List.append_nil] at hh
  have hb := gives_clauses (m := .clause) rfl (.inl rfl)
    (fun c n hd hc => reads_caseClause (fun d => ih (c.trans d)) hd hc) hb
  refine reads_scope hk rfl rfl rfl rfl rfl fun v hv => ?_
  have hs : ((Node.switch body init tag).stands false v.toVisible).flatMap Node.Stand.sites =
      Node.sitesAll [body] (Node.past (init.toList ++ tag.toList) v.inside.toVisible) ++
        Node.sitesAll (init.toList ++ tag.toList) v.inside.toVisible := by
    rw [Node.sitesAll_singleton]
    rfl
  have hv₂ := Context.inside_eq_self (v := v.inside.declare (gains s .stmt (t.at? .initializer)))
    (Visible.top_declare ..)
  rw [Gives.header hs hh hb hv]
  simp only [stmtVisits, hk, hv₂, List.append_assoc]

theorem gives_guard {n : Node Role} (h : Draft.guard s ls (readers s t) = .ok n) :
    Gives s ls [n] (gains s .targets (t.at? .alias)) fun v =>
      one .targets (t.at? .alias) v ++ one .expr (t.at? .value) v := by
  obtain ⟨x, hx, h⟩ := guard_eq_ok.1 h
  have hx : Gives s ls [.typeAssert x none (t.hasToken "(") (t.hasToken ")")] []
      (one .expr (t.at? .value)) := (gives_exprs ih hx).plain rfl rfl
  obtain ⟨ha, rfl⟩ | ⟨c, hc, lhs, hl, rfl⟩ := h
  · rw [ha]
    exact hx.plain rfl rfl
  · exact (Gives.one hc (reads_targets ih hl)).assign hx

theorem reads_typeSwitch {n : Node Role} (hk : t.kind = .stmt .typeSwitchStatement)
    (h : typeSwitch s ls (readers s t) = .ok n) : Reads s ls .stmt t [n] := by
  obtain ⟨init, hi, guard, hg, body, hb, rfl⟩ := typeSwitch_eq_ok.1 h
  have hb := gives_clauses (m := .clause) rfl (.inr (.inl rfl))
    (fun c n hd hc => reads_caseClause (fun d => ih (c.trans d)) hd hc) hb
  have hn := (gives_guard ih hg).append hb
  rw [List.append_nil] at hn
  refine reads_scope hk rfl rfl rfl rfl rfl fun v hv => ?_
  have hs : ((Node.typeSwitch guard body init).stands false v.toVisible).flatMap
      Node.Stand.sites =
      Node.sitesAll [guard, body] (Node.past init.toList v.inside.toVisible) ++
        Node.sitesAll init.toList v.inside.toVisible := by
    simp only [Node.stands, List.flatMap_append]
    rfl
  have hv₂ := Context.inside_eq_self
    (v := (v.inside.declare (gains s .stmt (t.at? .initializer))).declare
      (gains s .targets (t.at? .alias))) (by simp)
  rw [Gives.header hs (gives_stmtOpt ih hi) hn hv]
  simp only [stmtVisits, hk, hv₂]

theorem gives_select {n : Node Role} (h : select ls (readers s t) = .ok n) :
    Gives s ls [n] [] fun v => each .commClause (clauses .communicationCase t) v.inside := by
  obtain ⟨body, hb, rfl⟩ := select_eq_ok.1 h
  have hb := gives_clauses (m := .commClause) rfl (.inr (.inr rfl))
    (fun c n hd hc => reads_commClause (fun d => ih (c.trans d)) hd hc) hb
  exact hb.plain rfl rfl

theorem reads_stmtKind {k : StmtKind} {n : Node Role} (hk : t.kind = .stmt k)
    (h : Draft.stmt s ls (readers s t) = .ok n) : Reads s ls .stmt t [n] := by
  simp only [Draft.stmt, hk] at h
  cases k with
  | expressionStatement | incStatement | decStatement | goStatement | deferStatement =>
      have hg := gives_wrapped ih (fun _ => rfl) (fun _ => rfl) (fun _ => rfl) h
      refine hg.reads_simple hk rfl rfl fun v => ?_
      simp only [stmtVisits, hk]
  | sendStatement =>
      refine (gives_send ih h).reads_simple hk rfl rfl fun v => ?_
      simp only [stmtVisits, hk]
  | receiveStatement =>
      refine (gives_receive ih h).reads_stmt hk rfl ?_ fun v => ?_
      · rw [declared, hk]
        simp only [Mode.on, Mode.atStmt]
        cases t.hasToken ":="
        · exact (gains_eq_nil _ fun c => declared_of_isQuiet rfl c.1).symm
        · rfl
      · simp only [stmtVisits, hk]
  | assignmentStatement =>
      refine (gives_assignment ih h).reads_simple hk rfl rfl fun v => ?_
      simp only [stmtVisits, hk]
  | shortVarDeclaration =>
      refine (gives_shortDeclaration ih h).reads_stmt hk rfl ?_ fun v => ?_
      · rw [declared, hk]
        rfl
      · simp only [stmtVisits, hk]
  | returnStatement =>
      refine (gives_ret ih h).reads_simple hk rfl rfl fun v => ?_
      simp only [stmtVisits, hk]
  | breakStatement | continueStatement | gotoStatement | fallthroughStatement =>
      refine (gives_branch ih h).reads_simple hk rfl rfl fun v => ?_
      simp only [stmtVisits, hk]
  | labeledStatement | emptyLabeledStatement =>
      refine (gives_labeled ih h).reads_stmt hk rfl ?_ fun v => ?_
      · rw [declared, hk]
        rfl
      · simp only [stmtVisits, hk]
  | ifStatement => exact reads_ifElse ih hk h
  | forStatement => exact reads_loop ih hk h
  | expressionSwitchStatement => exact reads_switch ih hk h
  | typeSwitchStatement => exact reads_typeSwitch ih hk h
  | selectStatement =>
      refine (gives_select ih h).reads_simple hk rfl rfl fun v => ?_
      simp only [stmtVisits, hk]
  | block =>
      refine (gives_block ih h).reads_simple hk rfl rfl fun v => ?_
      simp only [stmtVisits, hk]
  | emptyStatement =>
      cases h
      have hg : Gives s ls (t := t) [.empty] [] fun _ => [] := Gives.nil.plain rfl rfl
      refine hg.reads_simple hk rfl rfl fun v => ?_
      simp only [stmtVisits, hk]

/-- Every statement is read as the table says. -/
theorem reads_stmt {n : Node Role} (h : Draft.stmt s ls (readers s t) = .ok n) :
    Reads s ls .stmt t [n] := by
  obtain ⟨k, hk⟩ | ⟨k, hk⟩ | ⟨k, hk⟩ := kind_of_stmt h
  · obtain ⟨x, hx, rfl⟩ := (stmt_of_expr hk).1 h
    exact Reads.plain rfl rfl ((reads_expr ih hx).congr (by rw [hk]; rfl))
  · obtain ⟨d, hd, rfl⟩ := (stmt_of_decl hk).1 h
    exact Reads.plain rfl rfl (reads_genDecl ih hk hd)
  · exact reads_stmtKind ih hk h

/-- Lists of statements are read as their statements. -/
theorem reads_stmts {ns : List (Node Role)} (h : Draft.stmts s ls (readers s t) = .ok ns) :
    Reads s ls .stmts t ns := by
  obtain ⟨hk, body, hb, rfl⟩ | ⟨hk, n, hn, rfl⟩ := stmts_eq_ok.1 h
  · have hm : Mode.stmts.on t.kind = .stmts := if_pos hk
    refine (gives_body ih hb).reads ?_ (leaf_eq_nil hm rfl) fun v => ?_
    · rw [declared, hm]
    · rw [visits, hm]
  · exact (reads_stmt ih hn).congr (if_neg hk)

end

/-- Every tree is read as the table says. -/
theorem sound (s : Source) (t : Tree) : Sound s t :=
  have ih : ∀ c : Tree.Below t, Sound s c.1 := fun c => sound s c.1
  ⟨reads_expr ih, reads_stmt ih, reads_stmts ih⟩
termination_by t.size
decreasing_by exact c.2

/-! Functions -/

theorem gives_receiver {recv : Option (List (Node Role))}
    (h : receiver s ls (readers s t) = .ok recv) :
    Gives s ls (recv.getD [])
      (gains s .params (if t.kind = .methodDeclaration then t.at? .receiver else none))
      (one .params (if t.kind = .methodDeclaration then t.at? .receiver else none)) := by
  obtain ⟨hk, h⟩ | ⟨hk, rfl⟩ := receiver_eq_ok.1 h
  · rw [if_pos hk]
    obtain ⟨hr, rfl⟩ | ⟨c, hc, ps, hps, rfl⟩ := h
    · exact .none hr
    · exact .one hc (reads_params (fun d => sound s d.1) hps)
  · rw [if_neg hk]
    exact .nil

end GoMetrics.Lexical
