import GoMetrics.Proofs.Draft.Exprs
import GoMetrics.Proofs.Lexical.Reads

/-!
Expressions and types are read as the table of visits says: one lemma for each construct, under the
assumption that all smaller trees are read so.
-/

namespace GoMetrics.Lexical

open Draft

namespace Mode

/-- Modes in which no node leaves a name in force. -/
def isQuiet : Mode → Bool
  | .text role => role != .binds
  | .param | .params | .result | .targets | .target | .loopTargets _ | .spec | .specs | .stmts
  | .stmt | .header => false
  | _ => true

theorem isQuiet_atExpr (k : Kind) : (atExpr k).isQuiet = true := by
  unfold atExpr
  split <;> rfl

theorem isQuiet_atKey (k : Kind) : (atKey k).isQuiet = true := by
  unfold atKey
  split
  · rfl
  · rfl
  · exact isQuiet_atExpr k

theorem isQuiet_on {m : Mode} (h : m.isQuiet = true) (k : Kind) : (m.on k).isQuiet = true := by
  have expr := isQuiet_atExpr k
  have key := isQuiet_atKey k
  cases m with
  | param | params | result | targets | target | loopTargets | spec | specs | stmts | stmt
  | header => cases h
  | expr => exact expr
  | bareKey => exact key
  | exprs | arg | member =>
      rw [on]
      split
      · rfl
      · exact expr
  | element =>
      rw [on]
      split
      · rfl
      split
      · rfl
      · exact expr
  | key =>
      rw [on]
      split
      · rfl
      · exact key
  | _ => exact h

/-- Modes in which a node is measured by its parts alone. -/
def isBare : Mode → Bool
  | .text _ | .expr | .stmt | .clause | .commClause => false
  | _ => true

end Mode

variable {s : Source} {ls : List String} {t : Tree}

theorem leaf_eq_nil {m m' : Mode} (hm : m.on t.kind = m') (hb : m'.isBare = true) (v : Context) :
    leaf s m t v = [] := by
  rw [leaf, hm]
  cases m' <;> first | rfl | cases hb

theorem declared_of_isQuiet {m : Mode} (h : m.isQuiet = true) (t : Tree) :
    declared s m t = [] := by
  have hm := Mode.isQuiet_on h t.kind
  rw [declared]
  split <;> simp_all [Mode.isQuiet]

/-- A node that is no site by itself, read in a mode that declares nothing. -/
theorem Gives.reads_quiet {m : Mode} {ns : List (Node Role)} {vs : Context → List (Visit t)}
    (h : Gives s ls ns [] vs) (hq : m.isQuiet = true) (hl : ∀ v, leaf s m t v = [])
    (hv : ∀ v, visits s m t v = vs v) : Reads s ls m t ns :=
  h.reads (declared_of_isQuiet hq t) hl hv

/-- Parts that are read in a mode that declares nothing. -/
theorem Gives.each_quiet {m : Mode} {cs : List (Tree.Below t)} {ns : List (Node Role)}
    (hq : m.isQuiet = true) (h : List.Forall₂ (fun c n => Reads s ls m c.1 [n]) cs ns) :
    Gives s ls ns [] (Lexical.each m cs) :=
  .each (fun c => declared_of_isQuiet hq c.1) h

theorem Gives.one_quiet {m : Mode} {o : Option (Tree.Below t)} {c : Tree.Below t}
    {ns : List (Node Role)} (hc : o = some c) (hq : m.isQuiet = true)
    (h : Reads s ls m c.1 ns) : Gives s ls ns [] (Lexical.one m o) := by
  have hg := Gives.one hc h
  rwa [gains_eq_nil o fun d => declared_of_isQuiet hq d.1] at hg

/-- All readings of a tree are as the table says. -/
structure Sound (s : Source) (t : Tree) : Prop where
  expr : ∀ {ls n}, Draft.expr s ls (readers s t) = .ok n → Reads s ls .expr t [n]
  stmt : ∀ {ls n}, Draft.stmt s ls (readers s t) = .ok n → Reads s ls .stmt t [n]
  stmts : ∀ {ls ns}, Draft.stmts s ls (readers s t) = .ok ns → Reads s ls .stmts t ns

/-! Names -/

theorem sites_ident (sig : Bool) (x : String) (role : Role) (v : Visible) :
    (Node.ident x role).sites sig v = [.ofRole x v role] := by
  rw [Node.sites_eq]
  rfl

theorem sites_text (role : Role) (t : Tree) (v : Context) :
    sites s (.text role) t v = [.ofRole (s.textOf t) v.toVisible role] := by
  rw [sites_eq]
  rfl

theorem reads_text (role : Role) (t : Tree) :
    Reads s ls (.text role) t [.ident (s.textOf t) role] := by
  constructor
  · intro top
    rw [List.flatMap_singleton, Node.binds, declared]
    cases role <;> rfl
  · intro v _
    rw [Node.sitesAll_singleton, sites_ident, sites_text]

/-- Identifiers that depend on nothing are measured alike wherever they stand. -/
theorem sitesAll_texts {role : Role} (hr : ∀ x v w, Site.ofRole x v role = Site.ofRole x w role)
    (cs : List (Tree.Below t)) (v : Visible) (w : Context) :
    Node.sitesAll (cs.map fun c => .ident (s.textOf c.1) role) v =
      (each (.text role) cs w).flatMap (Visit.sites s) := by
  induction cs generalizing v with
  | nil => rfl
  | cons c cs ih =>
      have hc : Visit.sites s ⟨.text role, c, w⟩ = [Site.ofRole (s.textOf c.1) w.toVisible role] :=
        sites_text role c.1 w
      rw [List.map_cons, Node.sitesAll_cons, ih, sites_ident, hr _ v w.toVisible, ← hc]
      rfl

/-- Names that a construct declares. -/
theorem gives_names (t : Tree) :
    Gives s ls (bindings (names s t)) (names s t) (each (.text .binds) (t.allAt .name)) := by
  have hn : bindings (names s t) = (t.allAt .name).map fun c => .ident (s.textOf c.1) .binds := by
    simp [bindings, names]
  constructor
  · intro top
    simp [bindings, Node.binds, List.flatMap_map]
  · intro v _
    rw [hn]
    exact sitesAll_texts (fun _ _ _ => rfl) _ _ _

/-- Names that stand for themselves. -/
theorem gives_settled (b : Bool) (cs : List (Tree.Below t)) :
    Gives s ls (cs.map fun c => .ident (s.textOf c.1) (.settled b)) []
      (each (.text (.settled b)) cs) := by
  constructor
  · intro top
    simp [Node.binds, List.flatMap_map]
  · intro v _
    exact sitesAll_texts (fun _ _ _ => rfl) _ _ _

theorem gives_settledSlot (b : Bool) {o : Option (Tree.Below t)} {c : Tree.Below t}
    (hc : o = some c) :
    Gives s ls [.ident (s.textOf c.1) (.settled b)] [] (one (.text (.settled b)) o) := by
  subst hc
  exact gives_settled b [c]

/-- Kinds of expressions that are read as their parts say. -/
def isCompound : ExprKind → Bool
  | .identifier | .typeIdentifier | .packageIdentifier | .nilName | .trueName | .falseName
  | .iotaName | .fieldIdentifier | .labelName | .blankIdentifier | .binaryExpression => false
  | _ => true

theorem Gives.reads_expr {ns : List (Node Role)} {vs : Context → List (Visit t)} {k : ExprKind}
    (h : Gives s ls ns [] vs) (hk : t.kind = .expr k) (hc : isCompound k = true)
    (hv : ∀ v, exprVisits s t v = vs v) : Reads s ls .expr t ns := by
  have hm : Mode.expr.on t.kind = .expr := by
    rw [hk]
    cases k <;> first | rfl | cases hc
  refine h.reads_quiet rfl ?_ ?_
  · intro v
    rw [leaf, hm, decides, hk]
    cases k <;> first | rfl | cases hc
  · intro v
    rw [visits, hm, ← hv]

section

variable (ih : ∀ c : Tree.Below t, Sound s c.1)
include ih

theorem reads_below {c : Tree.Below t} {n : Node Role} (h : (readers s t).expr ls c = .ok n) :
    Reads s ls .expr c.1 [n] :=
  (ih c).expr ((readers_expr s t ls c).symm.trans h)

theorem gives_exprs {cs : List (Tree.Below t)} {ns : List (Node Role)}
    (h : (readers s t).Exprs ls cs ns) : Gives s ls ns [] (each .expr cs) :=
  .each_quiet rfl (h.imp fun _ _ hc => reads_below ih hc)

theorem gives_exprOpt {o : Option (Tree.Below t)} {ns : List (Node Role)}
    (h : (readers s t).Exprs ls o.toList ns) : Gives s ls ns [] (one .expr o) :=
  gives_exprs ih h

/-- A construct around its first part. -/
theorem gives_wrapped {g : Node Role → Node Role} {n : Node Role}
    (hp : ∀ x, (g x).isPlain = true) (hd : ∀ x, (g x).decides = false)
    (hg : ∀ x, (g x).places = [x])
    (h : (do return g (← (readers s t).expr ls (← first t)) : Result) = .ok n) :
    Gives s ls [n] [] (one .expr t.parts.head?) := by
  obtain ⟨x, hx, rfl⟩ := wrapped_eq_ok.1 h
  exact Gives.plain (hp x) (hd x) ((hg x).symm ▸ gives_exprs ih hx)

/-! Operands and operators -/

theorem gives_selector {n : Node Role} (h : selector s ls (readers s t) = .ok n) :
    Gives s ls [n] [] fun v =>
      one .expr (t.at? .operand) v ++ one (.text (.settled false)) (t.at? .field) v := by
  obtain ⟨x, hx, name, hname, rfl⟩ := selector_eq_ok.1 h
  obtain ⟨c, hc, rfl⟩ := slotText_eq_ok.1 hname
  exact ((gives_exprs ih hx).append_quiet (gives_settledSlot false hc)).plain rfl rfl

theorem gives_index {n : Node Role} (h : index ls (readers s t) = .ok n) :
    Gives s ls [n] [] fun v =>
      one .expr (t.at? .operand) v ++ each .expr (t.allAt .index) v := by
  obtain ⟨x, hx, is, his, rfl⟩ := index_eq_ok.1 h
  exact ((gives_exprs ih hx).append_quiet (gives_exprs ih his)).plain rfl rfl

theorem gives_slice {n : Node Role} (h : slice ls (readers s t) = .ok n) :
    Gives s ls [n] [] fun v =>
      one .expr (t.at? .operand) v ++ (one .expr (t.at? .start) v ++ one .expr (t.at? .stop) v ++
        one .expr (t.at? .capacity) v) := by
  obtain ⟨x, hx, low, hl, high, hh, max, hm, rfl⟩ := slice_eq_ok.1 h
  have hg := ((gives_exprs ih hl).append_quiet (gives_exprs ih hh)).append_quiet
    (gives_exprs ih hm)
  exact ((gives_exprs ih hx).append_quiet hg).plain rfl rfl

theorem gives_typeAssertion {n : Node Role} (h : typeAssertion ls (readers s t) = .ok n) :
    Gives s ls [n] [] fun v =>
      one .expr (t.at? .operand) v ++ one .expr (t.at? .type) v := by
  obtain ⟨x, hx, y, hy, rfl⟩ := typeAssertion_eq_ok.1 h
  exact ((gives_exprs ih hx).append_quiet (gives_exprs ih hy)).plain rfl rfl

theorem gives_conversion {n : Node Role} (h : conversion ls (readers s t) = .ok n) :
    Gives s ls [n] [] fun v =>
      one .expr (t.at? .type) v ++ one .expr (t.at? .operand) v := by
  obtain ⟨x, hx, y, hy, rfl⟩ := conversion_eq_ok.1 h
  exact ((gives_exprs ih hx).append_quiet (gives_exprs ih hy)).plain rfl rfl

theorem gives_instantiation {n : Node Role} (h : instantiation ls (readers s t) = .ok n) :
    Gives s ls [n] [] (each .expr t.parts) := by
  obtain ⟨x, is, hx, rfl⟩ := instantiation_eq_ok.1 h
  exact (gives_exprs ih hx).plain rfl rfl

theorem gives_unary {n : Node Role} (h : unary s ls (readers s t) = .ok n) :
    Gives s ls [n] [] (one .expr (t.at? .operand)) := by
  obtain ⟨op, -, x, hx, rfl⟩ := unary_eq_ok.1 h
  split <;> exact (gives_exprs ih hx).plain rfl rfl

theorem reads_binary {n : Node Role} (hk : t.kind = .expr .binaryExpression)
    (h : binary s ls (readers s t) = .ok n) : Reads s ls .expr t [n] := by
  obtain ⟨x, hx, op, hop, y, hy, rfl⟩ := binary_eq_ok.1 h
  obtain ⟨d, hd, hop⟩ := slotText_eq_ok.1 hop
  have hg := (gives_exprs ih hx).append_quiet (gives_exprs ih hy)
  have hm : Mode.expr.on t.kind = .expr := by
    rw [hk]
    rfl
  apply Reads.of_stands
  · intro top
    rw [Node.binds_of_isPlain top false rfl, declared_of_isQuiet rfl]
    exact hg.binds top
  · intro v _
    rw [leaf, hm, decides, hk, hd, Option.any_some, hop]
    rfl
  · intro v hv
    rw [visits, hm]
    simp only [exprVisits, hk]
    exact hg.sites v hv

theorem gives_union {n : Node Role} (h : union ls (readers s t) = .ok n) :
    Gives s ls [n] [] (each .expr t.parts) := by
  have join : ∀ (terms : List (Node Role)) (x : Node Role) (vs : Context → List (Visit t)),
      Gives s ls (x :: terms) [] vs →
        Gives s ls [terms.foldl (fun union term => .binary union "|" term) x] [] vs := by
    intro terms
    induction terms with
    | nil => exact fun x vs hx => hx
    | cons y terms ihy =>
        intro x vs hx
        exact ihy _ vs (Gives.plain_cons rfl rfl hx)
  obtain ⟨x, rest, hx, rfl⟩ := union_eq_ok.1 h
  exact join rest x _ (gives_exprs ih hx)

/-! Arguments and elements -/

theorem reads_exprList {c : Tree.Below t} {ns : List (Node Role)}
    (h : exprList ls (readers s t) c = .ok ns) : Reads s ls .exprs c.1 ns := by
  obtain ⟨hk, hxs⟩ | ⟨hk, x, hx, rfl⟩ := exprList_eq_ok.1 h
  · have hm : Mode.exprs.on c.1.kind = .exprs := if_pos hk
    refine (gives_exprs (fun d => ih (c.trans d)) hxs).reads_quiet rfl
      (leaf_eq_nil hm rfl) fun v => ?_
    rw [visits, hm]
  · exact (reads_below ih hx).congr (if_neg hk)

theorem gives_slotList {p : Slot} {ns : List (Node Role)}
    (h : slotList ls (readers s t) p = .ok ns) : Gives s ls ns [] (one .exprs (t.at? p)) := by
  obtain ⟨hp, rfl⟩ | ⟨c, hp, hc⟩ := slotList_eq_ok.1 h
  · rw [hp]
    exact .nil
  · exact .one_quiet hp rfl (reads_exprList ih hc)

/-- Type arguments, or any node whose parts are all expressions. -/
theorem reads_operands {ns : List (Node Role)} (h : (readers s t).Exprs ls t.parts ns) :
    Reads s ls .operands t ns :=
  (gives_exprs ih h).reads_quiet rfl (fun _ => rfl) fun _ => rfl

theorem gives_applied {x n : Node Role} {c : Tree.Below t} {o : Option (Tree.Below t)}
    {vs : Context → List (Visit t)} (hx : Gives s ls [x] [] vs) (hc : o = some c)
    (h : applied ls (readers s t) x c = .ok n) :
    Gives s ls [n] [] fun v => vs v ++ one .operands o v := by
  obtain ⟨args, ha, rfl⟩ := applied_eq_ok.1 h
  have hg := Gives.one_quiet hc rfl (reads_operands (fun d => ih (c.trans d)) ha)
  exact (hx.append_quiet hg).plain rfl rfl

theorem reads_argument {c : Tree.Below t} {n : Node Role}
    (h : argument ls (readers s t) c = .ok n) : Reads s ls .arg c.1 [n] := by
  obtain ⟨hk, hn⟩ | ⟨hk, hn⟩ := argument_eq_ok.1 h
  · have hm : Mode.arg.on c.1.kind = .arg := if_pos hk
    refine (gives_exprs (fun d => ih (c.trans d)) hn).reads_quiet rfl
      (leaf_eq_nil hm rfl) fun v => ?_
    rw [visits, hm]
    rfl
  · exact (reads_below ih hn).congr (if_neg hk)

theorem reads_arguments {ns : List (Node Role)}
    (h : List.Forall₂ (fun c n => argument ls (readers s t) c = .ok n) t.parts ns) :
    Reads s ls .args t ns := by
  have hr := h.imp fun c _ hc => reads_argument ih hc
  exact (Gives.each_quiet rfl hr).reads_quiet rfl (fun _ => rfl) fun _ => rfl

theorem gives_call {n : Node Role} (h : call ls (readers s t) = .ok n) :
    Gives s ls [n] [] fun v =>
      one .expr (t.at? .function) v ++ one .operands (t.at? .typeArguments) v ++
        one .args (t.at? .arguments) v := by
  obtain ⟨x, hx, fn, hfn, list, hl, args, ha, rfl⟩ := call_eq_ok.1 h
  have hx := gives_exprs ih hx
  have hf : Gives s ls [fn] [] fun v =>
      one .expr (t.at? .function) v ++ one .operands (t.at? .typeArguments) v := by
    obtain ⟨ht, rfl⟩ | ⟨types, ht, hfn⟩ := hfn
    · rw [ht]
      exact hx.append_quiet .nil
    · exact gives_applied ih hx ht hfn
  have hg := Gives.one_quiet hl rfl (reads_arguments (fun d => ih (list.trans d)) ha)
  exact (hf.append_quiet hg).plain rfl rfl

/-- An element without its wrapper. -/
theorem reads_element {c : Tree.Below t} {n : Node Role}
    (h : element ls (readers s t) c = .ok n) : Reads s ls .element c.1 [n] := by
  obtain ⟨hl, hn⟩ | ⟨hl, hn⟩ := element_eq_ok.1 h
  · have hm : Mode.element.on c.1.kind = .element := by
      rw [hl]
      rfl
    refine (gives_exprs (fun d => ih (c.trans d)) hn).reads_quiet rfl
      (leaf_eq_nil hm rfl) fun v => ?_
    rw [visits, hm]
    rfl
  · obtain ⟨k, hk⟩ := kind_of_expr ((readers_expr s t ls c).symm.trans hn)
    exact (reads_below ih hn).congr (by rw [hk]; rfl)

theorem reads_elementKey {c : Tree.Below t} {n : Node Role}
    (h : elementKey s ls (readers s t) c = .ok n) : Reads s ls .bareKey c.1 [n] := by
  obtain ⟨hk | hk, rfl⟩ | ⟨hi, hf, hn⟩ := elementKey_eq_ok.1 h
  · exact (reads_text .key c.1).congr (by rw [hk]; rfl)
  · exact (reads_text .key c.1).congr (by rw [hk]; rfl)
  · exact (reads_below ih hn).congr (Mode.on_bareKey hi hf)

theorem reads_key {c d : Tree.Below t} {n : Node Role} (hd : unwrap c = .ok d)
    (h : elementKey s ls (readers s t) d = .ok n) : Reads s ls .key c.1 [n] := by
  have hr := reads_elementKey ih h
  obtain ⟨hl, e, he, rfl⟩ | ⟨hl, rfl⟩ := unwrap_eq_ok.1 hd
  · have hm : Mode.key.on c.1.kind = .key := if_pos hl
    refine (Gives.one_quiet he rfl hr).reads_quiet rfl (leaf_eq_nil hm rfl) fun v => ?_
    rw [visits, hm]
  · exact hr.congr (if_neg hl)

theorem gives_keyed {n : Node Role} (h : keyed s ls (readers s t) = .ok n) :
    Gives s ls [n] [] fun v => one .key t.parts.head? v ++ one .element t.parts.getLast? v := by
  obtain ⟨c, hc, d, hd, key, hk, e, he, x, hx, rfl⟩ := keyed_eq_ok.1 h
  have hg := (Gives.one_quiet hc rfl (reads_key ih hd hk)).append_quiet
    (.one_quiet he rfl (reads_element ih hx))
  exact hg.plain rfl rfl

theorem gives_elements {ns : List (Node Role)} (h : elements s ls (readers s t) = .ok ns) :
    Gives s ls ns [] (each .element t.parts) := by
  refine .each_quiet rfl ((elements_eq_ok.1 h).imp fun c n hc => ?_)
  split at hc
  · rename_i hk
    have hm : Mode.element.on c.1.kind = .keyed := if_pos hk
    refine (gives_keyed (fun d => ih (c.trans d)) hc).reads_quiet rfl
      (leaf_eq_nil hm rfl) fun v => ?_
    rw [visits, hm]
  · exact reads_element ih hc

theorem gives_composite {n : Node Role} (h : composite s ls (readers s t) = .ok n) :
    Gives s ls [n] [] fun v => one .expr (t.at? .type) v ++ one .elements (t.at? .body) v := by
  obtain ⟨x, hx, c, hc, es, he, rfl⟩ := composite_eq_ok.1 h
  have hr : Reads s ls .elements c.1 es :=
    (gives_elements (fun d => ih (c.trans d)) he).reads_quiet rfl (fun _ => rfl) fun _ => rfl
  exact ((gives_exprs ih hx).append_quiet (.one_quiet hc rfl hr)).plain rfl rfl

theorem gives_bareComposite {n : Node Role} (h : bareComposite s ls (readers s t) = .ok n) :
    Gives s ls [n] [] (each .element t.parts) := by
  obtain ⟨es, he, rfl⟩ := bareComposite_eq_ok.1 h
  exact (gives_elements ih he).plain rfl rfl

/-! Signatures -/

theorem reads_param {n : Node Role} (h : param s ls (readers s t) = .ok n) :
    Reads s ls .param t [n] := by
  obtain ⟨x, hx, rfl⟩ := param_eq_ok.1 h
  have ht : Gives s ls [if t.kind = .part .variadicParameterDeclaration then .ellipsis (some x)
      else x] [] (one .expr (t.at? .type)) := by
    split
    · exact (gives_exprs ih hx).plain rfl rfl
    · exact gives_exprs ih hx
  refine ((gives_names t).field ht).reads ?_ (fun _ => rfl) fun _ => rfl
  rw [declared]
  rfl

theorem reads_params {ns : List (Node Role)} (h : params s ls (readers s t) = .ok ns) :
    Reads s ls .params t ns := by
  have hr := (params_eq_ok.1 h).imp fun c n hc => reads_param (fun d => ih (c.trans d)) hc
  refine (Gives.inTurn hr).reads ?_ (fun _ => rfl) fun _ => rfl
  rw [declared]
  rfl

theorem gives_results {ns : List (Node Role)} (h : results s ls (readers s t) = .ok ns) :
    Gives s ls ns (gains s .result (t.at? .result)) (one .result (t.at? .result)) := by
  obtain ⟨hc, rfl⟩ | ⟨c, hc, h⟩ := results_eq_ok.1 h
  · exact .none hc
  · refine .one hc ?_
    obtain ⟨hk, hps⟩ | ⟨hk, x, hx, rfl⟩ := h
    · have hm : Mode.result.on c.1.kind = Mode.params.on c.1.kind := if_pos hk
      exact (reads_params (fun d => ih (c.trans d)) hps).congr hm
    · exact Reads.field ((reads_below ih hx).congr (if_neg hk))

/-- The names of a signature are those of its parameters and of its results. -/
theorem gives_signature {keyword : Bool} {n : Node Role}
    (h : Draft.signature s ls (readers s t) keyword = .ok n) :
    ∃ ps rs, n = .funcType ps rs keyword ∧
      Gives s ls (ps ++ rs)
        (gains s .params (t.at? .parameters) ++ gains s .result (t.at? .result))
        (signature s t) := by
  obtain ⟨ps, hps, rs, hrs, rfl⟩ := signature_eq_ok.1 h
  have hp : Gives s ls ps (gains s .params (t.at? .parameters))
      (one .params (t.at? .parameters)) := by
    obtain ⟨hc, rfl⟩ | ⟨c, hc, hps⟩ := hps
    · exact .none hc
    · exact .one hc (reads_params (fun d => ih (c.trans d)) hps)
  exact ⟨ps, rs, rfl, hp.append (gives_results ih hrs)⟩

/-! Functions -/

/-- Statements that a node stands for are read in turn. -/
theorem gives_body {cs : List (Tree.Below t)} {body : List (List (Node Role))}
    (h : (readers s t).Bodies ls cs body) :
    Gives s ls body.flatten (cs.flatMap fun c => declared s .stmts c.1) (inTurn s .stmts cs) :=
  .flatten (h.imp fun c _ hc => (ih c).stmts ((readers_stmts s t ls c).symm.trans hc))

theorem gives_block {n : Node Role} (h : block ls (readers s t) = .ok n) :
    Gives s ls [n] [] fun v => inTurn s .stmts t.parts v.inside := by
  obtain ⟨body, hb, rfl⟩ := block_eq_ok.1 h
  exact (gives_body ih hb).block

theorem reads_block {n : Node Role} (h : block ls (readers s t) = .ok n) :
    Reads s ls .block t [n] :=
  (gives_block ih h).reads_quiet rfl (fun _ => rfl) fun _ => rfl

omit ih in
theorem labels_of_bodyLabels {own : List String} (h : bodyLabels s t = .ok own) :
    labels s t = own := by
  obtain ⟨hc, rfl⟩ | ⟨c, hc, hl⟩ := bodyLabels_eq_ok.1 h
  · simp only [labels, hc]
  · simp only [labels, hc, hl, Option.getD_some]

theorem reads_funcLit {n : Node Role} (hk : t.kind = .expr .funcLiteral)
    (h : funcLit s (readers s t) = .ok n) : Reads s ls .expr t [n] := by
  obtain ⟨own, ho, type, ht, c, hc, body, hb, rfl⟩ := funcLit_eq_ok.1 h
  obtain ⟨ps, rs, rfl, hs⟩ := gives_signature ih ht
  have hb := Gives.one_quiet hc rfl (reads_block (fun d => ih (c.trans d)) hb)
  have hm : Mode.expr.on t.kind = .expr := by
    rw [hk]
    rfl
  apply Reads.of_stands
  · intro top
    rw [Node.binds_eq_flatMap_turns _ _ rfl, declared_of_isQuiet rfl]
    rfl
  · intro v _
    rw [leaf, hm, decides, hk]
    rfl
  · intro v _
    have hv : visits s .expr t v = signature s t (v.enter own) ++
        one .block (t.at? .body) (pastSignature s t (v.enter own)) := by
      rw [visits, hm]
      simp only [exprVisits, hk, labels_of_bodyLabels ho]
    rw [hv, List.flatMap_append, ← hs.sites (v.enter own) rfl,
      ← hb.sites (pastSignature s t (v.enter own)) rfl]
    simp only [Node.stands, List.flatMap_cons, List.flatMap_nil, List.append_nil, Node.Stand.sites,
      sites_signature, binds_signature, hs.binds, Node.sitesAll_singleton,
      Visible.declare_append]
    rfl

/-! Types -/

theorem gives_array {n : Node Role} (h : array ls (readers s t) = .ok n) :
    Gives s ls [n] [] fun v => one .expr (t.at? .element) v ++ one .expr (t.at? .length) v := by
  obtain ⟨len, hl, elt, he, rfl⟩ := array_eq_ok.1 h
  exact Gives.arrayType (gives_exprs ih he) (gives_exprs ih hl)

theorem gives_unsized {len : Option (Node Role)} {n : Node Role}
    (hl : Gives s ls (t := t) len.toList [] fun _ => [])
    (h : unsized ls (readers s t) len = .ok n) :
    Gives s ls [n] [] fun v => one .expr (t.at? .element) v ++ [] := by
  obtain ⟨elt, he, rfl⟩ := unsized_eq_ok.1 h
  exact (gives_exprs ih he).arrayType hl

theorem gives_map {n : Node Role} (h : map ls (readers s t) = .ok n) :
    Gives s ls [n] [] fun v => one .expr (t.at? .key) v ++ one .expr (t.at? .value) v := by
  obtain ⟨key, hk, value, hv, rfl⟩ := map_eq_ok.1 h
  exact ((gives_exprs ih hk).append_quiet (gives_exprs ih hv)).plain rfl rfl

theorem gives_chan {n : Node Role} (h : chan ls (readers s t) = .ok n) :
    Gives s ls [n] [] (one .expr (t.at? .value)) := by
  obtain ⟨x, hx, rfl⟩ := chan_eq_ok.1 h
  exact (gives_exprs ih hx).plain rfl rfl

theorem reads_structField {n : Node Role} (h : structField s ls (readers s t) = .ok n) :
    Reads s ls .field t [n] := by
  obtain ⟨x, hx, rfl⟩ := structField_eq_ok.1 h
  have ht : Gives s ls [if (names s t).isEmpty && t.hasToken "*" then .star x else x] []
      (one .expr (t.at? .type)) := by
    split
    · exact (gives_exprs ih hx).plain rfl rfl
    · exact gives_exprs ih hx
  have hn : Gives s ls ((names s t).map fun x => .ident x (.settled true)) []
      (each (.text (.settled true)) (t.allAt .name)) := by
    rw [names, List.map_map]
    exact gives_settled true (t.allAt .name)
  exact (hn.field ht).reads_quiet rfl (fun _ => rfl) fun _ => rfl

theorem gives_struct {n : Node Role} (h : struct s ls (readers s t) = .ok n) :
    Gives s ls [n] []
      (one .fields (t.parts.find? (·.1.kind == .part .fieldDeclarationList))) := by
  obtain ⟨c, hc, fields, hf, rfl⟩ := struct_eq_ok.1 h
  have hr : Reads s ls .fields c.1 fields :=
    (Gives.each_quiet rfl (hf.imp fun d n hd =>
      reads_structField (fun e => ih ((c.trans d).trans e)) hd)).reads_quiet
      rfl (fun _ => rfl) fun _ => rfl
  exact (Gives.one_quiet hc rfl hr).plain rfl rfl

theorem reads_interfaceElem {c : Tree.Below t} {n : Node Role}
    (h : interfaceElem s ls (readers s t) c = .ok n) : Reads s ls .member c.1 [n] := by
  obtain ⟨hk, hn⟩ | ⟨hk, x, hx, rfl⟩ := interfaceElem_eq_ok.1 h
  · have hm : Mode.member.on c.1.kind = .member := if_pos hk
    obtain ⟨name, hname, type, ht, rfl⟩ := method_eq_ok.1 hn
    obtain ⟨d, hd, rfl⟩ := slotText_eq_ok.1 hname
    obtain ⟨ps, rs, rfl, hg⟩ := gives_signature (fun e => ih (c.trans e)) ht
    refine ((gives_settledSlot true hd).field hg.funcType).reads_quiet rfl
      (leaf_eq_nil hm rfl) fun v => ?_
    rw [visits, hm]
  · exact Reads.field ((reads_below ih hx).congr (if_neg hk))

theorem gives_interface {n : Node Role} (h : interface s ls (readers s t) = .ok n) :
    Gives s ls [n] [] (each .member t.parts) := by
  obtain ⟨methods, hm, rfl⟩ := interface_eq_ok.1 h
  exact (Gives.each_quiet rfl (hm.imp fun c _ hc => reads_interfaceElem ih hc)).plain rfl rfl

theorem gives_generic {n : Node Role} (h : generic ls (readers s t) = .ok n) :
    Gives s ls [n] [] fun v =>
      one .expr (t.at? .type) v ++ one .operands (t.at? .typeArguments) v := by
  obtain ⟨x, hx, c, hc, hn⟩ := generic_eq_ok.1 h
  exact gives_applied ih (gives_exprs ih hx) hc hn

omit ih in
theorem gives_qualified {n : Node Role} (h : qualified s t = .ok n) :
    Gives s ls [n] [] fun v =>
      one (.text .use) (t.at? .package) v ++ one (.text (.settled false)) (t.at? .name) v := by
  obtain ⟨package, hp, name, hn, rfl⟩ := qualified_eq_ok.1 h
  obtain ⟨c, hc, rfl⟩ := slotText_eq_ok.1 hp
  obtain ⟨d, hd, rfl⟩ := slotText_eq_ok.1 hn
  exact ((Gives.one_quiet hc rfl (reads_text .use c.1)).append_quiet
    (gives_settledSlot false hd)).plain rfl rfl

omit ih in
/-- A name that is settled without looking at what is in force. -/
theorem reads_settled {x : String} {b : Bool}
    (hl : ∀ v : Context, v.labels = ls → leaf s .expr t v = [.settled x b])
    (hv : ∀ v, visits s .expr t v = []) : Reads s ls .expr t [.ident x (.settled b)] := by
  constructor
  · intro top
    rw [List.flatMap_singleton, Node.binds, declared_of_isQuiet rfl]
    rfl
  · intro v hls
    rw [Node.sitesAll_singleton, sites_ident, sites_eq, hl v hls, hv]
    rfl

omit ih in
/-- A literal has no parts. -/
theorem gives_literal (k : LiteralKind) (x : String) :
    Gives s ls (t := t) [.basicLit k x] [] fun _ => [] :=
  Gives.nil.plain rfl rfl

/-- Every expression is read as the table says. -/
theorem reads_expr {n : Node Role} (h : Draft.expr s ls (readers s t) = .ok n) :
    Reads s ls .expr t [n] := by
  obtain ⟨k, hk⟩ := kind_of_expr h
  simp only [Draft.expr, hk] at h
  cases k with
  | identifier | typeIdentifier | packageIdentifier | nilName | trueName | falseName | iotaName =>
      cases h
      exact (reads_text .use t).congr (by rw [hk]; rfl)
  | fieldIdentifier =>
      cases h
      exact (reads_text (.settled false) t).congr (by rw [hk]; rfl)
  | labelName =>
      cases h
      refine reads_settled (fun v hv => ?_) fun v => ?_
      · rw [leaf, hk, ← hv]
        rfl
      · simp only [visits, exprVisits, hk, Mode.on, Mode.atExpr]
  | blankIdentifier =>
      cases h
      refine reads_settled (fun v _ => ?_) fun v => ?_
      · rw [leaf, hk]
        rfl
      · simp only [visits, exprVisits, hk, Mode.on, Mode.atExpr]
  | intLiteral | floatLiteral | imaginaryLiteral | runeLiteral | interpretedStringLiteral
  | rawStringLiteral =>
      cases h
      exact (gives_literal _ _).reads_expr hk rfl fun v => by rw [exprVisits, hk]
  | parenthesizedExpression | parenthesizedType | pointerType | negatedType =>
      have hg := gives_wrapped ih (fun _ => rfl) (fun _ => rfl) (fun _ => rfl) h
      exact hg.reads_expr hk rfl fun v => by rw [exprVisits, hk]
  | selectorExpression =>
      exact (gives_selector ih h).reads_expr hk rfl fun v => by rw [exprVisits, hk]
  | indexExpression =>
      exact (gives_index ih h).reads_expr hk rfl fun v => by rw [exprVisits, hk]
  | sliceExpression =>
      refine (gives_slice ih h).reads_expr hk rfl fun v => ?_
      simp only [exprVisits, hk, List.append_assoc]
  | typeAssertionExpression =>
      exact (gives_typeAssertion ih h).reads_expr hk rfl fun v => by rw [exprVisits, hk]
  | typeConversionExpression =>
      exact (gives_conversion ih h).reads_expr hk rfl fun v => by rw [exprVisits, hk]
  | typeInstantiationExpression =>
      exact (gives_instantiation ih h).reads_expr hk rfl fun v => by rw [exprVisits, hk]
  | callExpression =>
      exact (gives_call ih h).reads_expr hk rfl fun v => by rw [exprVisits, hk]
  | unaryExpression =>
      exact (gives_unary ih h).reads_expr hk rfl fun v => by rw [exprVisits, hk]
  | binaryExpression => exact reads_binary ih hk h
  | compositeLiteral =>
      exact (gives_composite ih h).reads_expr hk rfl fun v => by rw [exprVisits, hk]
  | literalValue =>
      exact (gives_bareComposite ih h).reads_expr hk rfl fun v => by rw [exprVisits, hk]
  | funcLiteral => exact reads_funcLit ih hk h
  | arrayType =>
      exact (gives_array ih h).reads_expr hk rfl fun v => by rw [exprVisits, hk]
  | implicitLengthArrayType =>
      refine (gives_unsized ih (Gives.nil.plain rfl rfl) h).reads_expr hk rfl fun v => ?_
      simp only [exprVisits, hk, List.append_nil]
  | sliceType =>
      refine (gives_unsized ih Gives.nil h).reads_expr hk rfl fun v => ?_
      simp only [exprVisits, hk, List.append_nil]
  | mapType =>
      exact (gives_map ih h).reads_expr hk rfl fun v => by rw [exprVisits, hk]
  | channelType =>
      exact (gives_chan ih h).reads_expr hk rfl fun v => by rw [exprVisits, hk]
  | functionType =>
      obtain ⟨ps, rs, rfl, hg⟩ := gives_signature ih h
      exact hg.funcType.reads_expr hk rfl fun v => by rw [exprVisits, hk]
  | structType =>
      exact (gives_struct ih h).reads_expr hk rfl fun v => by rw [exprVisits, hk]
  | interfaceType =>
      exact (gives_interface ih h).reads_expr hk rfl fun v => by rw [exprVisits, hk]
  | qualifiedType =>
      exact (gives_qualified h).reads_expr hk rfl fun v => by rw [exprVisits, hk]
  | genericType =>
      exact (gives_generic ih h).reads_expr hk rfl fun v => by rw [exprVisits, hk]
  | typeElem | typeConstraint =>
      exact (gives_union ih h).reads_expr hk rfl fun v => by rw [exprVisits, hk]

end

end GoMetrics.Lexical
