import GoMetrics.Proofs.Jumps.Table
import GoMetrics.Syntax.Draft.Read

/-!
The jumps in expressions and types: those of their parts, one lemma for each construct, under the
assumption that all smaller trees have the jumps that the table says. Only a function literal
changes the labels that are in force.
-/

namespace GoMetrics.Lexical

open Draft

variable {s : Source} {f : Option Tree} {t : Tree}

/-- All readings of a tree have its jumps. -/
structure Followed (s : Source) (t : Tree) : Prop where
  expr : ∀ {f n}, Draft.expr s (labelsIn s f) (readers s t) = .ok n → GathersAt s f .expr t [n]
  stmt : ∀ {f n}, Draft.stmt s (labelsIn s f) (readers s t) = .ok n → GathersAt s f .stmt t [n]
  stmts : ∀ {f ns}, Draft.stmts s (labelsIn s f) (readers s t) = .ok ns →
    GathersAt s f .stmts t ns

/-- Kinds of expressions that are names or functions. -/
def isSpecial : ExprKind → Bool
  | .identifier | .typeIdentifier | .packageIdentifier | .nilName | .trueName | .falseName
  | .iotaName | .fieldIdentifier | .funcLiteral => true
  | _ => false

theorem Gathers.reads_expr {ns : List (Node Role)} {ps : List (Pick t)} {k : ExprKind}
    (h : Gathers s f ns ps) (hk : t.kind = .expr k) (hs : isSpecial k = false)
    (hv : (exprVisits s t nowhere).map Visit.pick = ps) : GathersAt s f .expr t ns := by
  have hm : Mode.expr.on t.kind = .expr := by
    rw [hk]
    cases k <;> first | rfl | cases hs
  refine h.reads ?_ ?_ ?_
  · rw [jumpsTo?, hm]
  · rw [opens, hm, hk]
    cases k <;> first | rfl | cases hs
  · rw [visits, hm, ← hv]

/-- Modes in which a node is neither a jump nor a function. -/
def Mode.isInert : Mode → Bool
  | .stmt | .expr | .func => false
  | _ => true

theorem Gathers.reads_inert {m m' : Mode} {ns : List (Node Role)} {ps : List (Pick t)}
    (h : Gathers s f ns ps) (hm : m.on t.kind = m') (hi : m'.isInert = true)
    (hv : (visits s m t nowhere).map Visit.pick = ps) : GathersAt s f m t ns := by
  refine h.reads ?_ ?_ hv
  · rw [jumpsTo?, hm]
    cases m' <;> first | rfl | cases hi
  · rw [opens, hm]
    cases m' <;> first | rfl | cases hi

/-- A name or a literal has no jumps. -/
theorem gathersAt_leaf {n : Node Role} {m : Mode} (hn : n.labels = [])
    (hj : jumpsTo? m t = none) (hv : visits s m t nowhere = []) : GathersAt s f m t [n] := by
  rw [GathersAt, jumps_eq, hj, hv, List.flatMap_singleton, hn]
  rfl

theorem gathersAt_text (role : Role) (x : String) (r : Role) :
    GathersAt s f (.text role) t [.ident x r] :=
  gathersAt_leaf (Node.labels_ident x r) rfl rfl

theorem Gathers.idents (xs : List String) (r role : Role) (cs : List (Tree.Below t)) :
    Gathers s f (xs.map fun x => .ident x r) (cs.map (Pick.mk (.text role))) := by
  refine .names (fun n hn => ?_) cs
  obtain ⟨x, -, rfl⟩ := List.mem_map.1 hn
  exact Node.labels_ident x r

theorem Gathers.ident (x : String) (r role : Role) (cs : List (Tree.Below t)) :
    Gathers s f [.ident x r] (cs.map (Pick.mk (.text role))) :=
  .idents [x] r role cs

section

variable (ih : ∀ c : Tree.Below t, Followed s c.1)
include ih

theorem gathersAt_below {c : Tree.Below t} {n : Node Role}
    (h : (readers s t).expr (labelsIn s f) c = .ok n) : GathersAt s f .expr c.1 [n] :=
  (ih c).expr ((readers_expr s t _ c).symm.trans h)

theorem gathers_exprs {cs : List (Tree.Below t)} {ns : List (Node Role)}
    (h : (readers s t).Exprs (labelsIn s f) cs ns) : Gathers s f ns (cs.map (Pick.mk .expr)) :=
  .each (h.imp fun _ _ hc => gathersAt_below ih hc)

/-! Operands and operators -/

/-- A construct that holds its first part. -/
theorem gathers_first {g : Node Role → Node Role} {n : Node Role} (hs : ∀ x, (g x).isStill = true)
    (hp : ∀ x, (g x).places = [x])
    (h : (do return g (← (readers s t).expr (labelsIn s f) (← first t)) : Result) = .ok n) :
    Gathers s f [n] (t.parts.head?.toList.map (Pick.mk .expr)) := by
  obtain ⟨x, hx, rfl⟩ := wrapped_eq_ok.1 h
  exact .still (hs x) (hp x ▸ gathers_exprs ih hx)

theorem gathers_selector {n : Node Role}
    (h : selector s (labelsIn s f) (readers s t) = .ok n) :
    Gathers s f [n] ((t.at? .operand).toList.map (Pick.mk .expr) ++
      (t.at? .field).toList.map (Pick.mk (.text (.settled false)))) := by
  obtain ⟨x, hx, name, -, rfl⟩ := selector_eq_ok.1 h
  exact .still rfl ((gathers_exprs ih hx).append (.ident name _ _ _))

theorem gathers_index {n : Node Role} (h : index (labelsIn s f) (readers s t) = .ok n) :
    Gathers s f [n] ((t.at? .operand).toList.map (Pick.mk .expr) ++
      (t.allAt .index).map (Pick.mk .expr)) := by
  obtain ⟨x, hx, is, his, rfl⟩ := index_eq_ok.1 h
  exact .still rfl ((gathers_exprs ih hx).append (gathers_exprs ih his))

theorem gathers_slice {n : Node Role} (h : slice (labelsIn s f) (readers s t) = .ok n) :
    Gathers s f [n] ((t.at? .operand).toList.map (Pick.mk .expr) ++
      ((t.at? .start).toList.map (Pick.mk .expr) ++ (t.at? .stop).toList.map (Pick.mk .expr) ++
        (t.at? .capacity).toList.map (Pick.mk .expr))) := by
  obtain ⟨x, hx, low, hl, high, hh, max, hm, rfl⟩ := slice_eq_ok.1 h
  have hg := ((gathers_exprs ih hl).append (gathers_exprs ih hh)).append (gathers_exprs ih hm)
  exact .still rfl ((gathers_exprs ih hx).append hg)

theorem gathers_typeAssertion {n : Node Role}
    (h : typeAssertion (labelsIn s f) (readers s t) = .ok n) :
    Gathers s f [n] ((t.at? .operand).toList.map (Pick.mk .expr) ++
      (t.at? .type).toList.map (Pick.mk .expr)) := by
  obtain ⟨x, hx, y, hy, rfl⟩ := typeAssertion_eq_ok.1 h
  exact .still rfl ((gathers_exprs ih hx).append (gathers_exprs ih hy))

theorem gathers_conversion {n : Node Role} (h : conversion (labelsIn s f) (readers s t) = .ok n) :
    Gathers s f [n] ((t.at? .type).toList.map (Pick.mk .expr) ++
      (t.at? .operand).toList.map (Pick.mk .expr)) := by
  obtain ⟨x, hx, y, hy, rfl⟩ := conversion_eq_ok.1 h
  exact .still rfl ((gathers_exprs ih hx).append (gathers_exprs ih hy))

theorem gathers_instantiation {n : Node Role}
    (h : instantiation (labelsIn s f) (readers s t) = .ok n) :
    Gathers s f [n] (t.parts.map (Pick.mk .expr)) := by
  obtain ⟨x, is, hx, rfl⟩ := instantiation_eq_ok.1 h
  exact .still rfl (gathers_exprs ih hx)

theorem gathers_unary {n : Node Role} (h : unary s (labelsIn s f) (readers s t) = .ok n) :
    Gathers s f [n] ((t.at? .operand).toList.map (Pick.mk .expr)) := by
  obtain ⟨op, -, x, hx, rfl⟩ := unary_eq_ok.1 h
  split <;> exact .still rfl (gathers_exprs ih hx)

theorem gathers_binary {n : Node Role} (h : binary s (labelsIn s f) (readers s t) = .ok n) :
    Gathers s f [n] ((t.at? .left).toList.map (Pick.mk .expr) ++
      (t.at? .right).toList.map (Pick.mk .expr)) := by
  obtain ⟨x, hx, op, -, y, hy, rfl⟩ := binary_eq_ok.1 h
  exact .still rfl ((gathers_exprs ih hx).append (gathers_exprs ih hy))

theorem gathers_union {n : Node Role} (h : union (labelsIn s f) (readers s t) = .ok n) :
    Gathers s f [n] (t.parts.map (Pick.mk .expr)) := by
  have join : ∀ (terms : List (Node Role)) (x : Node Role),
      (terms.foldl (fun union term => .binary union "|" term) x).labels =
        (x :: terms).flatMap Node.labels := by
    intro terms
    induction terms with
    | nil => exact fun x => (List.flatMap_singleton ..).symm
    | cons y terms ih =>
        intro x
        rw [List.foldl_cons, ih, List.flatMap_cons, Node.labels_of_isStill rfl]
        simp [Node.places]
  obtain ⟨x, rest, hx, rfl⟩ := union_eq_ok.1 h
  rw [Gathers, List.flatMap_singleton, join]
  exact gathers_exprs ih hx

/-! Arguments and elements -/

theorem gathersAt_exprList {c : Tree.Below t} {ns : List (Node Role)}
    (h : exprList (labelsIn s f) (readers s t) c = .ok ns) : GathersAt s f .exprs c.1 ns := by
  obtain ⟨hk, hxs⟩ | ⟨hk, x, hx, rfl⟩ := exprList_eq_ok.1 h
  · have hm : Mode.exprs.on c.1.kind = .exprs := if_pos hk
    refine (gathers_exprs (fun d => ih (c.trans d)) hxs).reads_inert hm rfl ?_
    rw [visits, hm, map_pick_each]
  · exact (gathersAt_below ih hx).congr (if_neg hk)

theorem gathers_slotList {p : Slot} {ns : List (Node Role)}
    (h : slotList (labelsIn s f) (readers s t) p = .ok ns) :
    Gathers s f ns ((t.at? p).toList.map (Pick.mk .exprs)) := by
  obtain ⟨hp, rfl⟩ | ⟨c, hp, hc⟩ := slotList_eq_ok.1 h
  · rw [hp]
    exact .nil
  · exact .one hp (gathersAt_exprList ih hc)

theorem gathersAt_operands {ns : List (Node Role)}
    (h : (readers s t).Exprs (labelsIn s f) t.parts ns) : GathersAt s f .operands t ns :=
  (gathers_exprs ih h).reads_inert rfl rfl (map_pick_each ..)

theorem gathers_applied {x n : Node Role} {c : Tree.Below t} {o : Option (Tree.Below t)}
    {ps : List (Pick t)} (hx : Gathers s f [x] ps) (hc : o = some c)
    (h : applied (labelsIn s f) (readers s t) x c = .ok n) :
    Gathers s f [n] (ps ++ o.toList.map (Pick.mk .operands)) := by
  obtain ⟨args, ha, rfl⟩ := applied_eq_ok.1 h
  exact .still rfl (hx.append (.one hc (gathersAt_operands (fun d => ih (c.trans d)) ha)))

theorem gathersAt_argument {c : Tree.Below t} {n : Node Role}
    (h : argument (labelsIn s f) (readers s t) c = .ok n) : GathersAt s f .arg c.1 [n] := by
  obtain ⟨hk, hn⟩ | ⟨hk, hn⟩ := argument_eq_ok.1 h
  · have hm : Mode.arg.on c.1.kind = .arg := if_pos hk
    refine (gathers_exprs (fun d => ih (c.trans d)) hn).reads_inert hm rfl ?_
    rw [visits, hm, map_pick_one]
  · exact (gathersAt_below ih hn).congr (if_neg hk)

theorem gathersAt_arguments {ns : List (Node Role)}
    (h : List.Forall₂ (fun c n => argument (labelsIn s f) (readers s t) c = .ok n) t.parts ns) :
    GathersAt s f .args t ns := by
  have hg := Gathers.each (h.imp fun c _ hc => gathersAt_argument ih hc)
  exact hg.reads_inert rfl rfl (map_pick_each ..)

theorem gathers_call {n : Node Role} (h : call (labelsIn s f) (readers s t) = .ok n) :
    Gathers s f [n] ((t.at? .function).toList.map (Pick.mk .expr) ++
      (t.at? .typeArguments).toList.map (Pick.mk .operands) ++
      (t.at? .arguments).toList.map (Pick.mk .args)) := by
  obtain ⟨x, hx, fn, hfn, list, hl, args, ha, rfl⟩ := call_eq_ok.1 h
  have hx := gathers_exprs ih hx
  have hf : Gathers s f [fn] ((t.at? .function).toList.map (Pick.mk .expr) ++
      (t.at? .typeArguments).toList.map (Pick.mk .operands)) := by
    obtain ⟨ht, rfl⟩ | ⟨types, ht, hfn⟩ := hfn
    · rw [ht]
      exact hx.append .nil
    · exact gathers_applied ih hx ht hfn
  exact .still rfl (hf.append (.one hl (gathersAt_arguments (fun d => ih (list.trans d)) ha)))

theorem gathersAt_element {c : Tree.Below t} {n : Node Role}
    (h : element (labelsIn s f) (readers s t) c = .ok n) : GathersAt s f .element c.1 [n] := by
  obtain ⟨hl, hn⟩ | ⟨hl, hn⟩ := element_eq_ok.1 h
  · have hm : Mode.element.on c.1.kind = .element := by
      rw [hl]
      rfl
    refine (gathers_exprs (fun d => ih (c.trans d)) hn).reads_inert hm rfl ?_
    rw [visits, hm, map_pick_one]
  · obtain ⟨k, hk⟩ := kind_of_expr ((readers_expr s t _ c).symm.trans hn)
    exact (gathersAt_below ih hn).congr (by rw [hk]; rfl)

theorem gathersAt_elementKey {c : Tree.Below t} {n : Node Role}
    (h : elementKey s (labelsIn s f) (readers s t) c = .ok n) :
    GathersAt s f .bareKey c.1 [n] := by
  obtain ⟨hk | hk, rfl⟩ | ⟨hi, hf, hn⟩ := elementKey_eq_ok.1 h
  · exact (gathersAt_text .key _ _).congr (by rw [hk]; rfl)
  · exact (gathersAt_text .key _ _).congr (by rw [hk]; rfl)
  · exact (gathersAt_below ih hn).congr (Mode.on_bareKey hi hf)

theorem gathersAt_key {c d : Tree.Below t} {n : Node Role} (hd : unwrap c = .ok d)
    (h : elementKey s (labelsIn s f) (readers s t) d = .ok n) : GathersAt s f .key c.1 [n] := by
  have hr := gathersAt_elementKey ih h
  obtain ⟨hl, e, he, rfl⟩ | ⟨hl, rfl⟩ := unwrap_eq_ok.1 hd
  · have hm : Mode.key.on c.1.kind = .key := if_pos hl
    refine (Gathers.one he hr).reads_inert hm rfl ?_
    rw [visits, hm, map_pick_one]
  · exact hr.congr (if_neg hl)

theorem gathers_keyed {n : Node Role} (h : keyed s (labelsIn s f) (readers s t) = .ok n) :
    Gathers s f [n] (t.parts.head?.toList.map (Pick.mk .key) ++
      t.parts.getLast?.toList.map (Pick.mk .element)) := by
  obtain ⟨c, hc, d, hd, key, hk, e, he, x, hx, rfl⟩ := keyed_eq_ok.1 h
  exact .still rfl ((Gathers.one hc (gathersAt_key ih hd hk)).append
    (.one he (gathersAt_element ih hx)))

theorem gathers_elements {ns : List (Node Role)}
    (h : elements s (labelsIn s f) (readers s t) = .ok ns) :
    Gathers s f ns (t.parts.map (Pick.mk .element)) := by
  refine .each ((elements_eq_ok.1 h).imp fun c n hc => ?_)
  split at hc
  · rename_i hk
    have hm : Mode.element.on c.1.kind = .keyed := if_pos hk
    refine (gathers_keyed (fun d => ih (c.trans d)) hc).reads_inert hm rfl ?_
    rw [visits, hm, List.map_append, map_pick_one, map_pick_one]
  · exact gathersAt_element ih hc

theorem gathers_composite {n : Node Role} (h : composite s (labelsIn s f) (readers s t) = .ok n) :
    Gathers s f [n] ((t.at? .type).toList.map (Pick.mk .expr) ++
      (t.at? .body).toList.map (Pick.mk .elements)) := by
  obtain ⟨x, hx, c, hc, es, he, rfl⟩ := composite_eq_ok.1 h
  have hr : GathersAt s f .elements c.1 es :=
    (gathers_elements (fun d => ih (c.trans d)) he).reads_inert rfl rfl (map_pick_each ..)
  exact .still rfl ((gathers_exprs ih hx).append (.one hc hr))

theorem gathers_bareComposite {n : Node Role}
    (h : bareComposite s (labelsIn s f) (readers s t) = .ok n) :
    Gathers s f [n] (t.parts.map (Pick.mk .element)) := by
  obtain ⟨es, he, rfl⟩ := bareComposite_eq_ok.1 h
  exact .still rfl (gathers_elements ih he)

/-! Signatures -/

theorem gathersAt_param {n : Node Role} (h : param s (labelsIn s f) (readers s t) = .ok n) :
    GathersAt s f .param t [n] := by
  obtain ⟨x, hx, rfl⟩ := param_eq_ok.1 h
  have ht : Gathers s f [if t.kind = .part .variadicParameterDeclaration then .ellipsis (some x)
      else x] ((t.at? .type).toList.map (Pick.mk .expr)) := by
    split
    · exact .still rfl (gathers_exprs ih hx)
    · exact gathers_exprs ih hx
  refine ((Gathers.idents (names s t) .binds .binds (t.allAt .name)).field ht).reads_inert rfl rfl ?_
  exact List.map_append.trans (congrArg₂ _ (map_pick_each ..) (map_pick_one ..))

theorem gathersAt_params {ns : List (Node Role)}
    (h : params s (labelsIn s f) (readers s t) = .ok ns) : GathersAt s f .params t ns := by
  have hg := Gathers.each ((params_eq_ok.1 h).imp fun c n hc =>
    gathersAt_param (fun d => ih (c.trans d)) hc)
  exact hg.reads_inert rfl rfl (map_pick_inTurn ..)

theorem gathers_results {ns : List (Node Role)}
    (h : results s (labelsIn s f) (readers s t) = .ok ns) :
    Gathers s f ns ((t.at? .result).toList.map (Pick.mk .result)) := by
  obtain ⟨hc, rfl⟩ | ⟨c, hc, h⟩ := results_eq_ok.1 h
  · rw [hc]
    exact .nil
  · refine .one hc ?_
    obtain ⟨hk, hps⟩ | ⟨hk, x, hx, rfl⟩ := h
    · have hm : Mode.result.on c.1.kind = Mode.params.on c.1.kind := if_pos hk
      exact (gathersAt_params (fun d => ih (c.trans d)) hps).congr hm
    · exact GathersAt.still rfl ((gathersAt_below ih hx).congr (if_neg hk))

/-- The parts of a signature. -/
def signaturePicks (t : Tree) : List (Pick t) :=
  (t.at? .parameters).toList.map (Pick.mk .params) ++ (t.at? .result).toList.map (Pick.mk .result)

omit ih in
theorem map_pick_signature (v : Context) :
    (signature s t v).map Visit.pick = signaturePicks t := by
  rw [signature, List.map_append, map_pick_one, map_pick_one, signaturePicks]

theorem gathers_signature {keyword : Bool} {n : Node Role}
    (h : Draft.signature s (labelsIn s f) (readers s t) keyword = .ok n) :
    Gathers s f [n] (signaturePicks t) := by
  obtain ⟨ps, hps, rs, hrs, rfl⟩ := signature_eq_ok.1 h
  have hp : Gathers s f ps ((t.at? .parameters).toList.map (Pick.mk .params)) := by
    obtain ⟨hc, rfl⟩ | ⟨c, hc, hps⟩ := hps
    · rw [hc]
      exact .nil
    · exact .one hc (gathersAt_params (fun d => ih (c.trans d)) hps)
  exact .still rfl (hp.append (gathers_results ih hrs))

/-! Functions -/

theorem gathers_body {cs : List (Tree.Below t)} {body : List (List (Node Role))}
    (h : (readers s t).Bodies (labelsIn s f) cs body) :
    Gathers s f body.flatten (cs.map (Pick.mk .stmts)) :=
  .flatten (h.imp fun c _ hc => (ih c).stmts ((readers_stmts s t _ c).symm.trans hc))

theorem gathers_block {n : Node Role} (h : block (labelsIn s f) (readers s t) = .ok n) :
    Gathers s f [n] (t.parts.map (Pick.mk .stmts)) := by
  obtain ⟨body, hb, rfl⟩ := block_eq_ok.1 h
  exact .still rfl (gathers_body ih hb)

theorem gathersAt_block {n : Node Role} (h : block (labelsIn s f) (readers s t) = .ok n) :
    GathersAt s f .block t [n] :=
  (gathers_block ih h).reads_inert rfl rfl (map_pick_inTurn ..)

/-- A block in a slot. -/
theorem gathers_blockAt {p : Slot} {c : Tree.Below t} {n : Node Role} (hc : t.at? p = some c)
    (h : block (labelsIn s f) ((readers s t).under c) = .ok n) :
    Gathers s f [n] ((t.at? p).toList.map (Pick.mk .block)) :=
  .one hc (gathersAt_block (fun d => ih (c.trans d)) h)

theorem gathersAt_funcLit {n : Node Role} (hk : t.kind = .expr .funcLiteral)
    (h : funcLit s (readers s t) = .ok n) : GathersAt s f .expr t [n] := by
  obtain ⟨own, ho, type, ht, c, hc, body, hb, rfl⟩ := funcLit_eq_ok.1 h
  cases labelsIn_of_bodyLabels ho
  have hm : Mode.expr.on t.kind = .expr := by
    rw [hk]
    rfl
  have hg : Gathers s (some t) [.funcLit type body] (signaturePicks t ++
      (t.at? .body).toList.map (Pick.mk .block)) :=
    .still rfl ((gathers_signature ih ht).append (gathers_blockAt ih hc hb))
  refine hg.readsIn ?_ ?_ ?_
  · rw [jumpsTo?, hm]
  · rw [opens, hm, hk]
    rfl
  · rw [visits, hm]
    simp only [exprVisits, hk, List.map_append, map_pick_signature, map_pick_one]

/-! Types -/

theorem gathers_array {n : Node Role} (h : array (labelsIn s f) (readers s t) = .ok n) :
    Gathers s f [n] ((t.at? .element).toList.map (Pick.mk .expr) ++
      (t.at? .length).toList.map (Pick.mk .expr)) := by
  obtain ⟨len, hl, elt, he, rfl⟩ := array_eq_ok.1 h
  exact .still rfl ((gathers_exprs ih he).append (gathers_exprs ih hl))

theorem gathers_unsized {len : Option (Node Role)} {n : Node Role}
    (hl : Gathers s f (t := t) len.toList [])
    (h : unsized (labelsIn s f) (readers s t) len = .ok n) :
    Gathers s f [n] ((t.at? .element).toList.map (Pick.mk .expr) ++ []) := by
  obtain ⟨elt, he, rfl⟩ := unsized_eq_ok.1 h
  exact .still rfl ((gathers_exprs ih he).append hl)

theorem gathers_map {n : Node Role} (h : map (labelsIn s f) (readers s t) = .ok n) :
    Gathers s f [n] ((t.at? .key).toList.map (Pick.mk .expr) ++
      (t.at? .value).toList.map (Pick.mk .expr)) := by
  obtain ⟨x, hx, y, hy, rfl⟩ := map_eq_ok.1 h
  exact .still rfl ((gathers_exprs ih hx).append (gathers_exprs ih hy))

theorem gathers_chan {n : Node Role} (h : chan (labelsIn s f) (readers s t) = .ok n) :
    Gathers s f [n] ((t.at? .value).toList.map (Pick.mk .expr)) := by
  obtain ⟨x, hx, rfl⟩ := chan_eq_ok.1 h
  exact .still rfl (gathers_exprs ih hx)

theorem gathersAt_structField {n : Node Role}
    (h : structField s (labelsIn s f) (readers s t) = .ok n) : GathersAt s f .field t [n] := by
  obtain ⟨x, hx, rfl⟩ := structField_eq_ok.1 h
  have ht : Gathers s f [if (names s t).isEmpty && t.hasToken "*" then .star x else x]
      ((t.at? .type).toList.map (Pick.mk .expr)) := by
    split
    · exact .still rfl (gathers_exprs ih hx)
    · exact gathers_exprs ih hx
  refine ((Gathers.idents (names s t) _ (.settled true) (t.allAt .name)).field ht).reads_inert
    rfl rfl ?_
  exact List.map_append.trans (congrArg₂ _ (map_pick_each ..) (map_pick_one ..))

theorem gathers_struct {n : Node Role} (h : struct s (labelsIn s f) (readers s t) = .ok n) :
    Gathers s f [n]
      ((t.parts.find? (·.1.kind == .part .fieldDeclarationList)).toList.map
        (Pick.mk .fields)) := by
  obtain ⟨c, hc, fields, hf, rfl⟩ := struct_eq_ok.1 h
  have hg := Gathers.each (hf.imp fun d n hd =>
    gathersAt_structField (fun e => ih ((c.trans d).trans e)) hd)
  exact .still rfl (.one hc (hg.reads_inert rfl rfl (map_pick_each ..)))

theorem gathersAt_interfaceElem {c : Tree.Below t} {n : Node Role}
    (h : interfaceElem s (labelsIn s f) (readers s t) c = .ok n) :
    GathersAt s f .member c.1 [n] := by
  obtain ⟨hk, hn⟩ | ⟨hk, x, hx, rfl⟩ := interfaceElem_eq_ok.1 h
  · have hm : Mode.member.on c.1.kind = .member := if_pos hk
    obtain ⟨name, -, type, ht, rfl⟩ := method_eq_ok.1 hn
    have hg := (Gathers.ident name (.settled true) (.settled true)
      (c.1.at? .name).toList).field (gathers_signature (fun d => ih (c.trans d)) ht)
    refine hg.reads_inert hm rfl ?_
    rw [visits, hm, List.map_append, map_pick_one, map_pick_signature]
  · exact GathersAt.still rfl ((gathersAt_below ih hx).congr (if_neg hk))

theorem gathers_interface {n : Node Role}
    (h : interface s (labelsIn s f) (readers s t) = .ok n) :
    Gathers s f [n] (t.parts.map (Pick.mk .member)) := by
  obtain ⟨methods, hm, rfl⟩ := interface_eq_ok.1 h
  exact .still rfl (.each (hm.imp fun c _ hc => gathersAt_interfaceElem ih hc))

theorem gathers_generic {n : Node Role} (h : generic (labelsIn s f) (readers s t) = .ok n) :
    Gathers s f [n] ((t.at? .type).toList.map (Pick.mk .expr) ++
      (t.at? .typeArguments).toList.map (Pick.mk .operands)) := by
  obtain ⟨x, hx, c, hc, hn⟩ := generic_eq_ok.1 h
  exact gathers_applied ih (gathers_exprs ih hx) hc hn

omit ih in
theorem gathers_qualified {n : Node Role} (h : qualified s t = .ok n) :
    Gathers s f [n] ((t.at? .package).toList.map (Pick.mk (.text .use)) ++
      (t.at? .name).toList.map (Pick.mk (.text (.settled false)))) := by
  obtain ⟨package, -, name, -, rfl⟩ := qualified_eq_ok.1 h
  exact .still rfl ((Gathers.ident package ..).append (.ident name ..))

/-- Every expression has the jumps of its tree. -/
theorem gathersAt_expr {n : Node Role}
    (h : Draft.expr s (labelsIn s f) (readers s t) = .ok n) : GathersAt s f .expr t [n] := by
  obtain ⟨k, hk⟩ := kind_of_expr h
  simp only [Draft.expr, hk] at h
  cases k with
  | identifier | typeIdentifier | packageIdentifier | nilName | trueName | falseName | iotaName =>
      cases h
      exact (gathersAt_text .use _ _).congr (by rw [hk]; rfl)
  | fieldIdentifier =>
      cases h
      exact (gathersAt_text (.settled false) _ _).congr (by rw [hk]; rfl)
  | labelName | blankIdentifier | intLiteral | floatLiteral | imaginaryLiteral | runeLiteral
  | interpretedStringLiteral | rawStringLiteral =>
      cases h
      exact (Gathers.still rfl .nil).reads_expr hk rfl (by simp only [exprVisits, hk, List.map_nil])
  | funcLiteral => exact gathersAt_funcLit ih hk h
  | parenthesizedExpression | parenthesizedType | pointerType | negatedType =>
      refine (gathers_first ih (fun _ => rfl) (fun _ => rfl) h).reads_expr hk rfl ?_
      simp only [exprVisits, hk, map_pick_one]
  | selectorExpression =>
      refine (gathers_selector ih h).reads_expr hk rfl ?_
      simp only [exprVisits, hk, List.map_append, map_pick_one]
  | indexExpression =>
      refine (gathers_index ih h).reads_expr hk rfl ?_
      simp only [exprVisits, hk, List.map_append, map_pick_one, map_pick_each]
  | sliceExpression =>
      refine (gathers_slice ih h).reads_expr hk rfl ?_
      simp only [exprVisits, hk, List.map_append, map_pick_one, List.append_assoc]
  | typeAssertionExpression =>
      refine (gathers_typeAssertion ih h).reads_expr hk rfl ?_
      simp only [exprVisits, hk, List.map_append, map_pick_one]
  | typeConversionExpression =>
      refine (gathers_conversion ih h).reads_expr hk rfl ?_
      simp only [exprVisits, hk, List.map_append, map_pick_one]
  | typeInstantiationExpression =>
      refine (gathers_instantiation ih h).reads_expr hk rfl ?_
      simp only [exprVisits, hk, map_pick_each]
  | callExpression =>
      refine (gathers_call ih h).reads_expr hk rfl ?_
      simp only [exprVisits, hk, List.map_append, map_pick_one]
  | unaryExpression =>
      refine (gathers_unary ih h).reads_expr hk rfl ?_
      simp only [exprVisits, hk, map_pick_one]
  | binaryExpression =>
      refine (gathers_binary ih h).reads_expr hk rfl ?_
      simp only [exprVisits, hk, List.map_append, map_pick_one]
  | compositeLiteral =>
      refine (gathers_composite ih h).reads_expr hk rfl ?_
      simp only [exprVisits, hk, List.map_append, map_pick_one]
  | literalValue =>
      refine (gathers_bareComposite ih h).reads_expr hk rfl ?_
      simp only [exprVisits, hk, map_pick_each]
  | arrayType =>
      refine (gathers_array ih h).reads_expr hk rfl ?_
      simp only [exprVisits, hk, List.map_append, map_pick_one]
  | implicitLengthArrayType =>
      refine (gathers_unsized ih (.still rfl .nil) h).reads_expr hk rfl ?_
      simp only [exprVisits, hk, map_pick_one, List.append_nil]
  | sliceType =>
      refine (gathers_unsized ih .nil h).reads_expr hk rfl ?_
      simp only [exprVisits, hk, map_pick_one, List.append_nil]
  | mapType =>
      refine (gathers_map ih h).reads_expr hk rfl ?_
      simp only [exprVisits, hk, List.map_append, map_pick_one]
  | channelType =>
      refine (gathers_chan ih h).reads_expr hk rfl ?_
      simp only [exprVisits, hk, map_pick_one]
  | functionType =>
      refine (gathers_signature ih h).reads_expr hk rfl ?_
      simp only [exprVisits, hk, map_pick_signature]
  | structType =>
      refine (gathers_struct ih h).reads_expr hk rfl ?_
      simp only [exprVisits, hk, map_pick_one]
  | interfaceType =>
      refine (gathers_interface ih h).reads_expr hk rfl ?_
      simp only [exprVisits, hk, map_pick_each]
  | qualifiedType =>
      refine (gathers_qualified h).reads_expr hk rfl ?_
      simp only [exprVisits, hk, List.map_append, map_pick_one]
  | genericType =>
      refine (gathers_generic ih h).reads_expr hk rfl ?_
      simp only [exprVisits, hk, List.map_append, map_pick_one]
  | typeElem | typeConstraint =>
      refine (gathers_union ih h).reads_expr hk rfl ?_
      simp only [exprVisits, hk, map_pick_each]

end
end GoMetrics.Lexical
