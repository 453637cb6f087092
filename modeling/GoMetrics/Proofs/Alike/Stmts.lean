import GoMetrics.Proofs.Alike.Exprs
import GoMetrics.Syntax.Draft.Read

/-!
Statements and declarations of names read from trees that say the same match. Where a statement is
found by its place among the parts, it is found by comparing offsets, and these differ between the
trees by the same distance everywhere. The main result is that the readings of two such trees match
in whatever way they are read.
-/

namespace GoMetrics.Draft

open GoMetrics.Tree Node

variable {d k : Nat} {s s' : Source} {t t' : Tree} {r : Readers t} {r' : Readers t'}

namespace Twin

/-! Declarations of names -/

theorem typeSpec (h : Twin d k s s' r r') (ls : List String) :
    Matches k (Same Clean) (Draft.typeSpec s ls r) (Draft.typeSpec s' ls r') := by
  unfold Draft.typeSpec
  rw [typeParams_eq h.source h.tree]
  refine (h.slotText .name).next fun name _ => ?_
  refine h.exprAt ls .type fun type htype => ?_
  exact matches_clean rfl (by simp [places, htype])

theorem valueSpec (h : Twin d k s s' r r') (ls : List String) :
    Matches k (Same Clean) (Draft.valueSpec s ls r) (Draft.valueSpec s' ls r') := by
  unfold Draft.valueSpec
  rw [names_eq h.source h.tree]
  have hn := allClean_bindings (names s t)
  refine (h.exprAt? ls .type).next fun type htype => ?_
  refine (h.slotList ls .value).next fun values hvalues => ?_
  exact matches_clean rfl (by simp [places, hn, htype, hvalues])

theorem spec (h : Twin d k s s' r r') (ls : List String) :
    Matches k (Same Clean) (Draft.spec s ls r) (Draft.spec s' ls r') := by
  unfold Draft.spec
  rw [h.tree.kind]
  split
  · exact h.typeSpec ls
  · exact h.typeSpec ls
  · exact h.valueSpec ls
  · exact h.valueSpec ls
  · exact h.refuse _

theorem genDecl (h : Twin d k s s' r r') (ls : List String) (kind : DeclKind) :
    Matches k (Same Clean) (Draft.genDecl s ls r kind) (Draft.genDecl s' ls r' kind) := by
  unfold Draft.genDecl
  rw [h.tree.group.hasToken, h.tree.group.hasToken]
  refine (each h.tree.specs fun c c' hc => (h.under hc).spec ls).next fun specs hspecs => ?_
  exact matches_clean rfl (by simp [places, hspecs])

/-! Assignments -/

theorem target (h : Twin d k s s' r r') (ls : List String) {c : Below t} {c' : Below t'}
    (hc : Alike.Below d c c') :
    Matches k (Same Clean) (Draft.target s ls r c) (Draft.target s' ls r' c') := by
  unfold Draft.target
  rw [Alike.kind hc, Alike.textOf h.source hc]
  split
  · exact .ok ⟨rfl, clean_ident _ _⟩
  · exact .ok ⟨rfl, clean_ident _ _⟩
  · exact h.expr _ _ hc ls

theorem targets (h : Twin d k s s' r r') (ls : List String) {c : Below t} {c' : Below t'}
    (hc : Alike.Below d c c') :
    Matches k (Same AllClean) (Draft.targets s ls r c) (Draft.targets s' ls r' c') := by
  unfold Draft.targets
  rw [Alike.kind hc]
  split
  · exact each (Alike.parts hc) fun e e' he => (h.under hc).target ls he
  · refine (h.target ls hc).next fun x hx => ?_
    exact .ok ⟨rfl, by simp [hx]⟩

theorem leftOf (h : Twin d k s s' r r') (ls : List String) (sign : String) {c : Below t}
    {c' : Below t'} (hc : Alike.Below d c c') :
    Matches k (Same AllClean) (Draft.leftOf s ls r sign c) (Draft.leftOf s' ls r' sign c') := by
  unfold Draft.leftOf
  split
  · exact h.targets ls hc
  · exact h.exprList ls hc

theorem signOf (h : Twin d k s s' r r') : Draft.signOf t' = Draft.signOf t := by
  rw [Draft.signOf, Draft.signOf, h.tree.hasToken]

theorem receive (h : Twin d k s s' r r') (ls : List String) :
    Matches k (Same Clean) (Draft.receive s ls r) (Draft.receive s' ls r') := by
  have hp := h.tree.at? .left
  unfold Draft.receive
  rw [h.signOf]
  refine h.exprAt ls .right fun right hright => ?_
  generalize t.at? .left = o, t'.at? .left = o' at hp
  cases hp with
  | none => exact matches_clean rfl (by simp [places, hright])
  | some hc =>
      refine (h.leftOf ls _ hc).next fun lhs hlhs => ?_
      exact matches_clean rfl (by simp [places, hlhs, hright])

theorem assignment (h : Twin d k s s' r r') (ls : List String) :
    Matches k (Same Clean) (Draft.assignment s ls r) (Draft.assignment s' ls r') := by
  refine (h.slotList ls .right).next fun rhs hrhs => ?_
  refine (h.slotList ls .left).next fun lhs hlhs => ?_
  refine (h.slotText .operator).next fun op _ => ?_
  exact matches_clean rfl (by simp [places, hlhs, hrhs])

theorem shortDeclaration (h : Twin d k s s' r r') (ls : List String) :
    Matches k (Same Clean) (Draft.shortDeclaration s ls r) (Draft.shortDeclaration s' ls r') := by
  refine (h.slotList ls .right).next fun rhs hrhs => ?_
  refine (h.slot .left).bind fun c c' hc => ?_
  refine (h.targets ls hc).next fun lhs hlhs => ?_
  exact matches_clean rfl (by simp [places, hlhs, hrhs])

/-! Simple statements -/

theorem send (h : Twin d k s s' r r') (ls : List String) :
    Matches k (Same Clean) (Draft.send ls r) (Draft.send ls r') := by
  refine h.exprAt ls .channel fun chan hchan => ?_
  refine h.exprAt ls .value fun value hvalue => ?_
  exact matches_clean rfl (by simp [places, hchan, hvalue])

theorem ret (h : Twin d k s s' r r') (ls : List String) :
    Matches k (Same Clean) (Draft.ret ls r) (Draft.ret ls r') := by
  have hp := h.tree.parts
  unfold Draft.ret
  generalize t.parts = cs, t'.parts = cs' at hp
  cases hp with
  | nil => exact matches_clean rfl allClean_nil
  | cons hc _ =>
      refine (h.exprList ls hc).next fun results hresults => ?_
      exact matches_clean rfl (by simp [places, hresults])

theorem branch (h : Twin d k s s' r r') (ls : List String) (tok : String) :
    Matches k (Same Clean) (Draft.branch ls r tok) (Draft.branch ls r' tok) := by
  have hf : Option.Rel (Alike.Below d) (t.parts.find? (·.1.kind == .expr .labelName))
      (t'.parts.find? (·.1.kind == .expr .labelName)) :=
    rel_find? h.tree.parts fun c c' hc => by rw [Alike.kind hc]
  refine (option (fun c c' hc => h.expr c c' hc ls) hf).next fun label hlabel => ?_
  exact matches_clean rfl (by simp [places, hlabel])

theorem labeled (h : Twin d k s s' r r') (ls : List String) :
    Matches k (Same Clean) (Draft.labeled s ls r) (Draft.labeled s' ls r') := by
  refine (h.slot .label).bind fun c c' hc => ?_
  rw [Alike.textOf h.source hc]
  have hf : Option.Rel (Alike.Below d) (t.parts.find? (c.1.stop ≤ ·.1.start))
      (t'.parts.find? (c'.1.stop ≤ ·.1.start)) :=
    rel_find? h.tree.parts fun e e' he => by
      rw [Alike.stop hc, Alike.start he, decide_eq_decide, Nat.add_le_add_iff_right]
  generalize t.parts.find? _ = o, t'.parts.find? _ = o' at hf
  cases hf with
  | none => exact matches_clean rfl (by simp [places])
  | some he =>
      refine (h.stmt _ _ he ls).next fun body hbody => ?_
      exact matches_clean rfl (by simp [places, hbody])

/-! Branches and loops -/

theorem ifElse (h : Twin d k s s' r r') (ls : List String) :
    Matches k (Same Clean) (Draft.ifElse ls r) (Draft.ifElse ls r') := by
  refine (h.stmtAt? ls .initializer).next fun init hinit => ?_
  refine h.exprAt ls .condition fun cond hcond => ?_
  refine (h.slot .consequence).bind fun c c' hc => ?_
  refine ((h.under hc).block ls).next fun body hbody => ?_
  refine (h.stmtAt? ls .alternative).next fun orElse helse => ?_
  exact matches_clean rfl (by simp [places, hinit, hcond, hbody, helse])

theorem rangeLoop (h : Twin d k s s' r r') (ls : List String) {body body' : Result}
    (hb : Matches k (Same Clean) body body') :
    Matches k (Same Clean) (Draft.rangeLoop s ls r body) (Draft.rangeLoop s' ls r' body') := by
  have hp := h.tree.at? .left
  unfold Draft.rangeLoop
  rw [h.signOf]
  refine h.exprAt ls .right fun x hx => ?_
  generalize t.at? .left = o, t'.at? .left = o' at hp
  cases hp with
  | none =>
      refine hb.next fun body hbody => ?_
      exact matches_clean rfl (by simp [places, hx, hbody])
  | some hc =>
      refine (h.leftOf ls _ hc).next fun lhs hlhs => ?_
      cases lhs with
      | nil => exact .lacks _
      | cons key rest =>
          refine hb.next fun body hbody => ?_
          rw [allClean_cons] at hlhs
          have hrest : AllClean rest.head?.toList := by
            cases rest with
            | nil => exact allClean_nil
            | cons value rest =>
                rw [allClean_cons] at hlhs
                exact allClean_cons.2 ⟨hlhs.2.1, allClean_nil⟩
          exact matches_clean rfl (by simp [places, hx, hbody, hlhs.1, hrest])

theorem clauseLoop (h : Twin d k s s' r r') (ls : List String) {body body' : Result}
    (hb : Matches k (Same Clean) body body') :
    Matches k (Same Clean) (Draft.clauseLoop ls r body) (Draft.clauseLoop ls r' body') := by
  refine (h.stmtAt? ls .initializer).next fun init hinit => ?_
  refine (h.exprAt? ls .condition).next fun cond hcond => ?_
  refine (h.stmtAt? ls .update).next fun post hpost => ?_
  refine hb.next fun body hbody => ?_
  exact matches_clean rfl (by simp [places, hinit, hcond, hpost, hbody])

theorem loop (h : Twin d k s s' r r') (ls : List String) :
    Matches k (Same Clean) (Draft.loop s ls r) (Draft.loop s' ls r') := by
  refine (h.slot .body).bind fun c c' hc => ?_
  have hb := (h.under hc).block ls
  have hf : Option.Rel (Alike.Below d) (t.parts.find? (·.1.stop ≤ c.1.start))
      (t'.parts.find? (·.1.stop ≤ c'.1.start)) :=
    rel_find? h.tree.parts fun e e' he => by
      rw [Alike.stop he, Alike.start hc, decide_eq_decide, Nat.add_le_add_iff_right]
  dsimp only
  generalize t.parts.find? _ = o, t'.parts.find? _ = o' at hf
  cases hf with
  | none =>
      refine hb.next fun body hbody => ?_
      exact matches_clean rfl (by simp [places, hbody])
  | some he =>
      dsimp only
      rw [Alike.kind he]
      split
      · exact (h.under he).rangeLoop ls hb
      · exact (h.under he).clauseLoop ls hb
      · refine (h.expr _ _ he ls).next fun cond hcond => ?_
        refine hb.next fun body hbody => ?_
        exact matches_clean rfl (by simp [places, hcond, hbody])

/-! Clauses -/

/-- The colon of a clause, and what stands behind it. -/
theorem afterColon (h : Alike d t t') :
    (Draft.afterColon t').1 = (Draft.afterColon t).1 ∧
      List.Forall₂ (Alike.Below d) (Draft.afterColon t).2 (Draft.afterColon t').2 := by
  have hf := h.find?_children ⟨fun kind _ _ _ => kind == .other ":", rfl⟩
  unfold Draft.afterColon
  change Option.Rel (Alike d) (t.children.find? (·.kind == .other ":"))
    (t'.children.find? (·.kind == .other ":")) at hf
  generalize t.children.find? _ = o, t'.children.find? _ = o' at hf
  cases hf with
  | none => exact ⟨rfl, .nil⟩
  | some hc =>
      refine ⟨congrArg not hc.isMissing, rel_filter h.parts fun e e' he => ?_⟩
      rw [hc.stop, Alike.start he, decide_eq_decide, Nat.add_le_add_iff_right]

theorem caseExprs (h : Twin d k s s' r r') (ls : List String) :
    Matches k (Same fun o => AllClean (o.getD [])) (Draft.caseExprs ls r)
      (Draft.caseExprs ls r') := by
  unfold Draft.caseExprs
  rw [h.tree.kind]
  split
  · exact .ok ⟨rfl, allClean_nil⟩
  · exact (h.exprs ls (h.tree.allAt .type)).map fun _ _ hx => ⟨congrArg some hx.1, hx.2⟩
  · exact (h.slotList ls .value).map fun _ _ hx => ⟨congrArg some hx.1, hx.2⟩

theorem caseClause (h : Twin d k s s' r r') (ls : List String) :
    Matches k (Same Clean) (Draft.caseClause ls r) (Draft.caseClause ls r') := by
  unfold Draft.caseClause
  rw [(afterColon h.tree).1]
  refine (h.caseExprs ls).next fun exprs hexprs => ?_
  refine h.bodies ls (afterColon h.tree).2 fun body hbody => ?_
  exact matches_clean rfl (by simp [places, hexprs, hbody])

theorem commClause (h : Twin d k s s' r r') (ls : List String) :
    Matches k (Same Clean) (Draft.commClause ls r) (Draft.commClause ls r') := by
  unfold Draft.commClause
  rw [(afterColon h.tree).1]
  refine (h.stmtAt? ls .communication).next fun comm hcomm => ?_
  refine h.bodies ls (afterColon h.tree).2 fun body hbody => ?_
  exact matches_clean rfl (by simp [places, hcomm, hbody])

theorem clauses (h : Alike d t t') (kind : PartKind) {clause : Below t → Result}
    {clause' : Below t' → Result}
    (hf : ∀ c c', Alike.Below d c c' → Matches k (Same Clean) (clause c) (clause' c')) :
    Matches k (Same Clean) (Draft.clauses kind clause) (Draft.clauses kind clause') := by
  unfold Draft.clauses
  rw [h.hasToken, h.hasToken]
  refine (each (rel_filter h.parts fun c c' hc => ?_) hf).next fun body hbody => ?_
  · rw [Alike.kind hc]
  · exact matches_clean rfl (by simp [places, hbody])

theorem switch (h : Twin d k s s' r r') (ls : List String) :
    Matches k (Same Clean) (Draft.switch ls r) (Draft.switch ls r') := by
  refine (h.stmtAt? ls .initializer).next fun init hinit => ?_
  refine (h.exprAt? ls .value).next fun tag htag => ?_
  refine (clauses h.tree .expressionCase fun c c' hc => (h.under hc).caseClause ls).next
    fun body hbody => ?_
  exact matches_clean rfl (by simp [places, hinit, htag, hbody])

theorem guard (h : Twin d k s s' r r') (ls : List String) :
    Matches k (Same Clean) (Draft.guard s ls r) (Draft.guard s' ls r') := by
  have hp := h.tree.at? .alias
  unfold Draft.guard
  rw [h.tree.hasToken, h.tree.hasToken]
  refine h.exprAt ls .value fun x hx => ?_
  have hx' : (Node.typeAssert x none (t.hasToken "(") (t.hasToken ")")).Clean :=
    clean_of_places rfl (by simp [places, hx])
  generalize t.at? .alias = o, t'.at? .alias = o' at hp
  cases hp with
  | none => exact matches_clean rfl (by simp [places, hx'])
  | some hc =>
      refine (h.targets ls hc).next fun lhs hlhs => ?_
      exact matches_clean rfl (by simp [places, hlhs, hx'])

theorem typeSwitch (h : Twin d k s s' r r') (ls : List String) :
    Matches k (Same Clean) (Draft.typeSwitch s ls r) (Draft.typeSwitch s' ls r') := by
  refine (h.stmtAt? ls .initializer).next fun init hinit => ?_
  refine (h.guard ls).next fun guard hguard => ?_
  refine (clauses h.tree .typeCase fun c c' hc => (h.under hc).caseClause ls).next
    fun body hbody => ?_
  exact matches_clean rfl (by simp [places, hinit, hguard, hbody])

theorem select (h : Twin d k s s' r r') (ls : List String) :
    Matches k (Same Clean) (Draft.select ls r) (Draft.select ls r') := by
  refine (clauses h.tree .communicationCase fun c c' hc => (h.under hc).commClause ls).next
    fun body hbody => ?_
  exact matches_clean rfl (by simp [places, hbody])

/-! Statements -/

theorem stmtOf (h : Twin d k s s' r r') (ls : List String) :
    Matches k (Same Clean) (Draft.stmt s ls r) (Draft.stmt s' ls r') := by
  unfold Draft.stmt
  rw [h.tree.kind]
  cases t.kind with
  | expr e =>
      refine (h.exprOf ls).next fun x hx => ?_
      exact matches_clean rfl (by simp [places, hx])
  | decl kind =>
      refine (h.genDecl ls kind).next fun x hx => ?_
      exact matches_clean rfl (by simp [places, hx])
  | stmt e =>
      cases e with
      | expressionStatement | incStatement | decStatement | goStatement | deferStatement =>
          refine h.exprFirst ls fun x hx => ?_
          exact matches_clean rfl (by simp [places, hx])
      | sendStatement => exact h.send ls
      | receiveStatement => exact h.receive ls
      | assignmentStatement => exact h.assignment ls
      | shortVarDeclaration => exact h.shortDeclaration ls
      | returnStatement => exact h.ret ls
      | breakStatement | continueStatement | gotoStatement | fallthroughStatement =>
          exact h.branch ls _
      | labeledStatement | emptyLabeledStatement => exact h.labeled ls
      | ifStatement => exact h.ifElse ls
      | forStatement => exact h.loop ls
      | expressionSwitchStatement => exact h.switch ls
      | typeSwitchStatement => exact h.typeSwitch ls
      | selectStatement => exact h.select ls
      | block => exact h.block ls
      | emptyStatement => exact matches_clean rfl allClean_nil
  | _ => exact h.refuse _

theorem stmtsOf (h : Twin d k s s' r r') (ls : List String) :
    Matches k (Same AllClean) (Draft.stmts s ls r) (Draft.stmts s' ls r') := by
  unfold Draft.stmts
  rw [h.tree.kind]
  split
  · refine h.bodies ls h.tree.parts fun body hbody => ?_
    exact .ok ⟨rfl, hbody⟩
  · refine (h.stmtOf ls).next fun x hx => ?_
    exact .ok ⟨rfl, by simp [hx]⟩

end Twin

/-- The readers of two trees that say the same match. What a construct takes from smaller trees
matches by induction on the size. -/
theorem twin (hs : s.Within s' d k) {t t' : Tree} (ht : Alike d t t') :
    Twin d k s s' (readers s t) (readers s' t') := by
  have ih : ∀ (c : Below t) (c' : Below t'), Alike.Below d c c' →
      Twin d k s s' (readers s c.1) (readers s' c'.1) := by
    intro c c' hc
    have := c.2
    exact twin hs hc
  refine ⟨hs, ht, fun c c' hc ls => ?_, fun c c' hc ls => ?_, fun c c' hc ls => ?_⟩
  · rw [readers_expr, readers_expr]
    exact (ih c c' hc).exprOf ls
  · rw [readers_stmt, readers_stmt]
    exact (ih c c' hc).stmtOf ls
  · rw [readers_stmts, readers_stmts]
    exact (ih c c' hc).stmtsOf ls
termination_by t.size

end GoMetrics.Draft
