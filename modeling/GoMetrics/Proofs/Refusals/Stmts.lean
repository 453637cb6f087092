import GoMetrics.Proofs.Refusals.Exprs
import GoMetrics.Syntax.Draft.Read

/-!
Statements and declarations of names fail only for faults inside the tree. The main result is that
this holds of the readings of every tree that lies inside, in whatever way it is read.
-/

namespace GoMetrics.Draft

open GoMetrics.Tree

variable {s : Source} {root t : Tree} {r : Readers t}

namespace Blaming

/-! Declarations of names -/

theorem typeSpec (h : Blaming s root r) (ls : List String) :
    Blamed s root (Draft.typeSpec s ls r) := by
  refine (blamed_slotText .name).bind fun name _ => ?_
  exact h.exprAt ls .type fun _ => .ok _

theorem valueSpec (h : Blaming s root r) (ls : List String) :
    Blamed s root (Draft.valueSpec s ls r) := by
  refine (h.exprAt? ls .type).bind fun type _ => ?_
  exact (h.slotList ls .value).bind fun _ _ => .ok _

theorem specOf (h : Blaming s root r) (ls : List String) : Blamed s root (Draft.spec s ls r) := by
  unfold Draft.spec
  cases hk : t.kind with
  | part p =>
      cases p with
      | typeSpec | typeAlias => exact h.typeSpec ls
      | varSpec | constSpec => exact h.valueSpec ls
      | _ => exact blamed_refuse h.inside (.declaration (by rw [hk]; rfl))
  | _ => exact blamed_refuse h.inside (.declaration (by rw [hk]; rfl))

theorem genDecl (h : Blaming s root r) (ls : List String) (k : DeclKind) :
    Blamed s root (Draft.genDecl s ls r k) := by
  refine Blamed.bind ?_ fun _ _ => .ok _
  exact .mapM fun c hc => (h.under (h.spec hc)).specOf ls

/-! Assignments -/

theorem target (h : Blaming s root r) (ls : List String) {c : Below t} (hc : Inside root c) :
    Blamed s root (Draft.target s ls r c) := by
  unfold Draft.target
  split
  · exact .ok _
  · exact .ok _
  · exact h.expr c hc ls

theorem targets (h : Blaming s root r) (ls : List String) {c : Below t} (hc : Inside root c) :
    Blamed s root (Draft.targets s ls r c) := by
  unfold Draft.targets
  split
  · exact (h.under hc).parts fun d hd => (h.under hc).target ls hd
  · exact (h.target ls hc).bind fun _ _ => .ok _

theorem leftOf (h : Blaming s root r) (ls : List String) (sign : String) {c : Below t}
    (hc : Inside root c) : Blamed s root (Draft.leftOf s ls r sign c) := by
  unfold Draft.leftOf
  split
  · exact h.targets ls hc
  · exact h.exprList ls hc

theorem receive (h : Blaming s root r) (ls : List String) :
    Blamed s root (Draft.receive s ls r) := by
  refine h.exprAt ls .right fun right => ?_
  split
  · exact .ok _
  · rename_i c hc
    exact (h.leftOf ls _ (h.at? hc)).bind fun _ _ => .ok _

theorem assignment (h : Blaming s root r) (ls : List String) :
    Blamed s root (Draft.assignment s ls r) := by
  refine (h.slotList ls .right).bind fun rhs _ => ?_
  refine (h.slotList ls .left).bind fun lhs _ => ?_
  exact (blamed_slotText .operator).bind fun _ _ => .ok _

theorem shortDeclaration (h : Blaming s root r) (ls : List String) :
    Blamed s root (Draft.shortDeclaration s ls r) := by
  refine (h.slotList ls .right).bind fun rhs _ => ?_
  refine h.atSlot .left fun c hc => ?_
  exact (h.targets ls hc).bind fun _ _ => .ok _

/-! Simple statements -/

theorem send (h : Blaming s root r) (ls : List String) : Blamed s root (Draft.send ls r) := by
  refine h.exprAt ls .channel fun chan => ?_
  exact h.exprAt ls .value fun _ => .ok _

theorem ret (h : Blaming s root r) (ls : List String) : Blamed s root (Draft.ret ls r) := by
  unfold Draft.ret
  split
  · exact .ok _
  · rename_i c rest hp
    exact (h.exprList ls (h.part (hp ▸ List.mem_cons_self))).bind fun _ _ => .ok _

theorem branch (h : Blaming s root r) (ls : List String) (tok : String) :
    Blamed s root (Draft.branch ls r tok) := by
  refine Blamed.bind ?_ fun _ _ => .ok _
  exact .option fun c hc => h.expr c (h.foundPart hc) ls

theorem labeled (h : Blaming s root r) (ls : List String) :
    Blamed s root (Draft.labeled s ls r) := by
  refine h.atSlot .label fun label _ => ?_
  split
  · exact .ok _
  · rename_i c hc
    exact (h.stmt c (h.foundPart hc) ls).bind fun _ _ => .ok _

/-! Branches and loops -/

theorem ifElse (h : Blaming s root r) (ls : List String) : Blamed s root (Draft.ifElse ls r) := by
  refine (h.stmtAt? ls .initializer).bind fun init _ => ?_
  refine h.exprAt ls .condition fun cond => ?_
  refine h.atSlot .consequence fun c hc => ?_
  refine ((h.under hc).block ls).bind fun body _ => ?_
  exact (h.stmtAt? ls .alternative).bind fun _ _ => .ok _

theorem rangeLoop (h : Blaming s root r) (ls : List String) {body : Result}
    (hb : Blamed s root body) : Blamed s root (Draft.rangeLoop s ls r body) := by
  refine h.exprAt ls .right fun x => ?_
  split
  · exact hb.bind fun _ _ => .ok _
  · rename_i c hc
    refine (h.leftOf ls _ (h.at? hc)).bind fun lhs _ => ?_
    cases lhs with
    | nil => exact .lacks _
    | cons key rest => exact hb.bind fun _ _ => .ok _

theorem clauseLoop (h : Blaming s root r) (ls : List String) {body : Result}
    (hb : Blamed s root body) : Blamed s root (Draft.clauseLoop ls r body) := by
  refine (h.stmtAt? ls .initializer).bind fun init _ => ?_
  refine (h.exprAt? ls .condition).bind fun cond _ => ?_
  refine (h.stmtAt? ls .update).bind fun post _ => ?_
  exact hb.bind fun _ _ => .ok _

theorem loop (h : Blaming s root r) (ls : List String) : Blamed s root (Draft.loop s ls r) := by
  refine h.atSlot .body fun c hc => ?_
  have hb := (h.under hc).block ls
  dsimp only
  split
  · exact hb.bind fun _ _ => .ok _
  · rename_i header hh
    have hin := h.foundPart hh
    split
    · exact (h.under hin).rangeLoop ls hb
    · exact (h.under hin).clauseLoop ls hb
    · refine (h.expr header hin ls).bind fun cond _ => ?_
      exact hb.bind fun _ _ => .ok _

/-! Clauses -/

theorem caseExprs (h : Blaming s root r) (ls : List String) :
    Blamed s root (Draft.caseExprs ls r) := by
  unfold Draft.caseExprs
  split
  · exact .ok _
  · exact (h.exprAll ls .type).map some
  · exact (h.slotList ls .value).map some

theorem afterColon (h : Blaming s root r) (ls : List String) :
    Blamed s root ((Draft.afterColon t).2.mapM (r.stmts ls)) :=
  .mapM fun c hc => h.stmts c (h.part (mem_parts_of_mem_afterColon hc)) ls

theorem caseClause (h : Blaming s root r) (ls : List String) :
    Blamed s root (Draft.caseClause ls r) := by
  refine (h.caseExprs ls).bind fun exprs _ => ?_
  exact (h.afterColon ls).bind fun _ _ => .ok _

theorem commClause (h : Blaming s root r) (ls : List String) :
    Blamed s root (Draft.commClause ls r) := by
  refine (h.stmtAt? ls .communication).bind fun comm _ => ?_
  exact (h.afterColon ls).bind fun _ _ => .ok _

theorem clauses (h : Blaming s root r) (k : PartKind) {clause : Below t → Result}
    (hf : ∀ c, Inside root c → Blamed s root (clause c)) :
    Blamed s root (Draft.clauses k clause) := by
  refine Blamed.bind ?_ fun _ _ => .ok _
  exact .mapM fun c hc => hf c (h.part (List.mem_filter.1 hc).1)

theorem switch (h : Blaming s root r) (ls : List String) : Blamed s root (Draft.switch ls r) := by
  refine (h.stmtAt? ls .initializer).bind fun init _ => ?_
  refine (h.exprAt? ls .value).bind fun tag _ => ?_
  exact (h.clauses .expressionCase fun c hc => (h.under hc).caseClause ls).bind fun _ _ => .ok _

theorem guard (h : Blaming s root r) (ls : List String) : Blamed s root (Draft.guard s ls r) := by
  refine h.exprAt ls .value fun x => ?_
  dsimp only
  split
  · exact .ok _
  · rename_i c hc
    exact (h.targets ls (h.at? hc)).bind fun _ _ => .ok _

theorem typeSwitch (h : Blaming s root r) (ls : List String) :
    Blamed s root (Draft.typeSwitch s ls r) := by
  refine (h.stmtAt? ls .initializer).bind fun init _ => ?_
  refine (h.guard ls).bind fun guard _ => ?_
  exact (h.clauses .typeCase fun c hc => (h.under hc).caseClause ls).bind fun _ _ => .ok _

theorem select (h : Blaming s root r) (ls : List String) : Blamed s root (Draft.select ls r) :=
  (h.clauses .communicationCase fun _ hc => (h.under hc).commClause ls).bind fun _ _ => .ok _

/-! Statements -/

theorem stmtOf (h : Blaming s root r) (ls : List String) : Blamed s root (Draft.stmt s ls r) := by
  unfold Draft.stmt
  cases hk : t.kind with
  | expr e => exact (h.exprOf ls).bind fun _ _ => .ok _
  | decl k => exact (h.genDecl ls k).bind fun _ _ => .ok _
  | stmt e =>
      cases e with
      | expressionStatement | incStatement | decStatement | goStatement | deferStatement =>
          exact h.exprFirst ls fun _ => .ok _
      | sendStatement => exact h.send ls
      | receiveStatement => exact h.receive ls
      | assignmentStatement => exact h.assignment ls
      | shortVarDeclaration => exact h.shortDeclaration ls
      | returnStatement => exact h.ret ls
      | breakStatement | continueStatement | gotoStatement | fallthroughStatement =>
          exact h.branch ls _
      | labeledStatement | emptyLabeledStatement => exact h.labeled ls
      | ifStatement => exact h.ifElse ls
      | forStatement => exact h.loop ls
      | expressionSwitchStatement => exact h.switch ls
      | typeSwitchStatement => exact h.typeSwitch ls
      | selectStatement => exact h.select ls
      | block => exact h.block ls
      | emptyStatement => exact .ok _
  | _ => exact blamed_refuse h.inside (.statement (by rw [hk]; rfl))

theorem stmtsOf (h : Blaming s root r) (ls : List String) :
    Blamed s root (Draft.stmts s ls r) := by
  unfold Draft.stmts
  split
  · exact (h.stmtsParts ls).bind fun _ _ => .ok _
  · exact (h.stmtOf ls).bind fun _ _ => .ok _

end Blaming

/-- The readings of a tree fail only for faults inside any tree around it. What a construct takes
from smaller trees does so by induction on the size. -/
theorem blaming {t : Tree} (ht : t ∈ root.preorder) : Blaming s root (readers s t) := by
  have ih : ∀ c : Below t, Inside root c → Blaming s root (readers s c.1) := by
    intro c hc
    have := c.2
    exact blaming hc
  refine ⟨ht, fun c hc ls => ?_, fun c hc ls => ?_, fun c hc ls => ?_⟩
  · rw [readers_expr]
    exact (ih c hc).exprOf ls
  · rw [readers_stmt]
    exact (ih c hc).stmtOf ls
  · rw [readers_stmts]
    exact (ih c hc).stmtsOf ls
termination_by t.size

end GoMetrics.Draft
