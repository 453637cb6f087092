import GoMetrics.Proofs.Draft.Exprs

/-!
Statements and declarations that can be read, in terms of their parts: for each construct, exactly
when it can be, and what draft that gives.
-/

namespace GoMetrics.Draft

open Readers

variable {s : Source} {ls : List String} {t : Tree} {r : Readers t} {n : Node Role}

/-! Declarations of names -/

theorem typeSpec_eq_ok :
    typeSpec s ls r = .ok n ↔
      ∃ name, slotText s t .name = .ok name ∧ ∃ type, r.Exprs ls (t.at? .type).toList [type] ∧
        .typeSpec (.ident name .binds) (typeParams s t) type = n := by
  simp only [typeSpec, Except.bind_eq_ok, Except.pure_eq_ok, slot_eq_ok, exists_expr_iff]

theorem valueSpec_eq_ok :
    valueSpec s ls r = .ok n ↔
      ∃ type, r.Exprs ls (t.at? .type).toList type.toList ∧
        ∃ values, slotList ls r .value = .ok values ∧
          .valueSpec (bindings (names s t)) type values = n := by
  simp only [valueSpec, Except.bind_eq_ok, Except.pure_eq_ok, exprOpt_eq_ok]

theorem spec_eq_ok :
    spec s ls r = .ok n ↔
      ((t.kind = .part .typeSpec ∨ t.kind = .part .typeAlias) ∧ typeSpec s ls r = .ok n) ∨
        ((t.kind = .part .varSpec ∨ t.kind = .part .constSpec) ∧ valueSpec s ls r = .ok n) := by
  unfold spec
  split <;> simp_all [refuse]

/-- The specs of a declaration stand by themselves or in lists. -/
theorem specs_of_eq_ok {ns : List (Node Role)}
    (h : (t.specs.mapM fun c => spec s ls (r.under c)) = .ok ns) :
    ∃ nss, ns = nss.flatten ∧ List.Forall₂ (fun c ns =>
      (c.1.kind.isSpecList = true ∧
        List.Forall₂ (fun d n => spec s ls ((r.under c).under d) = .ok n) c.1.parts ns) ∨
      (c.1.kind.isSpecList ≠ true ∧ ∃ n, spec s ls (r.under c) = .ok n ∧ [n] = ns))
        t.parts nss := by
  rw [Except.mapM_eq_ok, Tree.specs] at h
  obtain ⟨nss, rfl, hf⟩ := Except.forall₂_flatMap_left h
  refine ⟨nss, rfl, hf.imp fun c ns hc => ?_⟩
  split at hc
  · exact .inl ⟨‹_›, List.forall₂_map_left_iff.1 hc⟩
  · obtain ⟨n, _, hn, hnil, rfl⟩ := List.forall₂_cons_left_iff.1 hc
    cases hnil
    exact .inr ⟨‹_›, n, hn, rfl⟩

theorem genDecl_eq_ok {k : DeclKind} :
    genDecl s ls r k = .ok n ↔
      ∃ specs, (t.specs.mapM fun c => spec s ls (r.under c)) = .ok specs ∧
        .genDecl k.keyword specs (t.group.hasToken "(") (t.group.hasToken ")") = n := by
  simp only [genDecl, Except.bind_eq_ok, Except.pure_eq_ok]

/-! Assignments -/

theorem target_eq_ok {c : Tree.Below t} :
    target s ls r c = .ok n ↔
      ((c.1.kind = .expr .identifier ∨ c.1.kind = .expr .blankIdentifier) ∧
        .ident (s.textOf c.1) .binds = n) ∨
      (c.1.kind ≠ .expr .identifier ∧ c.1.kind ≠ .expr .blankIdentifier ∧
        r.expr ls c = .ok n) := by
  unfold target
  split <;> simp_all

theorem targets_eq_ok {c : Tree.Below t} {ns : List (Node Role)} :
    targets s ls r c = .ok ns ↔
      (c.1.kind = .part .expressionList ∧
        List.Forall₂ (fun d n => target s ls (r.under c) d = .ok n) c.1.parts ns) ∨
      (c.1.kind ≠ .part .expressionList ∧ ∃ n, target s ls r c = .ok n ∧ [n] = ns) := by
  unfold targets
  split <;> simp [*, Except.mapM_eq_ok, Except.map_eq_ok]

/-- The sign decides how what stands on its left is read. -/
theorem leftOf_eq_ok {c : Tree.Below t} {ns : List (Node Role)} :
    leftOf s ls r (signOf t) c = .ok ns ↔
      (t.hasToken ":=" = true ∧ targets s ls r c = .ok ns) ∨
        (t.hasToken ":=" = false ∧ exprList ls r c = .ok ns) := by
  unfold leftOf signOf
  cases t.hasToken ":=" <;> simp

theorem receive_eq_ok :
    receive s ls r = .ok n ↔
      ∃ x, r.Exprs ls (t.at? .right).toList [x] ∧
        ((t.at? .left = none ∧ .exprStmt x = n) ∨
          ∃ c, t.at? .left = some c ∧ ∃ lhs, leftOf s ls r (signOf t) c = .ok lhs ∧
            .assign lhs (signOf t) [x] = n) := by
  simp only [receive, Except.bind_eq_ok, slot_eq_ok, exists_expr_iff]
  cases t.at? .left <;> simp [Except.map_eq_ok, Except.pure_eq_ok]

theorem assignment_eq_ok :
    assignment s ls r = .ok n ↔
      ∃ rhs, slotList ls r .right = .ok rhs ∧ ∃ lhs, slotList ls r .left = .ok lhs ∧
        ∃ op, slotText s t .operator = .ok op ∧ .assign lhs op rhs = n := by
  simp only [assignment, Except.bind_eq_ok, Except.pure_eq_ok]

theorem shortDeclaration_eq_ok :
    shortDeclaration s ls r = .ok n ↔
      ∃ rhs, slotList ls r .right = .ok rhs ∧ ∃ c, t.at? .left = some c ∧
        ∃ lhs, targets s ls r c = .ok lhs ∧ .assign lhs ":=" rhs = n := by
  simp only [shortDeclaration, Except.bind_eq_ok, Except.pure_eq_ok, slot_eq_ok]

/-! Simple statements -/

theorem send_eq_ok :
    send ls r = .ok n ↔
      ∃ x, r.Exprs ls (t.at? .channel).toList [x] ∧
        ∃ y, r.Exprs ls (t.at? .value).toList [y] ∧ .send x y = n := by
  simp only [send, Except.bind_eq_ok, Except.pure_eq_ok, slot_eq_ok, exists_expr_iff]

theorem ret_eq_ok :
    ret ls r = .ok n ↔
      (t.parts.head? = none ∧ .ret [] = n) ∨
        ∃ c, t.parts.head? = some c ∧ ∃ xs, exprList ls r c = .ok xs ∧ .ret xs = n := by
  unfold ret
  cases t.parts <;> simp [Except.map_eq_ok]

theorem branch_eq_ok {tok : String} :
    branch ls r tok = .ok n ↔
      ∃ label, r.Exprs ls (t.parts.find? (·.1.kind == .expr .labelName)).toList label.toList ∧
        .branch tok label = n := by
  simp only [branch, Except.bind_eq_ok, Except.pure_eq_ok, exprOpt_eq_ok]

/-- A label may stand before nothing. -/
theorem labeled_eq_ok :
    labeled s ls r = .ok n ↔
      ∃ c, t.at? .label = some c ∧
        ∃ body, ((t.parts.find? (c.1.stop ≤ ·.1.start) = none ∧ .empty = body) ∨
            ∃ d, t.parts.find? (c.1.stop ≤ ·.1.start) = some d ∧ r.stmt ls d = .ok body) ∧
          .labeled (.ident (s.textOf c.1) (.settled true)) body = n := by
  simp only [labeled, Except.bind_eq_ok, slot_eq_ok]
  refine exists_congr fun c => and_congr_right fun _ => ?_
  cases t.parts.find? (c.1.stop ≤ ·.1.start) <;> simp [Except.map_eq_ok, Except.pure_eq_ok]

/-! Branches and loops -/

theorem ifElse_eq_ok :
    ifElse ls r = .ok n ↔
      ∃ init, r.Stmts ls (t.at? .initializer).toList init.toList ∧
        ∃ cond, r.Exprs ls (t.at? .condition).toList [cond] ∧
        ∃ c, t.at? .consequence = some c ∧ ∃ body, block ls (r.under c) = .ok body ∧
        ∃ orElse, r.Stmts ls (t.at? .alternative).toList orElse.toList ∧
          .ifStmt cond body init orElse = n := by
  simp only [ifElse, Except.bind_eq_ok, Except.pure_eq_ok, slot_eq_ok, exists_expr_iff,
    stmtOpt_eq_ok]

/-- Of the targets of a range loop the first two have places of their own. -/
theorem rangeLoop_eq_ok {b : Result} :
    rangeLoop s ls r b = .ok n ↔
      ∃ x, r.Exprs ls (t.at? .right).toList [x] ∧ ∃ body, b = .ok body ∧
        ((t.at? .left = none ∧ .range x body none none "" [] = n) ∨
          ∃ c, t.at? .left = some c ∧
            ∃ key rest, leftOf s ls r (signOf t) c = .ok (key :: rest) ∧
              .range x body (some key) rest.head? (signOf t) rest.tail = n) := by
  simp only [rangeLoop, Except.bind_eq_ok, slot_eq_ok, exists_expr_iff]
  refine exists_congr fun x => and_congr_right fun _ => ?_
  cases t.at? .left with
  | none => simp [Except.map_eq_ok]
  | some c =>
      constructor
      · intro h
        obtain ⟨ns, hns, h⟩ := Except.bind_eq_ok.1 h
        cases ns with
        | nil => cases h
        | cons key rest =>
            obtain ⟨body, hb, h⟩ := Except.bind_eq_ok.1 h
            exact ⟨body, hb, .inr ⟨c, rfl, key, rest, hns, Except.pure_eq_ok.1 h⟩⟩
      · rintro ⟨body, rfl, ⟨h, -⟩ | ⟨_, ⟨⟩, key, rest, hns, rfl⟩⟩
        · cases h
        · exact Except.bind_eq_ok.2 ⟨key :: rest, hns, rfl⟩

theorem clauseLoop_eq_ok {b : Result} :
    clauseLoop ls r b = .ok n ↔
      ∃ init, r.Stmts ls (t.at? .initializer).toList init.toList ∧
        ∃ cond, r.Exprs ls (t.at? .condition).toList cond.toList ∧
        ∃ post, r.Stmts ls (t.at? .update).toList post.toList ∧
        ∃ body, b = .ok body ∧ .forStmt body init cond post = n := by
  simp only [clauseLoop, Except.bind_eq_ok, Except.pure_eq_ok, exprOpt_eq_ok, stmtOpt_eq_ok]

/-- A loop has no header, or one of three kinds. -/
theorem loop_eq_ok :
    loop s ls r = .ok n ↔
      ∃ c, t.at? .body = some c ∧
        ((t.parts.find? (·.1.stop ≤ c.1.start) = none ∧
          ∃ body, block ls (r.under c) = .ok body ∧ .forStmt body none none none = n) ∨
        ∃ header, t.parts.find? (·.1.stop ≤ c.1.start) = some header ∧
          ((header.1.kind = .part .rangeClause ∧
              rangeLoop s ls (r.under header) (block ls (r.under c)) = .ok n) ∨
            (header.1.kind = .part .forClause ∧
              clauseLoop ls (r.under header) (block ls (r.under c)) = .ok n) ∨
            (header.1.kind ≠ .part .rangeClause ∧ header.1.kind ≠ .part .forClause ∧
              ∃ cond, r.expr ls header = .ok cond ∧
                ∃ body, block ls (r.under c) = .ok body ∧
                  .forStmt body none (some cond) none = n))) := by
  simp only [loop, Except.bind_eq_ok, slot_eq_ok]
  refine exists_congr fun c => and_congr_right fun _ => ?_
  cases t.parts.find? (·.1.stop ≤ c.1.start) with
  | none => simp [Except.map_eq_ok]
  | some header =>
      dsimp only
      split
      · simp [*]
      · simp [*]
      · rename_i hrange hclauses
        have hr : header.1.kind ≠ .part .rangeClause := hrange
        have hf : header.1.kind ≠ .part .forClause := hclauses
        simp [hr, hf, Except.bind_eq_ok, Except.map_eq_ok]

/-! Clauses -/

theorem caseExprs_eq_ok {exprs : Option (List (Node Role))} :
    caseExprs ls r = .ok exprs ↔
      (t.kind = .part .defaultCase ∧ none = exprs) ∨
      (t.kind = .part .typeCase ∧ ∃ xs, r.Exprs ls (t.allAt .type) xs ∧ some xs = exprs) ∨
      (t.kind ≠ .part .defaultCase ∧ t.kind ≠ .part .typeCase ∧
        ∃ xs, slotList ls r .value = .ok xs ∧ some xs = exprs) := by
  unfold caseExprs
  split <;> simp_all [Except.map_eq_ok, exprs_eq_ok]

theorem caseClause_eq_ok :
    caseClause ls r = .ok n ↔
      ∃ exprs, caseExprs ls r = .ok exprs ∧ ∃ body, r.Bodies ls (afterColon t).2 body ∧
        .caseClause exprs body.flatten (afterColon t).1 = n := by
  simp only [caseClause, Except.bind_eq_ok, Except.pure_eq_ok, bodies_eq_ok]

theorem commClause_eq_ok :
    commClause ls r = .ok n ↔
      ∃ comm, r.Stmts ls (t.at? .communication).toList comm.toList ∧
        ∃ body, r.Bodies ls (afterColon t).2 body ∧
          .commClause comm body.flatten (afterColon t).1 = n := by
  simp only [commClause, Except.bind_eq_ok, Except.pure_eq_ok, bodies_eq_ok, stmtOpt_eq_ok]

theorem clauses_eq_ok {k : PartKind} {clause : (c : Tree.Below t) → Result} :
    clauses k clause = .ok n ↔
      ∃ ns, List.Forall₂ (fun c n => clause c = .ok n)
          (t.parts.filter fun c => c.1.kind = .part k ∨ c.1.kind = .part .defaultCase) ns ∧
        .block ns (t.hasToken "\x7b") (t.hasToken "\x7d") = n := by
  simp only [clauses, Except.bind_eq_ok, Except.pure_eq_ok, Except.mapM_eq_ok]

theorem switch_eq_ok :
    switch ls r = .ok n ↔
      ∃ init, r.Stmts ls (t.at? .initializer).toList init.toList ∧
        ∃ tag, r.Exprs ls (t.at? .value).toList tag.toList ∧
        ∃ body, clauses .expressionCase (fun c => caseClause ls (r.under c)) = .ok body ∧
          .switch body init tag = n := by
  simp only [switch, Except.bind_eq_ok, Except.pure_eq_ok, exprOpt_eq_ok, stmtOpt_eq_ok]

theorem guard_eq_ok :
    guard s ls r = .ok n ↔
      ∃ x, r.Exprs ls (t.at? .value).toList [x] ∧
        ((t.at? .alias = none ∧
            .exprStmt (.typeAssert x none (t.hasToken "(") (t.hasToken ")")) = n) ∨
          ∃ c, t.at? .alias = some c ∧ ∃ lhs, targets s ls r c = .ok lhs ∧
            .assign lhs ":=" [.typeAssert x none (t.hasToken "(") (t.hasToken ")")] = n) := by
  simp only [guard, Except.bind_eq_ok, slot_eq_ok, exists_expr_iff]
  cases t.at? .alias <;> simp [Except.map_eq_ok, Except.pure_eq_ok]

theorem typeSwitch_eq_ok :
    typeSwitch s ls r = .ok n ↔
      ∃ init, r.Stmts ls (t.at? .initializer).toList init.toList ∧
        ∃ subject, guard s ls r = .ok subject ∧
        ∃ body, clauses .typeCase (fun c => caseClause ls (r.under c)) = .ok body ∧
          .typeSwitch subject body init = n := by
  simp only [typeSwitch, Except.bind_eq_ok, Except.pure_eq_ok, stmtOpt_eq_ok]

theorem select_eq_ok :
    select ls r = .ok n ↔
      ∃ body, clauses .communicationCase (fun c => commClause ls (r.under c)) = .ok body ∧
        .select body = n := by
  simp only [select, Except.bind_eq_ok, Except.pure_eq_ok]

/-! Statements -/

theorem stmt_of_expr {k : ExprKind} (hk : t.kind = .expr k) :
    stmt s ls r = .ok n ↔ ∃ x, expr s ls r = .ok x ∧ .exprStmt x = n := by
  simp only [stmt, hk, Except.bind_eq_ok, Except.pure_eq_ok]

theorem stmt_of_decl {k : DeclKind} (hk : t.kind = .decl k) :
    stmt s ls r = .ok n ↔ ∃ d, genDecl s ls r k = .ok d ∧ .declStmt d = n := by
  simp only [stmt, hk, Except.bind_eq_ok, Except.pure_eq_ok]

theorem kind_of_stmt (h : stmt s ls r = .ok n) :
    (∃ k, t.kind = .expr k) ∨ (∃ k, t.kind = .decl k) ∨ ∃ k, t.kind = .stmt k := by
  cases hk : t.kind with
  | expr k => exact .inl ⟨k, rfl⟩
  | decl k => exact .inr (.inl ⟨k, rfl⟩)
  | stmt k => exact .inr (.inr ⟨k, rfl⟩)
  | _ => simp [stmt, hk, refuse] at h

/-- Lists of statements stand for their statements. -/
theorem stmts_eq_ok {ns : List (Node Role)} :
    stmts s ls r = .ok ns ↔
      (t.kind = .part .statementList ∧ ∃ body, r.Bodies ls t.parts body ∧ body.flatten = ns) ∨
        (t.kind ≠ .part .statementList ∧ ∃ n, stmt s ls r = .ok n ∧ [n] = ns) := by
  unfold stmts
  split <;> simp [*, Except.map_eq_ok, bodies_eq_ok]

/-! Top-level nodes -/

theorem receiver_eq_ok {recv : Option (List (Node Role))} :
    receiver s ls r = .ok recv ↔
      (t.kind = .methodDeclaration ∧
        ((t.at? .receiver = none ∧ some [] = recv) ∨
          ∃ c, t.at? .receiver = some c ∧
            ∃ ps, params s ls (r.under c) = .ok ps ∧ some ps = recv)) ∨
      (t.kind ≠ .methodDeclaration ∧ none = recv) := by
  unfold receiver
  split
  · cases t.at? .receiver <;> simp [*, Except.map_eq_ok]
  · simp [*]

theorem funcDecl_eq_ok :
    funcDecl s r = .ok n ↔
      ∃ name, slotText s t .name = .ok name ∧ ∃ own, bodyLabels s t = .ok own ∧
        ∃ recv, receiver s own r = .ok recv ∧ ∃ type, signature s own r true = .ok type ∧
        ∃ body, List.Forall₂ (fun c b => block own (r.under c) = .ok b)
            (t.at? .body).toList body.toList ∧
          .funcDecl name (if t.kind = .methodDeclaration then .settled false else .use)
            (typeParams s t) type (s.position t.start) (s.position t.stop) body recv = n := by
  simp only [funcDecl, Except.bind_eq_ok, Except.pure_eq_ok, Except.option_mapM_eq_ok]

/-- A top-level node is a function, a declaration of names, or a clause. -/
theorem decl_eq_ok {d : Option (Node Role)} :
    decl s t = .ok d ↔
      ((t.kind = .functionDeclaration ∨ t.kind = .methodDeclaration) ∧
        ∃ n, funcDecl s (readers s t) = .ok n ∧ some n = d) ∨
      (∃ k, t.kind = .decl k ∧ ∃ n, genDecl s [] (readers s t) k = .ok n ∧ some n = d) ∨
      ((t.kind = .part .packageClause ∨ t.kind = .part .importDeclaration) ∧ none = d) := by
  unfold decl
  split <;> simp_all [Except.map_eq_ok, refuse]

end GoMetrics.Draft
