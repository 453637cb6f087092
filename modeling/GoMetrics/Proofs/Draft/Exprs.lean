import GoMetrics.Proofs.Draft.Success

/-!
Expressions and types that can be read: for each construct, exactly when it can be, and what draft
that gives. What a draft is made of is told in terms of the parts of its tree, whatever they are
read with.
-/

namespace GoMetrics.Draft

open Readers

variable {s : Source} {ls : List String} {t : Tree} {r : Readers t} {n : Node Role}

/-- Only expressions are read as expressions. -/
theorem kind_of_expr (h : expr s ls r = .ok n) : ∃ k, t.kind = .expr k := by
  cases hk : t.kind with
  | expr k => exact ⟨k, rfl⟩
  | _ => simp [expr, hk, refuse] at h

/-- The labels of a body can be told if none of them is lacking. -/
theorem bodyLabels_eq_ok {own : List String} :
    bodyLabels s t = .ok own ↔
      (t.at? .body = none ∧ [] = own) ∨ ∃ c, t.at? .body = some c ∧ s.labels? c.1 = some own := by
  unfold bodyLabels
  cases t.at? .body with
  | none => simp
  | some c => cases hl : s.labels? c.1 <;> simp [hl]

/-- A construct around its first part. -/
theorem wrapped_eq_ok {g : Node Role → Node Role} :
    (do return g (← r.expr ls (← first t)) : Result) = .ok n ↔
      ∃ x, r.Exprs ls t.parts.head?.toList [x] ∧ g x = n := by
  simp only [Except.bind_eq_ok, Except.pure_eq_ok, first_eq_ok, exists_expr_iff]

/-! Parts of expressions -/

theorem argument_eq_ok {c : Tree.Below t} :
    argument ls r c = .ok n ↔
      (c.1.kind = .part .variadicArgument ∧ (r.under c).Exprs ls c.1.parts.head?.toList [n]) ∨
        (c.1.kind ≠ .part .variadicArgument ∧ r.expr ls c = .ok n) := by
  unfold argument
  split
  · simp [*, Except.bind_eq_ok, first_eq_ok, ← expr_iff, under_expr]
  · simp [*]

theorem exprList_eq_ok {c : Tree.Below t} {ns : List (Node Role)} :
    exprList ls r c = .ok ns ↔
      (c.1.kind = .part .expressionList ∧ (r.under c).Exprs ls c.1.parts ns) ∨
        (c.1.kind ≠ .part .expressionList ∧ ∃ x, r.expr ls c = .ok x ∧ [x] = ns) := by
  unfold exprList
  split <;> simp [*, exprs_eq_ok, Except.map_eq_ok]

theorem slotList_eq_ok {p : Slot} {ns : List (Node Role)} :
    slotList ls r p = .ok ns ↔
      (t.at? p = none ∧ [] = ns) ∨ ∃ c, t.at? p = some c ∧ exprList ls r c = .ok ns := by
  unfold slotList
  cases t.at? p <;> simp

theorem unwrap_eq_ok {c d : Tree.Below t} :
    unwrap c = .ok d ↔
      (c.1.kind = .part .literalElement ∧ ∃ e, c.1.parts.head? = some e ∧ c.trans e = d) ∨
        (c.1.kind ≠ .part .literalElement ∧ c = d) := by
  unfold unwrap
  split <;> simp [*, first_eq_ok, Except.map_eq_ok, Except.pure_eq_ok]

theorem element_eq_ok {c : Tree.Below t} :
    element ls r c = .ok n ↔
      (c.1.kind = .part .literalElement ∧ (r.under c).Exprs ls c.1.parts.head?.toList [n]) ∨
        (c.1.kind ≠ .part .literalElement ∧ r.expr ls c = .ok n) := by
  simp only [element, Except.bind_eq_ok, unwrap_eq_ok, ← expr_iff]
  by_cases hc : c.1.kind = .part .literalElement <;> simp [hc, under_expr, -Subtype.exists]

theorem elementKey_eq_ok {c : Tree.Below t} :
    elementKey s ls r c = .ok n ↔
      ((c.1.kind = .expr .identifier ∨ c.1.kind = .expr .fieldIdentifier) ∧
        .ident (s.textOf c.1) .key = n) ∨
      (c.1.kind ≠ .expr .identifier ∧ c.1.kind ≠ .expr .fieldIdentifier ∧
        r.expr ls c = .ok n) := by
  unfold elementKey
  split <;> simp_all

theorem keyed_eq_ok :
    keyed s ls r = .ok n ↔
      ∃ c, t.parts.head? = some c ∧ ∃ d, unwrap c = .ok d ∧
        ∃ key, elementKey s ls r d = .ok key ∧
          ∃ e, t.parts.getLast? = some e ∧
            ∃ x, element ls r e = .ok x ∧ .keyValue key x (t.hasToken ":") = n := by
  simp only [keyed, Except.bind_eq_ok, first_eq_ok]
  cases t.parts.getLast? <;> simp [Except.map_eq_ok, -Subtype.exists]

theorem elements_eq_ok {ns : List (Node Role)} :
    elements s ls r = .ok ns ↔
      List.Forall₂ (fun c n =>
        (if c.1.kind = .part .keyedElement then keyed s ls (r.under c) else element ls r c) =
          .ok n) t.parts ns := by
  simp only [elements, Except.mapM_eq_ok]

/-! Signatures -/

theorem param_eq_ok :
    param s ls r = .ok n ↔
      ∃ x, r.Exprs ls (t.at? .type).toList [x] ∧
        .field (bindings (names s t))
          (some (if t.kind = .part .variadicParameterDeclaration then .ellipsis (some x) else x)) =
            n := by
  simp only [param, Except.bind_eq_ok, Except.pure_eq_ok, slot_eq_ok, exists_expr_iff]

theorem params_eq_ok {ns : List (Node Role)} :
    params s ls r = .ok ns ↔
      List.Forall₂ (fun c n => param s ls (r.under c) = .ok n) t.parts ns := by
  simp only [params, Except.mapM_eq_ok]

theorem results_eq_ok {ns : List (Node Role)} :
    results s ls r = .ok ns ↔
      (t.at? .result = none ∧ [] = ns) ∨
        ∃ c, t.at? .result = some c ∧
          ((c.1.kind = .part .parameterList ∧ params s ls (r.under c) = .ok ns) ∨
            (c.1.kind ≠ .part .parameterList ∧
              ∃ x, r.expr ls c = .ok x ∧ [.field [] (some x)] = ns)) := by
  unfold results
  cases t.at? .result with
  | none => simp
  | some c =>
      by_cases hc : c.1.kind = .part .parameterList <;> simp [hc, Except.map_eq_ok]

theorem signature_eq_ok {keyword : Bool} :
    signature s ls r keyword = .ok n ↔
      ∃ ps, ((t.at? .parameters = none ∧ [] = ps) ∨
          ∃ c, t.at? .parameters = some c ∧ params s ls (r.under c) = .ok ps) ∧
        ∃ rs, results s ls r = .ok rs ∧ .funcType ps rs keyword = n := by
  unfold signature
  cases t.at? .parameters <;> simp [Except.bind_eq_ok, Except.map_eq_ok]

/-! Operands and operators -/

theorem selector_eq_ok :
    selector s ls r = .ok n ↔
      ∃ x, r.Exprs ls (t.at? .operand).toList [x] ∧ ∃ name, slotText s t .field = .ok name ∧
        .selector x (.ident name (.settled false)) = n := by
  simp only [selector, Except.bind_eq_ok, Except.pure_eq_ok, slot_eq_ok, exists_expr_iff]

theorem index_eq_ok :
    index ls r = .ok n ↔
      ∃ x, r.Exprs ls (t.at? .operand).toList [x] ∧ ∃ is, r.Exprs ls (t.allAt .index) is ∧
        .index x is (t.hasToken "[") (t.hasToken "]") = n := by
  simp only [index, Except.bind_eq_ok, Except.pure_eq_ok, slot_eq_ok, exists_expr_iff, exprs_eq_ok]

theorem slice_eq_ok :
    slice ls r = .ok n ↔
      ∃ x, r.Exprs ls (t.at? .operand).toList [x] ∧
        ∃ low, r.Exprs ls (t.at? .start).toList low.toList ∧
        ∃ high, r.Exprs ls (t.at? .stop).toList high.toList ∧
        ∃ max, r.Exprs ls (t.at? .capacity).toList max.toList ∧
          .slice x low high max (t.hasToken "[") (t.hasToken "]") = n := by
  simp only [slice, Except.bind_eq_ok, Except.pure_eq_ok, slot_eq_ok, exists_expr_iff,
    exprOpt_eq_ok]

theorem typeAssertion_eq_ok :
    typeAssertion ls r = .ok n ↔
      ∃ x, r.Exprs ls (t.at? .operand).toList [x] ∧ ∃ y, r.Exprs ls (t.at? .type).toList [y] ∧
        .typeAssert x (some y) (t.hasToken "(") (t.hasToken ")") = n := by
  simp only [typeAssertion, Except.bind_eq_ok, Except.pure_eq_ok, slot_eq_ok, exists_expr_iff]

theorem conversion_eq_ok :
    conversion ls r = .ok n ↔
      ∃ x, r.Exprs ls (t.at? .type).toList [x] ∧ ∃ y, r.Exprs ls (t.at? .operand).toList [y] ∧
        .call x [y] false (t.hasToken "(") (t.hasToken ")") = n := by
  simp only [conversion, Except.bind_eq_ok, Except.pure_eq_ok, slot_eq_ok, exists_expr_iff]

theorem instantiation_eq_ok :
    instantiation ls r = .ok n ↔
      ∃ x is, r.Exprs ls t.parts (x :: is) ∧
        .index x is (t.hasToken "[") (t.hasToken "]") = n := by
  unfold instantiation
  cases t.parts with
  | nil => simp [Exprs]
  | cons c cs =>
      simp only [Except.bind_eq_ok, Except.pure_eq_ok, exprs_eq_ok, Exprs, List.forall₂_cons]
      grind

theorem applied_eq_ok {x : Node Role} {c : Tree.Below t} :
    applied ls r x c = .ok n ↔
      ∃ args, (r.under c).Exprs ls c.1.parts args ∧
        .index x args (c.1.hasToken "[") (c.1.hasToken "]") = n := by
  simp only [applied, Except.bind_eq_ok, Except.pure_eq_ok, exprs_eq_ok]

/-- What is called may be applied to type arguments first. -/
theorem call_eq_ok :
    call ls r = .ok n ↔
      ∃ x, r.Exprs ls (t.at? .function).toList [x] ∧
        ∃ fn, ((t.at? .typeArguments = none ∧ x = fn) ∨
            ∃ types, t.at? .typeArguments = some types ∧ applied ls r x types = .ok fn) ∧
          ∃ list, t.at? .arguments = some list ∧
            ∃ args, List.Forall₂ (fun c n => argument ls (r.under list) c = .ok n)
                list.1.parts args ∧
              .call fn args (list.1.parts.any (·.1.kind == .part .variadicArgument))
                (list.1.hasToken "(") (list.1.hasToken ")") = n := by
  simp only [call, Except.bind_eq_ok, slot_eq_ok, exists_expr_iff]
  cases t.at? .typeArguments <;>
    simp [Except.bind_eq_ok, Except.map_eq_ok, slot_eq_ok, Except.mapM_eq_ok, -Subtype.exists]

theorem unary_eq_ok :
    unary s ls r = .ok n ↔
      ∃ op, slotText s t .operator = .ok op ∧ ∃ x, r.Exprs ls (t.at? .operand).toList [x] ∧
        (if op = "*" then .star x else .unary op x) = n := by
  simp only [unary, Except.bind_eq_ok, Except.pure_eq_ok, slot_eq_ok, exists_expr_iff]

theorem binary_eq_ok :
    binary s ls r = .ok n ↔
      ∃ x, r.Exprs ls (t.at? .left).toList [x] ∧ ∃ op, slotText s t .operator = .ok op ∧
        ∃ y, r.Exprs ls (t.at? .right).toList [y] ∧ .binary x op y = n := by
  simp only [binary, Except.bind_eq_ok, Except.pure_eq_ok, slot_eq_ok, exists_expr_iff]

/-! Literals -/

theorem composite_eq_ok :
    composite s ls r = .ok n ↔
      ∃ x, r.Exprs ls (t.at? .type).toList [x] ∧ ∃ c, t.at? .body = some c ∧
        ∃ es, elements s ls (r.under c) = .ok es ∧
          .compositeLit (some x) es (c.1.hasToken "\x7b") (c.1.hasToken "\x7d") = n := by
  simp only [composite, Except.bind_eq_ok, Except.pure_eq_ok, slot_eq_ok, exists_expr_iff]

theorem bareComposite_eq_ok :
    bareComposite s ls r = .ok n ↔
      ∃ es, elements s ls r = .ok es ∧
        .compositeLit none es (t.hasToken "\x7b") (t.hasToken "\x7d") = n := by
  simp only [bareComposite, Except.bind_eq_ok, Except.pure_eq_ok]

theorem block_eq_ok :
    block ls r = .ok n ↔
      ∃ body, r.Bodies ls t.parts body ∧
        .block body.flatten (t.hasToken "\x7b") (t.hasToken "\x7d") = n := by
  simp only [block, Except.bind_eq_ok, Except.pure_eq_ok, bodies_eq_ok]

theorem funcLit_eq_ok :
    funcLit s r = .ok n ↔
      ∃ own, bodyLabels s t = .ok own ∧ ∃ type, signature s own r true = .ok type ∧
        ∃ c, t.at? .body = some c ∧ ∃ body, block own (r.under c) = .ok body ∧
          .funcLit type body = n := by
  simp only [funcLit, Except.bind_eq_ok, Except.pure_eq_ok, slot_eq_ok]

/-! Types -/

theorem array_eq_ok :
    array ls r = .ok n ↔
      ∃ len, r.Exprs ls (t.at? .length).toList [len] ∧
        ∃ elt, r.Exprs ls (t.at? .element).toList [elt] ∧
          .arrayType elt (some len) (t.hasToken "[") (t.hasToken "]") = n := by
  simp only [array, Except.bind_eq_ok, Except.pure_eq_ok, slot_eq_ok, exists_expr_iff]

theorem unsized_eq_ok {len : Option (Node Role)} :
    unsized ls r len = .ok n ↔
      ∃ elt, r.Exprs ls (t.at? .element).toList [elt] ∧
        .arrayType elt len (t.hasToken "[") (t.hasToken "]") = n := by
  simp only [unsized, Except.bind_eq_ok, Except.pure_eq_ok, slot_eq_ok, exists_expr_iff]

theorem map_eq_ok :
    map ls r = .ok n ↔
      ∃ key, r.Exprs ls (t.at? .key).toList [key] ∧
        ∃ value, r.Exprs ls (t.at? .value).toList [value] ∧ .mapType key value = n := by
  simp only [map, Except.bind_eq_ok, Except.pure_eq_ok, slot_eq_ok, exists_expr_iff]

theorem chan_eq_ok :
    chan ls r = .ok n ↔
      ∃ x, r.Exprs ls (t.at? .value).toList [x] ∧ .chanType x (chanDir t) = n := by
  simp only [chan, Except.bind_eq_ok, Except.pure_eq_ok, slot_eq_ok, exists_expr_iff]

theorem structField_eq_ok :
    structField s ls r = .ok n ↔
      ∃ x, r.Exprs ls (t.at? .type).toList [x] ∧
        .field ((names s t).map fun x => .ident x (.settled true))
          (some (if (names s t).isEmpty && t.hasToken "*" then .star x else x)) = n := by
  simp only [structField, Except.bind_eq_ok, Except.pure_eq_ok, slot_eq_ok, exists_expr_iff]

theorem struct_eq_ok :
    struct s ls r = .ok n ↔
      ∃ c, t.parts.find? (·.1.kind == .part .fieldDeclarationList) = some c ∧
        ∃ fields, List.Forall₂ (fun d n => structField s ls ((r.under c).under d) = .ok n)
            c.1.parts fields ∧
          .structType fields (c.1.hasToken "\x7b") (c.1.hasToken "\x7d") = n := by
  unfold struct
  cases t.parts.find? _ <;> simp [Except.map_eq_ok, Except.mapM_eq_ok]

theorem method_eq_ok :
    method s ls r = .ok n ↔
      ∃ name, slotText s t .name = .ok name ∧ ∃ type, signature s ls r false = .ok type ∧
        .field [.ident name (.settled true)] (some type) = n := by
  simp only [method, Except.bind_eq_ok, Except.pure_eq_ok]

theorem interfaceElem_eq_ok {c : Tree.Below t} :
    interfaceElem s ls r c = .ok n ↔
      ((c.1.kind = .part .methodElem ∨ c.1.kind = .part .methodSpec) ∧
        method s ls (r.under c) = .ok n) ∨
      (¬ (c.1.kind = .part .methodElem ∨ c.1.kind = .part .methodSpec) ∧
        ∃ x, r.expr ls c = .ok x ∧ .field [] (some x) = n) := by
  unfold interfaceElem
  split <;> simp [*, Except.map_eq_ok]

theorem interface_eq_ok :
    interface s ls r = .ok n ↔
      ∃ methods, List.Forall₂ (fun c n => interfaceElem s ls r c = .ok n) t.parts methods ∧
        .interfaceType methods (t.hasToken "\x7b") (t.hasToken "\x7d") = n := by
  simp only [interface, Except.bind_eq_ok, Except.pure_eq_ok, Except.mapM_eq_ok]

theorem qualified_eq_ok :
    qualified s t = .ok n ↔
      ∃ package, slotText s t .package = .ok package ∧ ∃ name, slotText s t .name = .ok name ∧
        .selector (.ident package .use) (.ident name (.settled false)) = n := by
  simp only [qualified, Except.bind_eq_ok, Except.pure_eq_ok]

theorem generic_eq_ok :
    generic ls r = .ok n ↔
      ∃ x, r.Exprs ls (t.at? .type).toList [x] ∧
        ∃ c, t.at? .typeArguments = some c ∧ applied ls r x c = .ok n := by
  simp only [generic, Except.bind_eq_ok, slot_eq_ok, exists_expr_iff]

theorem union_eq_ok :
    union ls r = .ok n ↔
      ∃ x rest, r.Exprs ls t.parts (x :: rest) ∧
        rest.foldl (fun union term => .binary union "|" term) x = n := by
  simp only [union, Except.bind_eq_ok, exprs_eq_ok]
  constructor
  · rintro ⟨xs, hxs, h⟩
    cases xs with
    | nil => cases h
    | cons x rest => exact ⟨x, rest, hxs, Except.pure_eq_ok.1 h⟩
  · rintro ⟨x, rest, hxs, rfl⟩
    exact ⟨x :: rest, hxs, rfl⟩

end GoMetrics.Draft
