import GoMetrics.Proofs.Refusals.Basic

/-!
Expressions and types fail only for faults inside the tree, one lemma for each construct. An
expression is refused itself if its kind is none of an expression.
-/

namespace GoMetrics.Draft.Blaming

open GoMetrics.Tree

variable {s : Source} {root t : Tree} {r : Readers t}

/-! Parts of expressions -/

theorem argument (h : Blaming s root r) (ls : List String) {c : Below t} (hc : Inside root c) :
    Blamed s root (Draft.argument ls r c) := by
  unfold Draft.argument
  split
  · exact (h.under hc).atFirst fun d hd => h.expr _ hd ls
  · exact h.expr c hc ls

theorem exprList (h : Blaming s root r) (ls : List String) {c : Below t} (hc : Inside root c) :
    Blamed s root (Draft.exprList ls r c) := by
  unfold Draft.exprList
  split
  · exact (h.under hc).exprParts ls
  · exact (h.expr c hc ls).bind fun _ _ => .ok _

theorem slotList (h : Blaming s root r) (ls : List String) (p : Slot) :
    Blamed s root (Draft.slotList ls r p) := by
  unfold Draft.slotList
  split
  · exact .ok _
  · rename_i c hc
    exact h.exprList ls (h.at? hc)

/-- An element without its wrapper, and what is done with it. -/
theorem unwrapped (h : Blaming s root r) {c : Below t} (hc : Inside root c) {α : Type}
    {f : Below t → Except Fault α} (hf : ∀ d, Inside root d → Blamed s root (f d)) :
    Blamed s root (Draft.unwrap c >>= f) := by
  have hd : ∀ d, Draft.unwrap c = .ok d → Inside root d := by
    intro d hd
    unfold Draft.unwrap at hd
    split at hd
    · obtain ⟨e, he, hd⟩ := Except.bind_eq_ok.1 hd
      cases hd
      exact (h.under hc).part (List.mem_of_mem_head? (first_eq_ok.1 he))
    · cases hd
      exact hc
  refine Blamed.bind ?_ fun d hu => hf d (hd d hu)
  unfold Draft.unwrap
  split
  · exact blamed_first.bind fun _ _ => .ok _
  · exact .ok _

theorem element (h : Blaming s root r) (ls : List String) {c : Below t} (hc : Inside root c) :
    Blamed s root (Draft.element ls r c) :=
  h.unwrapped hc fun d hd => h.expr d hd ls

theorem elementKey (h : Blaming s root r) (ls : List String) {c : Below t} (hc : Inside root c) :
    Blamed s root (Draft.elementKey s ls r c) := by
  unfold Draft.elementKey
  split
  · exact .ok _
  · exact .ok _
  · exact h.expr c hc ls

theorem keyed (h : Blaming s root r) (ls : List String) :
    Blamed s root (Draft.keyed s ls r) := by
  refine h.atFirst fun c hc => ?_
  refine h.unwrapped hc fun d hd => ?_
  refine (h.elementKey ls hd).bind fun key _ => ?_
  split
  · exact .lacks _
  · rename_i v hv
    exact (h.element ls (h.part (List.mem_of_mem_getLast? hv))).bind fun _ _ => .ok _

theorem elements (h : Blaming s root r) (ls : List String) :
    Blamed s root (Draft.elements s ls r) := by
  refine h.parts fun c hc => ?_
  split
  · exact (h.under hc).keyed ls
  · exact h.element ls hc

/-! Signatures -/

theorem param (h : Blaming s root r) (ls : List String) : Blamed s root (Draft.param s ls r) :=
  h.exprAt ls .type fun _ => .ok _

theorem params (h : Blaming s root r) (ls : List String) : Blamed s root (Draft.params s ls r) :=
  h.parts fun _ hc => (h.under hc).param ls

theorem results (h : Blaming s root r) (ls : List String) :
    Blamed s root (Draft.results s ls r) := by
  unfold Draft.results
  split
  · exact .ok _
  · rename_i c hc
    split
    · exact (h.under (h.at? hc)).params ls
    · exact (h.expr c (h.at? hc) ls).bind fun _ _ => .ok _

theorem signature (h : Blaming s root r) (ls : List String) (keyword : Bool) :
    Blamed s root (Draft.signature s ls r keyword) := by
  have hrest : ∀ ps, Blamed s root
      (do return .funcType ps (← Draft.results s ls r) keyword : Result) :=
    fun _ => (h.results ls).bind fun _ _ => .ok _
  unfold Draft.signature
  split
  · exact hrest []
  · rename_i c hc
    exact ((h.under (h.at? hc)).params ls).bind fun ps _ => hrest ps

/-! Operands and operators -/

theorem paren (h : Blaming s root r) (ls : List String) : Blamed s root (Draft.paren ls r) :=
  h.exprFirst ls fun _ => .ok _

theorem selector (h : Blaming s root r) (ls : List String) :
    Blamed s root (Draft.selector s ls r) := by
  refine h.exprAt ls .operand fun x => ?_
  exact (blamed_slotText .field).bind fun _ _ => .ok _

theorem index (h : Blaming s root r) (ls : List String) : Blamed s root (Draft.index ls r) := by
  refine h.exprAt ls .operand fun x => ?_
  exact (h.exprAll ls .index).bind fun _ _ => .ok _

theorem slice (h : Blaming s root r) (ls : List String) : Blamed s root (Draft.slice ls r) := by
  refine h.exprAt ls .operand fun x => ?_
  refine (h.exprAt? ls .start).bind fun low _ => ?_
  refine (h.exprAt? ls .stop).bind fun high _ => ?_
  exact (h.exprAt? ls .capacity).bind fun _ _ => .ok _

theorem typeAssertion (h : Blaming s root r) (ls : List String) :
    Blamed s root (Draft.typeAssertion ls r) := by
  refine h.exprAt ls .operand fun x => ?_
  exact h.exprAt ls .type fun _ => .ok _

theorem conversion (h : Blaming s root r) (ls : List String) :
    Blamed s root (Draft.conversion ls r) := by
  refine h.exprAt ls .type fun type => ?_
  exact h.exprAt ls .operand fun _ => .ok _

theorem instantiation (h : Blaming s root r) (ls : List String) :
    Blamed s root (Draft.instantiation ls r) := by
  unfold Draft.instantiation
  split
  · exact .lacks _
  · rename_i c rest hp
    have hparts : ∀ d ∈ c :: rest, Inside root d := fun d hd => h.part (hp ▸ hd)
    refine (h.expr c (hparts c List.mem_cons_self) ls).bind fun x _ => ?_
    refine Blamed.bind ?_ fun _ _ => .ok _
    exact .mapM fun d hd => h.expr d (hparts d (List.mem_cons_of_mem c hd)) ls

theorem applied (h : Blaming s root r) (ls : List String) (x : Node Role) {c : Below t}
    (hc : Inside root c) : Blamed s root (Draft.applied ls r x c) :=
  ((h.under hc).exprParts ls).bind fun _ _ => .ok _

theorem call (h : Blaming s root r) (ls : List String) : Blamed s root (Draft.call ls r) := by
  have hargs : ∀ fn, Blamed s root (do
      let list ← Draft.slot t .arguments
      let args ← list.1.parts.mapM (Draft.argument ls (r.under list))
      let spread := list.1.parts.any (·.1.kind == .part .variadicArgument)
      return .call fn args spread (list.1.hasToken "(") (list.1.hasToken ")") : Result) := by
    intro fn
    refine h.atSlot .arguments fun c hc => ?_
    have hl := h.under hc
    exact (hl.parts fun d hd => hl.argument ls hd).bind fun _ _ => .ok _
  unfold Draft.call
  refine h.exprAt ls .function fun fn => ?_
  split
  · exact hargs fn
  · rename_i c hc
    exact (h.applied ls fn (h.at? hc)).bind fun fn _ => hargs fn

theorem unary (h : Blaming s root r) (ls : List String) : Blamed s root (Draft.unary s ls r) := by
  refine (blamed_slotText .operator).bind fun op _ => ?_
  exact h.exprAt ls .operand fun _ => .ok _

theorem binary (h : Blaming s root r) (ls : List String) :
    Blamed s root (Draft.binary s ls r) := by
  refine h.exprAt ls .left fun x => ?_
  refine (blamed_slotText .operator).bind fun op _ => ?_
  exact h.exprAt ls .right fun _ => .ok _

/-! Literals -/

theorem composite (h : Blaming s root r) (ls : List String) :
    Blamed s root (Draft.composite s ls r) := by
  refine h.exprAt ls .type fun type => ?_
  refine h.atSlot .body fun c hc => ?_
  exact ((h.under hc).elements ls).bind fun _ _ => .ok _

theorem bareComposite (h : Blaming s root r) (ls : List String) :
    Blamed s root (Draft.bareComposite s ls r) :=
  (h.elements ls).bind fun _ _ => .ok _

theorem block (h : Blaming s root r) (ls : List String) : Blamed s root (Draft.block ls r) :=
  (h.stmtsParts ls).bind fun _ _ => .ok _

theorem funcLit (h : Blaming s root r) : Blamed s root (Draft.funcLit s r) := by
  refine blamed_bodyLabels.bind fun own _ => ?_
  refine (h.signature own true).bind fun type _ => ?_
  refine h.atSlot .body fun c hc => ?_
  exact ((h.under hc).block own).bind fun _ _ => .ok _

/-! Types -/

theorem pointer (h : Blaming s root r) (ls : List String) : Blamed s root (Draft.pointer ls r) :=
  h.exprFirst ls fun _ => .ok _

theorem array (h : Blaming s root r) (ls : List String) : Blamed s root (Draft.array ls r) := by
  refine h.exprAt ls .length fun len => ?_
  exact h.exprAt ls .element fun _ => .ok _

theorem unsized (h : Blaming s root r) (ls : List String) (len : Option (Node Role)) :
    Blamed s root (Draft.unsized ls r len) :=
  h.exprAt ls .element fun _ => .ok _

theorem map (h : Blaming s root r) (ls : List String) : Blamed s root (Draft.map ls r) := by
  refine h.exprAt ls .key fun key => ?_
  exact h.exprAt ls .value fun _ => .ok _

theorem chan (h : Blaming s root r) (ls : List String) : Blamed s root (Draft.chan ls r) :=
  h.exprAt ls .value fun _ => .ok _

theorem structField (h : Blaming s root r) (ls : List String) :
    Blamed s root (Draft.structField s ls r) :=
  h.exprAt ls .type fun _ => .ok _

theorem struct (h : Blaming s root r) (ls : List String) :
    Blamed s root (Draft.struct s ls r) := by
  unfold Draft.struct
  split
  · exact .lacks _
  · rename_i c hc
    have hl := h.under (h.foundPart hc)
    exact (hl.parts fun d hd => (hl.under hd).structField ls).bind fun _ _ => .ok _

theorem method (h : Blaming s root r) (ls : List String) :
    Blamed s root (Draft.method s ls r) := by
  refine (blamed_slotText .name).bind fun name _ => ?_
  exact (h.signature ls false).bind fun _ _ => .ok _

theorem interfaceElem (h : Blaming s root r) (ls : List String) {c : Below t}
    (hc : Inside root c) : Blamed s root (Draft.interfaceElem s ls r c) := by
  unfold Draft.interfaceElem
  split
  · exact (h.under hc).method ls
  · exact (h.expr c hc ls).bind fun _ _ => .ok _

theorem interface (h : Blaming s root r) (ls : List String) :
    Blamed s root (Draft.interface s ls r) :=
  (h.parts fun _ hc => h.interfaceElem ls hc).bind fun _ _ => .ok _

theorem qualified : Blamed s root (Draft.qualified s t) := by
  refine (blamed_slotText .package).bind fun package _ => ?_
  exact (blamed_slotText .name).bind fun _ _ => .ok _

theorem generic (h : Blaming s root r) (ls : List String) :
    Blamed s root (Draft.generic ls r) := by
  refine h.exprAt ls .type fun x => ?_
  exact h.atSlot .typeArguments fun c hc => h.applied ls x hc

theorem negated (h : Blaming s root r) (ls : List String) : Blamed s root (Draft.negated ls r) :=
  h.exprFirst ls fun _ => .ok _

theorem union (h : Blaming s root r) (ls : List String) : Blamed s root (Draft.union ls r) := by
  refine (h.exprParts ls).bind fun terms _ => ?_
  cases terms with
  | nil => exact .lacks _
  | cons x rest => exact .ok _

/-! Expressions -/

theorem exprOf (h : Blaming s root r) (ls : List String) :
    Blamed s root (Draft.expr s ls r) := by
  unfold Draft.expr
  cases hk : t.kind with
  | expr e =>
      cases e with
      | identifier | typeIdentifier | packageIdentifier | fieldIdentifier | labelName
      | blankIdentifier | nilName | trueName | falseName | iotaName | intLiteral | floatLiteral
      | imaginaryLiteral | runeLiteral | interpretedStringLiteral | rawStringLiteral =>
          exact .ok _
      | parenthesizedExpression | parenthesizedType => exact h.paren ls
      | selectorExpression => exact h.selector ls
      | indexExpression => exact h.index ls
      | sliceExpression => exact h.slice ls
      | typeAssertionExpression => exact h.typeAssertion ls
      | typeConversionExpression => exact h.conversion ls
      | typeInstantiationExpression => exact h.instantiation ls
      | callExpression => exact h.call ls
      | unaryExpression => exact h.unary ls
      | binaryExpression => exact h.binary ls
      | compositeLiteral => exact h.composite ls
      | literalValue => exact h.bareComposite ls
      | funcLiteral => exact h.funcLit
      | pointerType => exact h.pointer ls
      | arrayType => exact h.array ls
      | implicitLengthArrayType | sliceType => exact h.unsized ls _
      | mapType => exact h.map ls
      | channelType => exact h.chan ls
      | functionType => exact h.signature ls true
      | structType => exact h.struct ls
      | interfaceType => exact h.interface ls
      | qualifiedType => exact qualified
      | genericType => exact h.generic ls
      | negatedType => exact h.negated ls
      | typeElem | typeConstraint => exact h.union ls
  | _ => exact blamed_refuse h.inside (.expression (by rw [hk]; rfl))

end GoMetrics.Draft.Blaming
