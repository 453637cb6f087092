import GoMetrics.Proofs.Alike.Matches

/-!
Expressions and types read from trees that say the same match, one lemma for each construct. Under
way it is seen that a draft is made of constructs only.
-/

namespace GoMetrics.Draft.Twin

open GoMetrics.Tree Node

variable {d k : Nat} {s s' : Source} {t t' : Tree} {r : Readers t} {r' : Readers t'}

/-! Parts of expressions -/

theorem argument (h : Twin d k s s' r r') (ls : List String) {c : Below t} {c' : Below t'}
    (hc : Alike.Below d c c') :
    Matches k (Same Clean) (Draft.argument ls r c) (Draft.argument ls r' c') := by
  unfold Draft.argument
  rw [Alike.kind hc]
  split
  · refine (h.under hc).first.bind fun e e' he => ?_
    exact h.expr _ _ he ls
  · exact h.expr _ _ hc ls

theorem exprList (h : Twin d k s s' r r') (ls : List String) {c : Below t} {c' : Below t'}
    (hc : Alike.Below d c c') :
    Matches k (Same AllClean) (Draft.exprList ls r c) (Draft.exprList ls r' c') := by
  unfold Draft.exprList
  rw [Alike.kind hc]
  split
  · exact (h.under hc).exprs ls (Alike.parts hc)
  · refine (h.expr _ _ hc ls).next fun x hx => ?_
    exact .ok ⟨rfl, by simp [hx]⟩

theorem slotList (h : Twin d k s s' r r') (ls : List String) (p : Slot) :
    Matches k (Same AllClean) (Draft.slotList ls r p) (Draft.slotList ls r' p) := by
  have hp := h.tree.at? p
  unfold Draft.slotList
  generalize t.at? p = o, t'.at? p = o' at hp
  cases hp with
  | none => exact .ok ⟨rfl, allClean_nil⟩
  | some hc => exact h.exprList ls hc

theorem unwrap (h : Twin d k s s' r r') {c : Below t} {c' : Below t'} (hc : Alike.Below d c c') :
    Matches k (Alike.Below d) (Draft.unwrap c) (Draft.unwrap c') := by
  unfold Draft.unwrap
  rw [Alike.kind hc]
  split
  · refine (h.under hc).first.bind fun e e' he => ?_
    exact .ok he
  · exact .ok hc

theorem element (h : Twin d k s s' r r') (ls : List String) {c : Below t} {c' : Below t'}
    (hc : Alike.Below d c c') :
    Matches k (Same Clean) (Draft.element ls r c) (Draft.element ls r' c') :=
  (h.unwrap hc).bind fun e e' he => h.expr e e' he ls

theorem elementKey (h : Twin d k s s' r r') (ls : List String) {c : Below t} {c' : Below t'}
    (hc : Alike.Below d c c') :
    Matches k (Same Clean) (Draft.elementKey s ls r c) (Draft.elementKey s' ls r' c') := by
  unfold Draft.elementKey
  rw [Alike.kind hc, Alike.textOf h.source hc]
  split
  · exact .ok ⟨rfl, clean_ident _ _⟩
  · exact .ok ⟨rfl, clean_ident _ _⟩
  · exact h.expr _ _ hc ls

theorem keyed (h : Twin d k s s' r r') (ls : List String) :
    Matches k (Same Clean) (Draft.keyed s ls r) (Draft.keyed s' ls r') := by
  have hv := rel_getLast? h.tree.parts
  unfold Draft.keyed
  rw [h.tree.hasToken]
  generalize t.parts.getLast? = o, t'.parts.getLast? = o' at hv
  refine h.first.bind fun c c' hc => ?_
  refine (h.unwrap hc).bind fun e e' he => ?_
  refine (h.elementKey ls he).next fun key hkey => ?_
  cases hv with
  | none => exact .lacks _
  | some hv =>
      refine (h.element ls hv).next fun value hvalue => ?_
      exact matches_clean rfl (by simp [places, hkey, hvalue])

theorem elements (h : Twin d k s s' r r') (ls : List String) :
    Matches k (Same AllClean) (Draft.elements s ls r) (Draft.elements s' ls r') := by
  refine each h.tree.parts fun c c' hc => ?_
  rw [Alike.kind hc]
  split
  · exact (h.under hc).keyed ls
  · exact h.element ls hc

/-! Signatures -/

theorem param (h : Twin d k s s' r r') (ls : List String) :
    Matches k (Same Clean) (Draft.param s ls r) (Draft.param s' ls r') := by
  unfold Draft.param
  rw [names_eq h.source h.tree, h.tree.kind]
  refine h.exprAt ls .type fun type htype => ?_
  have hn := allClean_bindings (names s t)
  split
  · have he : (Node.ellipsis (some type)).Clean := clean_of_places rfl (by simp [places, htype])
    exact matches_clean rfl (by simp [places, hn, he])
  · exact matches_clean rfl (by simp [places, hn, htype])

theorem params (h : Twin d k s s' r r') (ls : List String) :
    Matches k (Same AllClean) (Draft.params s ls r) (Draft.params s' ls r') :=
  each h.tree.parts fun _ _ hc => (h.under hc).param ls

theorem results (h : Twin d k s s' r r') (ls : List String) :
    Matches k (Same AllClean) (Draft.results s ls r) (Draft.results s' ls r') := by
  have hp := h.tree.at? .result
  unfold Draft.results
  generalize t.at? .result = o, t'.at? .result = o' at hp
  cases hp with
  | none => exact .ok ⟨rfl, allClean_nil⟩
  | some hc =>
      simp only [Alike.kind hc]
      split
      · exact (h.under hc).params ls
      · refine (h.expr _ _ hc ls).next fun type htype => ?_
        have hf : (Node.field [] (some type)).Clean := clean_of_places rfl (by simp [places, htype])
        exact .ok ⟨rfl, by simp [hf]⟩

theorem signature (h : Twin d k s s' r r') (ls : List String) (keyword : Bool) :
    Matches k (Same Clean) (Draft.signature s ls r keyword) (Draft.signature s' ls r' keyword) := by
  have hp := h.tree.at? .parameters
  unfold Draft.signature
  generalize t.at? .parameters = o, t'.at? .parameters = o' at hp
  cases hp with
  | none =>
      refine (h.results ls).next fun rs hrs => ?_
      exact matches_clean rfl (by simp [places, hrs])
  | some hc =>
      refine ((h.under hc).params ls).next fun ps hps => ?_
      refine (h.results ls).next fun rs hrs => ?_
      exact matches_clean rfl (by simp [places, hps, hrs])

/-! Operands and operators -/

theorem paren (h : Twin d k s s' r r') (ls : List String) :
    Matches k (Same Clean) (Draft.paren ls r) (Draft.paren ls r') := by
  unfold Draft.paren
  rw [h.tree.hasToken, h.tree.hasToken]
  refine h.exprFirst ls fun x hx => ?_
  exact matches_clean rfl (by simp [places, hx])

theorem selector (h : Twin d k s s' r r') (ls : List String) :
    Matches k (Same Clean) (Draft.selector s ls r) (Draft.selector s' ls r') := by
  refine h.exprAt ls .operand fun x hx => ?_
  refine (h.slotText .field).next fun name _ => ?_
  exact matches_clean rfl (by simp [places, hx])

theorem index (h : Twin d k s s' r r') (ls : List String) :
    Matches k (Same Clean) (Draft.index ls r) (Draft.index ls r') := by
  unfold Draft.index
  rw [h.tree.hasToken, h.tree.hasToken]
  refine h.exprAt ls .operand fun x hx => ?_
  refine (h.exprs ls (h.tree.allAt .index)).next fun is his => ?_
  exact matches_clean rfl (by simp [places, hx, his])

theorem slice (h : Twin d k s s' r r') (ls : List String) :
    Matches k (Same Clean) (Draft.slice ls r) (Draft.slice ls r') := by
  unfold Draft.slice
  rw [h.tree.hasToken, h.tree.hasToken]
  refine h.exprAt ls .operand fun x hx => ?_
  refine (h.exprAt? ls .start).next fun low hlow => ?_
  refine (h.exprAt? ls .stop).next fun high hhigh => ?_
  refine (h.exprAt? ls .capacity).next fun max hmax => ?_
  exact matches_clean rfl (by simp [places, hx, hlow, hhigh, hmax])

theorem typeAssertion (h : Twin d k s s' r r') (ls : List String) :
    Matches k (Same Clean) (Draft.typeAssertion ls r) (Draft.typeAssertion ls r') := by
  unfold Draft.typeAssertion
  rw [h.tree.hasToken, h.tree.hasToken]
  refine h.exprAt ls .operand fun x hx => ?_
  refine h.exprAt ls .type fun type htype => ?_
  exact matches_clean rfl (by simp [places, hx, htype])

theorem conversion (h : Twin d k s s' r r') (ls : List String) :
    Matches k (Same Clean) (Draft.conversion ls r) (Draft.conversion ls r') := by
  unfold Draft.conversion
  rw [h.tree.hasToken, h.tree.hasToken]
  refine h.exprAt ls .type fun type htype => ?_
  refine h.exprAt ls .operand fun x hx => ?_
  exact matches_clean rfl (by simp [places, hx, htype])

theorem instantiation (h : Twin d k s s' r r') (ls : List String) :
    Matches k (Same Clean) (Draft.instantiation ls r) (Draft.instantiation ls r') := by
  have hp := h.tree.parts
  unfold Draft.instantiation
  rw [h.tree.hasToken, h.tree.hasToken]
  generalize t.parts = cs, t'.parts = cs' at hp
  cases hp with
  | nil => exact .lacks _
  | cons hc hrest =>
      refine (h.expr _ _ hc ls).next fun x hx => ?_
      refine (h.exprs ls hrest).next fun is his => ?_
      exact matches_clean rfl (by simp [places, hx, his])

theorem applied (h : Twin d k s s' r r') (ls : List String) {x : Node Role} (hx : x.Clean)
    {c : Below t} {c' : Below t'} (hc : Alike.Below d c c') :
    Matches k (Same Clean) (Draft.applied ls r x c) (Draft.applied ls r' x c') := by
  unfold Draft.applied
  rw [Alike.hasToken hc, Alike.hasToken hc]
  refine ((h.under hc).exprs ls (Alike.parts hc)).next fun args hargs => ?_
  exact matches_clean rfl (by simp [places, hx, hargs])

/-- A call, once the function is read. -/
theorem callOf (h : Twin d k s s' r r') (ls : List String) {fn : Node Role} (hfn : fn.Clean) :
    Matches k (Same Clean)
      (do
        let list ← Draft.slot t .arguments
        let args ← list.1.parts.mapM (Draft.argument ls (r.under list))
        let spread := list.1.parts.any (·.1.kind == .part .variadicArgument)
        return .call fn args spread (list.1.hasToken "(") (list.1.hasToken ")"))
      (do
        let list ← Draft.slot t' .arguments
        let args ← list.1.parts.mapM (Draft.argument ls (r'.under list))
        let spread := list.1.parts.any (·.1.kind == .part .variadicArgument)
        return .call fn args spread (list.1.hasToken "(") (list.1.hasToken ")")) := by
  refine (h.slot .arguments).bind fun c c' hc => ?_
  have hspread : c'.1.parts.any (·.1.kind == .part .variadicArgument) =
      c.1.parts.any (·.1.kind == .part .variadicArgument) := by
    rw [← List.isSome_find?, ← List.isSome_find?]
    exact isSome_eq_of_rel (rel_find? (Alike.parts hc) fun e e' he => by rw [Alike.kind he])
  rw [hspread, Alike.hasToken hc, Alike.hasToken hc]
  refine (each (Alike.parts hc) fun e e' he => (h.under hc).argument ls he).next
    fun args hargs => ?_
  exact matches_clean rfl (by simp [places, hfn, hargs])

theorem call (h : Twin d k s s' r r') (ls : List String) :
    Matches k (Same Clean) (Draft.call ls r) (Draft.call ls r') := by
  have hp := h.tree.at? .typeArguments
  unfold Draft.call
  refine h.exprAt ls .function fun fn hfn => ?_
  generalize t.at? .typeArguments = o, t'.at? .typeArguments = o' at hp
  cases hp with
  | none => exact h.callOf ls hfn
  | some he => exact (h.applied ls hfn he).next fun fn hfn => h.callOf ls hfn

theorem unary (h : Twin d k s s' r r') (ls : List String) :
    Matches k (Same Clean) (Draft.unary s ls r) (Draft.unary s' ls r') := by
  refine (h.slotText .operator).next fun op _ => ?_
  refine h.exprAt ls .operand fun x hx => ?_
  split
  · exact matches_clean rfl (by simp [places, hx])
  · exact matches_clean rfl (by simp [places, hx])

theorem binary (h : Twin d k s s' r r') (ls : List String) :
    Matches k (Same Clean) (Draft.binary s ls r) (Draft.binary s' ls r') := by
  refine h.exprAt ls .left fun x hx => ?_
  refine (h.slotText .operator).next fun op _ => ?_
  refine h.exprAt ls .right fun y hy => ?_
  exact matches_clean rfl (by simp [places, hx, hy])

/-! Literals -/

theorem composite (h : Twin d k s s' r r') (ls : List String) :
    Matches k (Same Clean) (Draft.composite s ls r) (Draft.composite s' ls r') := by
  refine h.exprAt ls .type fun type htype => ?_
  refine (h.slot .body).bind fun e e' he => ?_
  rw [Alike.hasToken he, Alike.hasToken he]
  refine ((h.under he).elements ls).next fun elts helts => ?_
  exact matches_clean rfl (by simp [places, htype, helts])

theorem bareComposite (h : Twin d k s s' r r') (ls : List String) :
    Matches k (Same Clean) (Draft.bareComposite s ls r) (Draft.bareComposite s' ls r') := by
  unfold Draft.bareComposite
  rw [h.tree.hasToken, h.tree.hasToken]
  refine (h.elements ls).next fun elts helts => ?_
  exact matches_clean rfl (by simp [places, helts])

theorem block (h : Twin d k s s' r r') (ls : List String) :
    Matches k (Same Clean) (Draft.block ls r) (Draft.block ls r') := by
  unfold Draft.block
  rw [h.tree.hasToken, h.tree.hasToken]
  refine h.bodies ls h.tree.parts fun body hbody => ?_
  exact matches_clean rfl (by simp [places, hbody])

theorem funcLit (h : Twin d k s s' r r') :
    Matches k (Same Clean) (Draft.funcLit s r) (Draft.funcLit s' r') := by
  refine (matches_bodyLabels h.source h.tree).next fun own _ => ?_
  refine (h.signature own true).next fun type htype => ?_
  refine (h.slot .body).bind fun c c' hc => ?_
  refine ((h.under hc).block own).next fun body hbody => ?_
  exact matches_clean rfl (by simp [places, htype, hbody])

/-! Types -/

theorem pointer (h : Twin d k s s' r r') (ls : List String) :
    Matches k (Same Clean) (Draft.pointer ls r) (Draft.pointer ls r') := by
  refine h.exprFirst ls fun x hx => ?_
  exact matches_clean rfl (by simp [places, hx])

theorem array (h : Twin d k s s' r r') (ls : List String) :
    Matches k (Same Clean) (Draft.array ls r) (Draft.array ls r') := by
  unfold Draft.array
  rw [h.tree.hasToken, h.tree.hasToken]
  refine h.exprAt ls .length fun len hlen => ?_
  refine h.exprAt ls .element fun elt helt => ?_
  exact matches_clean rfl (by simp [places, hlen, helt])

theorem unsized (h : Twin d k s s' r r') (ls : List String) {len : Option (Node Role)}
    (hlen : AllClean len.toList) :
    Matches k (Same Clean) (Draft.unsized ls r len) (Draft.unsized ls r' len) := by
  unfold Draft.unsized
  rw [h.tree.hasToken, h.tree.hasToken]
  refine h.exprAt ls .element fun elt helt => ?_
  exact matches_clean rfl (by simp [places, hlen, helt])

theorem map (h : Twin d k s s' r r') (ls : List String) :
    Matches k (Same Clean) (Draft.map ls r) (Draft.map ls r') := by
  refine h.exprAt ls .key fun key hkey => ?_
  refine h.exprAt ls .value fun value hvalue => ?_
  exact matches_clean rfl (by simp [places, hkey, hvalue])

theorem chan (h : Twin d k s s' r r') (ls : List String) :
    Matches k (Same Clean) (Draft.chan ls r) (Draft.chan ls r') := by
  unfold Draft.chan
  rw [h.tree.chanDir]
  refine h.exprAt ls .value fun value hvalue => ?_
  exact matches_clean rfl (by simp [places, hvalue])

theorem structField (h : Twin d k s s' r r') (ls : List String) :
    Matches k (Same Clean) (Draft.structField s ls r) (Draft.structField s' ls r') := by
  unfold Draft.structField
  rw [names_eq h.source h.tree, h.tree.hasToken]
  refine h.exprAt ls .type fun type htype => ?_
  have hn := allClean_idents (names s t) (.settled true)
  dsimp only
  split
  · have he : (Node.star type).Clean := clean_of_places rfl (by simp [places, htype])
    exact matches_clean rfl (by simp [places, hn, he])
  · exact matches_clean rfl (by simp [places, hn, htype])

theorem struct (h : Twin d k s s' r r') (ls : List String) :
    Matches k (Same Clean) (Draft.struct s ls r) (Draft.struct s' ls r') := by
  have hf : Option.Rel (Alike.Below d)
      (t.parts.find? (·.1.kind == .part .fieldDeclarationList))
      (t'.parts.find? (·.1.kind == .part .fieldDeclarationList)) :=
    rel_find? h.tree.parts fun c c' hc => by rw [Alike.kind hc]
  unfold Draft.struct
  generalize t.parts.find? _ = o, t'.parts.find? _ = o' at hf
  cases hf with
  | none => exact .lacks _
  | some hc =>
      have hl := h.under hc
      simp only [Alike.hasToken hc]
      refine (each (Alike.parts hc) fun e e' he => (hl.under he).structField ls).next
        fun fields hfields => ?_
      exact matches_clean rfl (by simp [places, hfields])

theorem method (h : Twin d k s s' r r') (ls : List String) :
    Matches k (Same Clean) (Draft.method s ls r) (Draft.method s' ls r') := by
  refine (h.slotText .name).next fun name _ => ?_
  refine (h.signature ls false).next fun type htype => ?_
  exact matches_clean rfl (by simp [places, htype])

theorem interfaceElem (h : Twin d k s s' r r') (ls : List String) {c : Below t} {c' : Below t'}
    (hc : Alike.Below d c c') :
    Matches k (Same Clean) (Draft.interfaceElem s ls r c) (Draft.interfaceElem s' ls r' c') := by
  unfold Draft.interfaceElem
  rw [Alike.kind hc]
  split
  · exact (h.under hc).method ls
  · refine (h.expr _ _ hc ls).next fun type htype => ?_
    exact matches_clean rfl (by simp [places, htype])

theorem interface (h : Twin d k s s' r r') (ls : List String) :
    Matches k (Same Clean) (Draft.interface s ls r) (Draft.interface s' ls r') := by
  unfold Draft.interface
  rw [h.tree.hasToken, h.tree.hasToken]
  refine (each h.tree.parts fun c c' hc => h.interfaceElem ls hc).next fun methods hmethods => ?_
  exact matches_clean rfl (by simp [places, hmethods])

theorem qualified (h : Twin d k s s' r r') :
    Matches k (Same Clean) (Draft.qualified s t) (Draft.qualified s' t') := by
  refine (h.slotText .package).next fun package _ => ?_
  refine (h.slotText .name).next fun name _ => ?_
  exact matches_clean rfl (by simp [places])

theorem generic (h : Twin d k s s' r r') (ls : List String) :
    Matches k (Same Clean) (Draft.generic ls r) (Draft.generic ls r') := by
  refine h.exprAt ls .type fun x hx => ?_
  refine (h.slot .typeArguments).bind fun e e' he => ?_
  exact h.applied ls hx he

theorem negated (h : Twin d k s s' r r') (ls : List String) :
    Matches k (Same Clean) (Draft.negated ls r) (Draft.negated ls r') := by
  refine h.exprFirst ls fun x hx => ?_
  exact matches_clean rfl (by simp [places, hx])

theorem clean_foldl_union {x : Node Role} (hx : x.Clean) {terms : List (Node Role)}
    (ht : AllClean terms) :
    (terms.foldl (fun union term => .binary union "|" term) x).Clean := by
  induction terms generalizing x with
  | nil => exact hx
  | cons term terms ih =>
      rw [allClean_cons] at ht
      exact ih (clean_of_places rfl (by simp [places, hx, ht.1])) ht.2

theorem union (h : Twin d k s s' r r') (ls : List String) :
    Matches k (Same Clean) (Draft.union ls r) (Draft.union ls r') := by
  refine (h.exprs ls h.tree.parts).next fun terms hterms => ?_
  cases terms with
  | nil => exact .lacks _
  | cons x rest =>
      rw [allClean_cons] at hterms
      exact .ok ⟨rfl, clean_foldl_union hterms.1 hterms.2⟩

/-! Expressions -/

theorem ident (h : Twin d k s s' r r') (role : Role) :
    Matches k (Same Clean) (.ok (.ident (s.textOf t) role)) (.ok (.ident (s'.textOf t') role)) := by
  rw [h.tree.textOf h.source]
  exact .ok ⟨rfl, clean_ident _ _⟩

theorem basicLit (h : Twin d k s s' r r') (kind : LiteralKind) :
    Matches k (Same (α := Node Role) Clean) (.ok (.basicLit kind (s.textOf t)))
      (.ok (.basicLit kind (s'.textOf t'))) := by
  rw [h.tree.textOf h.source]
  exact .ok ⟨rfl, clean_of_places rfl allClean_nil⟩

theorem exprOf (h : Twin d k s s' r r') (ls : List String) :
    Matches k (Same Clean) (Draft.expr s ls r) (Draft.expr s' ls r') := by
  unfold Draft.expr
  rw [h.tree.kind]
  cases t.kind with
  | expr e =>
      cases e with
      | identifier | typeIdentifier | packageIdentifier | nilName | trueName | falseName
      | iotaName => exact h.ident .use
      | fieldIdentifier => exact h.ident (.settled false)
      | labelName =>
          rw [h.tree.textOf h.source]
          exact .ok ⟨rfl, clean_ident _ _⟩
      | blankIdentifier => exact .ok ⟨rfl, clean_ident _ _⟩
      | intLiteral => exact h.basicLit .int
      | floatLiteral => exact h.basicLit .float
      | imaginaryLiteral => exact h.basicLit .imag
      | runeLiteral => exact h.basicLit .char
      | interpretedStringLiteral | rawStringLiteral => exact h.basicLit .string
      | parenthesizedExpression | parenthesizedType => exact h.paren ls
      | selectorExpression => exact h.selector ls
      | indexExpression => exact h.index ls
      | sliceExpression => exact h.slice ls
      | typeAssertionExpression => exact h.typeAssertion ls
      | typeConversionExpression => exact h.conversion ls
      | typeInstantiationExpression => exact h.instantiation ls
      | callExpression => exact h.call ls
      | unaryExpression => exact h.unary ls
      | binaryExpression => exact h.binary ls
      | compositeLiteral => exact h.composite ls
      | literalValue => exact h.bareComposite ls
      | funcLiteral => exact h.funcLit
      | pointerType => exact h.pointer ls
      | arrayType => exact h.array ls
      | implicitLengthArrayType =>
          exact h.unsized ls (allClean_cons.2 ⟨clean_of_places rfl allClean_nil, allClean_nil⟩)
      | sliceType => exact h.unsized ls allClean_nil
      | mapType => exact h.map ls
      | channelType => exact h.chan ls
      | functionType => exact h.signature ls true
      | structType => exact h.struct ls
      | interfaceType => exact h.interface ls
      | qualifiedType => exact h.qualified
      | genericType => exact h.generic ls
      | negatedType => exact h.negated ls
      | typeElem | typeConstraint => exact h.union ls
  | _ => exact h.refuse _

end GoMetrics.Draft.Twin
