import GoMetrics.Proofs.Lexical.Exprs

/-!
What a reading keeps on its way down. Inside a declaration the file-level names above stay the same.
Expressions and types declare nothing at file level: their parts are read where they stand, and only
the signature and the body of a function are read inside.
-/

namespace GoMetrics.Lexical

variable {s : Source} {t : Tree} {m : Mode} {v w : Context}

/-- Places inside a declaration that find the same file-level names above as `v` does. -/
structure Context.Inside (v w : Context) : Prop where
  top : w.top = false
  above : w.above = v.above

namespace Context.Inside

theorem refl (h : v.top = false) : v.Inside v :=
  ⟨h, rfl⟩

theorem inside : v.Inside v.inside :=
  ⟨rfl, rfl⟩

theorem enter (ls : List String) : v.Inside (v.enter ls) :=
  ⟨rfl, rfl⟩

theorem trans {u : Context} (h : u.Inside v) (h' : v.Inside w) : u.Inside w :=
  ⟨h'.top, h'.above.trans h.above⟩

@[simp] theorem declare_iff (names : List String) : v.Inside (w.declare names) ↔ v.Inside w := by
  obtain ⟨⟨locals, above, top⟩, labels⟩ := w
  cases top with
  | true => constructor <;> rintro ⟨⟨⟩, _⟩
  | false => constructor <;> exact fun h => ⟨rfl, h.above⟩

end Context.Inside

/-- All visits are made at places where `P` holds. -/
def AllSeen (P : Mode → Context → Prop) (vs : List (Visit t)) : Prop :=
  ∀ c ∈ vs, P c.mode c.seen

section

variable {P : Mode → Context → Prop}

theorem allSeen_nil : AllSeen P ([] : List (Visit t)) :=
  nofun

theorem allSeen_append {vs ws : List (Visit t)} :
    AllSeen P (vs ++ ws) ↔ AllSeen P vs ∧ AllSeen P ws :=
  List.forall_mem_append

theorem allSeen_each (cs : List (Tree.Below t)) (h : P m v) : AllSeen P (each m cs v) :=
  List.forall_mem_map.2 fun _ _ => h

theorem allSeen_one (o : Option (Tree.Below t)) (h : P m v) : AllSeen P (one m o v) :=
  allSeen_each o.toList h

theorem allSeen_inTurn (cs : List (Tree.Below t)) (h : P m v)
    (declare : ∀ w names, P m w → P m (w.declare names)) : AllSeen P (inTurn s m cs v) := by
  induction cs generalizing v with
  | nil => exact allSeen_nil
  | cons c cs ih => exact List.forall_mem_cons.2 ⟨h, ih (declare v _ h)⟩

end

/-- Inside a declaration a reading stays inside, and finds the same names above. -/
theorem inside_visits (h : v.Inside w) : AllSeen (fun _ => v.Inside) (visits s m t w) := by
  have hi : ∀ {u : Context}, v.Inside u → v.Inside u.inside := fun hu => hu.trans .inside
  have he : ∀ {u : Context} ls, v.Inside u → v.Inside (u.enter ls) :=
    fun ls hu => hu.trans (.enter ls)
  have heach : ∀ {m u} (cs : List (Tree.Below t)), v.Inside u →
      AllSeen (fun _ => v.Inside) (each m cs u) := fun cs hu => allSeen_each cs hu
  have hone : ∀ {m u} (o : Option (Tree.Below t)), v.Inside u →
      AllSeen (fun _ => v.Inside) (one m o u) := fun o hu => allSeen_one o hu
  have hturn : ∀ {m u} (cs : List (Tree.Below t)), v.Inside u →
      AllSeen (fun _ => v.Inside) (inTurn s m cs u) :=
    fun cs hu => allSeen_inTurn cs hu fun _ names hw => (Context.Inside.declare_iff names).2 hw
  unfold visits exprVisits stmtVisits loopVisits specVisits clauseVisits funcVisits signature
  split <;> try split
  all_goals try split
  all_goals try split
  all_goals simp only [allSeen_append, allSeen_nil, pastSignature, heach, hone, hturn, hi, he, h,
    Context.Inside.declare_iff, and_self]

/-- Modes of expressions and types, and of what they consist of up to signatures and bodies. -/
def Mode.isExpr : Mode → Bool
  | .text _ | .expr | .exprs | .operands | .args | .arg | .elements | .element | .keyed | .key
  | .bareKey | .fields | .field | .member => true
  | _ => false

theorem Mode.isExpr_atExpr (k : Kind) : (atExpr k).isExpr = true := by
  unfold atExpr
  split <;> rfl

theorem Mode.isExpr_atKey (k : Kind) : (atKey k).isExpr = true := by
  unfold atKey
  split
  · rfl
  · rfl
  · exact isExpr_atExpr k

theorem Mode.isExpr_on {m : Mode} (h : m.isExpr = true) (k : Kind) : (m.on k).isExpr = true := by
  have expr := isExpr_atExpr k
  have key := isExpr_atKey k
  cases m with
  | param | params | result | block | stmts | stmt | targets | target | loopTargets | header
  | clause | commClause | specs | spec | func => cases h
  | expr => exact expr
  | bareKey => exact key
  | exprs | arg | member =>
      rw [on]
      split
      · rfl
      · exact expr
  | element =>
      rw [on]
      split
      · rfl
      split
      · rfl
      · exact expr
  | key =>
      rw [on]
      split
      · rfl
      · exact key
  | _ => exact h

/-- An expression is read where it stands, but for what is inside a function. -/
theorem expr_visits (h : m.isExpr = true) (v : Context) :
    AllSeen (fun m w => (m.isExpr = true ∧ w = v) ∨ v.Inside w) (visits s m t v) := by
  have hm := Mode.isExpr_on h t.kind
  have here : ∀ m', m'.isExpr = true → ∀ cs : List (Tree.Below t),
      AllSeen (fun m w => (m.isExpr = true ∧ w = v) ∨ v.Inside w) (each m' cs v) :=
    fun _ hm' cs => allSeen_each cs (.inl ⟨hm', rfl⟩)
  have inside : ∀ {m' u}, v.Inside u → ∀ cs : List (Tree.Below t),
      AllSeen (fun m w => (m.isExpr = true ∧ w = v) ∨ v.Inside w) (each m' cs u) :=
    fun hu cs => allSeen_each cs (.inr hu)
  unfold visits
  generalize m.on t.kind = k at hm
  cases k <;> cases hm
  all_goals dsimp only [exprVisits, signature, one]
  all_goals try split
  all_goals simp only [allSeen_append, allSeen_nil, pastSignature, here .expr rfl,
    here .operands rfl, here .args rfl, here .arg rfl, here .elements rfl, here .element rfl,
    here .key rfl, here .bareKey rfl, here .fields rfl, here .field rfl, here .member rfl,
    fun role => here (.text role) rfl, inside, Context.Inside.declare_iff, Context.Inside.inside,
    Context.Inside.enter, and_self]

end GoMetrics.Lexical
