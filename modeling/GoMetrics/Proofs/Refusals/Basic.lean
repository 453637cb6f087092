import GoMetrics.Proofs.Draft.Success
import GoMetrics.Proofs.Faults

/-!
What a reading can fail with. A refusal names a node inside the tree: its line is that of the node,
the kind it spells is the kind of the node, and nodes of this kind cannot be read in the way that
was tried. The only other failures are that something is not there.

`Blamed` says this of the outcome of a step. It passes through every step of a reading, so it holds
of a construct if it holds of what the construct takes from its tree.
-/

namespace GoMetrics

namespace Kind

/-- Whether nodes of a kind can be read as an expression or a type. -/
def isExpr : Kind → Bool
  | .expr _ => true
  | _ => false

/-- Whether they can be read as a statement. -/
def isStmt : Kind → Bool
  | .expr _ | .decl _ | .stmt _ => true
  | _ => false

/-- Whether they can be read as a spec of a declaration. -/
def isSpec : Kind → Bool
  | .part .typeSpec | .part .typeAlias | .part .varSpec | .part .constSpec => true
  | _ => false

/-- Whether they can stand at the top of a file. -/
def isTop : Kind → Bool
  | .functionDeclaration | .methodDeclaration | .decl _ | .part .packageClause
  | .part .importDeclaration => true
  | _ => false

end Kind

/-- Refusals that name a kind which cannot be read in the way that was tried. -/
inductive Refusal.DueTo (k : Kind) : Refusal → Prop
  | topLevel (unread : k.isTop = false) : DueTo k (.unexpectedTopLevel k)
  | expression (unread : k.isExpr = false) : DueTo k (.unsupportedExpression k)
  | statement (unread : k.isStmt = false) : DueTo k (.unsupportedStatement k)
  | declaration (unread : k.isSpec = false) : DueTo k (.unsupportedDeclaration k)

/-- Faults of what lies inside a tree. -/
inductive Fault.Within (s : Source) (root : Tree) : Fault → Prop
  | refused {n : Tree} {why : Refusal} (inside : n ∈ root.preorder) (due : why.DueTo n.kind) :
      Within s root (.refused why (s.lineOf n))
  | lacks (what : Absence) : Within s root (.lacks what)

namespace Draft

open GoMetrics.Tree

variable {s : Source} {root t : Tree} {α β : Type}

/-- If a step fails, then for a fault inside the tree. -/
def Blamed (s : Source) (root : Tree) (x : Except Fault α) : Prop :=
  ∀ why, x = .error why → why.Within s root

namespace Blamed

theorem ok (a : α) : Blamed s root (.ok a) :=
  nofun

theorem lacks (what : Absence) : Blamed s root (.error (.lacks what) : Except Fault α) := by
  intro why h
  cases h
  exact .lacks what

theorem bind {x : Except Fault α} {f : α → Except Fault β} (hx : Blamed s root x)
    (hf : ∀ a, x = .ok a → Blamed s root (f a)) : Blamed s root (x >>= f) := by
  cases x with
  | error e =>
      intro why h
      have he : e = why := Except.error.inj h
      exact hx why (congrArg Except.error he)
  | ok a => exact hf a rfl

theorem map {x : Except Fault α} (hx : Blamed s root x) (f : α → β) :
    Blamed s root (f <$> x) :=
  fun why h => hx why (Except.map_eq_error.1 h)

theorem mapM {xs : List α} {f : α → Except Fault β} (hf : ∀ x ∈ xs, Blamed s root (f x)) :
    Blamed s root (xs.mapM f) := by
  intro why h
  obtain ⟨front, x, back, rfl, -, hx⟩ := Except.mapM_eq_error.1 h
  exact hf x (by simp) why hx

theorem option {o : Option α} {f : α → Except Fault β} (hf : ∀ a, o = some a → Blamed s root (f a)) :
    Blamed s root (o.mapM f) := by
  cases o with
  | none => exact .ok none
  | some a => exact (hf a rfl).map some

end Blamed

/-- Steps that are taken at a node inside the tree. -/
theorem blamed_refuse {why : Kind → Refusal} (ht : t ∈ root.preorder)
    (due : (why t.kind).DueTo t.kind) : Blamed s root (refuse s t why : Except Fault α) := by
  intro fault h
  cases h
  exact .refused ht due

theorem blamed_slot (p : Slot) : Blamed s root (slot t p) := by
  unfold slot
  split
  · exact .ok _
  · exact .lacks _

theorem blamed_first : Blamed s root (first t) := by
  unfold first
  split
  · exact .ok _
  · exact .lacks _

theorem blamed_slotText (p : Slot) : Blamed s root (slotText s t p) :=
  (blamed_slot p).bind fun _ _ => .ok _

theorem blamed_bodyLabels : Blamed s root (bodyLabels s t) := by
  unfold bodyLabels
  split
  · exact .ok _
  · split
    · exact .ok _
    · exact .lacks _

/-- A smaller tree that lies inside the tree in question. -/
def Inside (root : Tree) {t : Tree} (c : Below t) : Prop :=
  c.1 ∈ root.preorder

/-- A node inside the tree, and readers that fail, on what lies inside the tree, only for faults
inside the tree. -/
structure Blaming (s : Source) (root : Tree) {t : Tree} (r : Readers t) : Prop where
  inside : t ∈ root.preorder
  expr : ∀ c, Inside root c → ∀ ls, Blamed s root (r.expr ls c)
  stmt : ∀ c, Inside root c → ∀ ls, Blamed s root (r.stmt ls c)
  stmts : ∀ c, Inside root c → ∀ ls, Blamed s root (r.stmts ls c)

namespace Blaming

variable {r : Readers t}

theorem under (h : Blaming s root r) {c : Below t} (hc : Inside root c) :
    Blaming s root (r.under c) where
  inside := hc
  expr := fun d hd => h.expr (c.trans d) hd
  stmt := fun d hd => h.stmt (c.trans d) hd
  stmts := fun d hd => h.stmts (c.trans d) hd

/-! What a node offers lies inside the tree -/

theorem kid (h : Blaming s root r) {c : Below t} (hc : c ∈ t.kids) : Inside root c :=
  mem_preorder_of_mem_children h.inside (mem_children_of_mem_kids hc)

theorem part (h : Blaming s root r) {c : Below t} (hc : c ∈ t.parts) : Inside root c :=
  h.kid (List.mem_filter.1 hc).1

theorem at? (h : Blaming s root r) {p : Slot} {c : Below t} (hc : t.at? p = some c) :
    Inside root c :=
  h.kid (List.mem_of_find?_eq_some hc)

theorem allAt (h : Blaming s root r) {p : Slot} {c : Below t} (hc : c ∈ t.allAt p) :
    Inside root c :=
  h.kid (List.mem_filter.1 hc).1

theorem foundPart (h : Blaming s root r) {q : Below t → Bool} {c : Below t}
    (hc : t.parts.find? q = some c) : Inside root c :=
  h.part (List.mem_of_find?_eq_some hc)

theorem spec (h : Blaming s root r) {c : Below t} (hc : c ∈ t.specs) : Inside root c := by
  rw [specs, List.mem_flatMap] at hc
  obtain ⟨d, hd, hc⟩ := hc
  split at hc
  · obtain ⟨e, he, rfl⟩ := List.mem_map.1 hc
    exact mem_preorder_of_mem_children (h.part hd) (mem_children_of_mem_parts he)
  · rw [List.mem_singleton.1 hc]
    exact h.part hd

/-! Steps that go on with a child -/

theorem atSlot (h : Blaming s root r) (p : Slot) {f : Below t → Except Fault α}
    (hf : ∀ c, Inside root c → Blamed s root (f c)) : Blamed s root (Draft.slot t p >>= f) :=
  (blamed_slot p).bind fun c hc => hf c (h.at? (slot_eq_ok.1 hc))

theorem atFirst (h : Blaming s root r) {f : Below t → Except Fault α}
    (hf : ∀ c, Inside root c → Blamed s root (f c)) : Blamed s root (Draft.first t >>= f) :=
  blamed_first.bind fun c hc => hf c (h.part (List.mem_of_mem_head? (first_eq_ok.1 hc)))

/-- The expression in a slot, and what is done with it. -/
theorem exprAt (h : Blaming s root r) (ls : List String) (p : Slot)
    {f : Node Role → Except Fault α} (hf : ∀ x, Blamed s root (f x)) :
    Blamed s root (Draft.slot t p >>= fun c => r.expr ls c >>= f) :=
  h.atSlot p fun c hc => (h.expr c hc ls).bind fun x _ => hf x

theorem exprFirst (h : Blaming s root r) (ls : List String) {f : Node Role → Except Fault α}
    (hf : ∀ x, Blamed s root (f x)) :
    Blamed s root (Draft.first t >>= fun c => r.expr ls c >>= f) :=
  h.atFirst fun c hc => (h.expr c hc ls).bind fun x _ => hf x

/-! Several at once, or none -/

theorem exprAt? (h : Blaming s root r) (ls : List String) (p : Slot) :
    Blamed s root ((t.at? p).mapM (r.expr ls)) :=
  .option fun c hc => h.expr c (h.at? hc) ls

theorem stmtAt? (h : Blaming s root r) (ls : List String) (p : Slot) :
    Blamed s root ((t.at? p).mapM (r.stmt ls)) :=
  .option fun c hc => h.stmt c (h.at? hc) ls

theorem exprAll (h : Blaming s root r) (ls : List String) (p : Slot) :
    Blamed s root ((t.allAt p).mapM (r.expr ls)) :=
  .mapM fun c hc => h.expr c (h.allAt hc) ls

theorem parts (h : Blaming s root r) {f : Below t → Except Fault α}
    (hf : ∀ c, Inside root c → Blamed s root (f c)) : Blamed s root (t.parts.mapM f) :=
  .mapM fun c hc => hf c (h.part hc)

theorem exprParts (h : Blaming s root r) (ls : List String) :
    Blamed s root (t.parts.mapM (r.expr ls)) :=
  h.parts fun c hc => h.expr c hc ls

theorem stmtsParts (h : Blaming s root r) (ls : List String) :
    Blamed s root (t.parts.mapM (r.stmts ls)) :=
  h.parts fun c hc => h.stmts c hc ls

end Blaming
end Draft
end GoMetrics
