import GoMetrics.Proofs.Alike.Tree
import GoMetrics.Proofs.Erasure

/-!
Reading two trees side by side. `Matches` relates the outcomes of two readings: both succeed, with
results that are related in turn, or both fail for the same reason, which may be reported some lines
further down. It passes through every step of a reading, so a construct matches if what it takes
from its tree does.
-/

namespace GoMetrics

/-- The same outcome, reported `k` lines further down. -/
inductive Matches (k : Nat) {α β : Type} (R : α → β → Prop) :
    Except Fault α → Except Fault β → Prop
  | ok {a : α} {b : β} (h : R a b) : Matches k R (.ok a) (.ok b)
  | refused (why : Refusal) (line : Nat) :
      Matches k R (.error (.refused why line)) (.error (.refused why (line + k)))
  | lacks (what : Absence) : Matches k R (.error (.lacks what)) (.error (.lacks what))

/-- Equal results, of which `P` holds. -/
def Same {α : Type} (P : α → Prop) (a b : α) : Prop :=
  b = a ∧ P a

namespace Matches

variable {k : Nat} {α β γ δ : Type} {R : α → β → Prop} {S : γ → δ → Prop} {P : γ → Prop}

theorem bind {x : Except Fault α} {y : Except Fault β} {f : α → Except Fault γ}
    {g : β → Except Fault δ} (h : Matches k R x y)
    (hf : ∀ a b, R a b → Matches k S (f a) (g b)) : Matches k S (x >>= f) (y >>= g) := by
  cases h with
  | ok h => exact hf _ _ h
  | refused why line => exact .refused why line
  | lacks what => exact .lacks what

theorem next {P : α → Prop} {x y : Except Fault α} {f : α → Except Fault γ}
    {g : α → Except Fault δ} (h : Matches k (Same P) x y)
    (hf : ∀ a, P a → Matches k S (f a) (g a)) : Matches k S (x >>= f) (y >>= g) := by
  refine h.bind fun a b hab => ?_
  rw [hab.1]
  exact hf a hab.2

theorem map {x : Except Fault α} {y : Except Fault β} {f : α → γ} {g : β → δ}
    (h : Matches k R x y) (hf : ∀ a b, R a b → S (f a) (g b)) :
    Matches k S (f <$> x) (g <$> y) := by
  cases h with
  | ok h => exact .ok (hf _ _ h)
  | refused why line => exact .refused why line
  | lacks what => exact .lacks what

/-- A weaker relation between results, known to be results. -/
theorem mono {R' : α → β → Prop} {x : Except Fault α} {y : Except Fault β} (h : Matches k R x y)
    (hr : ∀ a b, x = .ok a → R a b → R' a b) : Matches k R' x y := by
  cases h with
  | ok h => exact .ok (hr _ _ rfl h)
  | refused why line => exact .refused why line
  | lacks what => exact .lacks what

theorem mapM {xs : List α} {ys : List β} {f : α → Except Fault γ} {g : β → Except Fault δ}
    (h : List.Forall₂ R xs ys) (hf : ∀ a b, R a b → Matches k S (f a) (g b)) :
    Matches k (List.Forall₂ S) (xs.mapM f) (ys.mapM g) := by
  induction h with
  | nil => exact .ok .nil
  | cons h _ ih =>
      rw [List.mapM_cons, List.mapM_cons]
      refine (hf _ _ h).bind fun c c' hc => ?_
      refine ih.bind fun cs cs' hcs => ?_
      exact .ok (.cons hc hcs)

theorem same_of_forall₂ {cs cs' : List γ} (h : List.Forall₂ (Same P) cs cs') :
    Same (fun cs => ∀ c ∈ cs, P c) cs cs' := by
  induction h with
  | nil => exact ⟨rfl, nofun⟩
  | cons h _ ih => exact ⟨by rw [h.1, ih.1], List.forall_mem_cons.2 ⟨h.2, ih.2⟩⟩

theorem mapM_same {xs : List α} {ys : List β} {f : α → Except Fault γ} {g : β → Except Fault γ}
    (h : List.Forall₂ R xs ys) (hf : ∀ a b, R a b → Matches k (Same P) (f a) (g b)) :
    Matches k (Same fun cs => ∀ c ∈ cs, P c) (xs.mapM f) (ys.mapM g) :=
  (mapM h hf).mono fun _ _ _ hcs => same_of_forall₂ hcs

theorem eq {x y : Except Fault γ} (h : Matches 0 (Same P) x y) : y = x := by
  cases h with
  | ok h => rw [h.1]
  | refused | lacks => rfl

theorem of_ok {x : Except Fault α} {y : Except Fault β} (h : Matches k R x y) {a : α}
    (hx : x = .ok a) : ∃ b, y = .ok b ∧ R a b := by
  cases h with
  | ok h =>
      cases hx
      exact ⟨_, rfl, h⟩
  | refused | lacks => cases hx

end Matches

namespace Draft

open GoMetrics.Tree Node

/-- Two readings of constructs: trees that say the same, in their sources, and readers of smaller
trees that match. -/
structure Twin (d k : Nat) (s s' : Source) {t t' : Tree} (r : Readers t) (r' : Readers t') :
    Prop where
  source : s.Within s' d k
  tree : Alike d t t'
  expr : ∀ c c', Alike.Below d c c' → ∀ ls,
    Matches k (Same Clean) (r.expr ls c) (r'.expr ls c')
  stmt : ∀ c c', Alike.Below d c c' → ∀ ls,
    Matches k (Same Clean) (r.stmt ls c) (r'.stmt ls c')
  stmts : ∀ c c', Alike.Below d c c' → ∀ ls,
    Matches k (Same AllClean) (r.stmts ls c) (r'.stmts ls c')

variable {d k : Nat} {s s' : Source} {t t' : Tree} {r : Readers t} {r' : Readers t'}
variable {α β : Type} {R : α → β → Prop}

theorem matches_clean {n : Node Role} (construct : n.isConstruct = true)
    (places : AllClean n.places) : Matches k (Same Clean) (pure n) (pure n) :=
  .ok ⟨rfl, clean_of_places construct places⟩

namespace Twin

theorem under (h : Twin d k s s' r r') {c : Below t} {c' : Below t'} (hc : Alike.Below d c c') :
    Twin d k s s' (r.under c) (r'.under c') where
  source := h.source
  tree := hc
  expr := fun e e' he => h.expr (c.trans e) (c'.trans e') he
  stmt := fun e e' he => h.stmt (c.trans e) (c'.trans e') he
  stmts := fun e e' he => h.stmts (c.trans e) (c'.trans e') he

theorem refuse (h : Twin d k s s' r r') (why : Kind → Refusal) :
    Matches k R (Draft.refuse s t why) (Draft.refuse s' t' why) := by
  rw [Draft.refuse, Draft.refuse, h.tree.kind, h.tree.lineOf h.source]
  exact .refused _ _

/-! What a construct cannot do without -/

theorem slot (h : Twin d k s s' r r') (p : Slot) :
    Matches k (Alike.Below d) (Draft.slot t p) (Draft.slot t' p) := by
  have hp := h.tree.at? p
  unfold Draft.slot
  generalize t.at? p = o, t'.at? p = o' at hp
  cases hp with
  | none => exact .lacks _
  | some hc => exact .ok hc

theorem first (h : Twin d k s s' r r') :
    Matches k (Alike.Below d) (Draft.first t) (Draft.first t') := by
  have hp := h.tree.parts
  unfold Draft.first
  generalize t.parts = cs, t'.parts = cs' at hp
  cases hp with
  | nil => exact .lacks _
  | cons hc _ => exact .ok hc

theorem slotText (h : Twin d k s s' r r') (p : Slot) :
    Matches k (Same fun _ => True) (Draft.slotText s t p) (Draft.slotText s' t' p) := by
  refine (h.slot p).bind fun c c' hc => ?_
  exact .ok ⟨Alike.textOf h.source hc, trivial⟩

/-- The expression in a slot, and what is done with it. -/
theorem exprAt (h : Twin d k s s' r r') (ls : List String) (p : Slot)
    {f : Node Role → Except Fault α} {g : Node Role → Except Fault β}
    (hf : ∀ x, x.Clean → Matches k R (f x) (g x)) :
    Matches k R (Draft.slot t p >>= fun c => r.expr ls c >>= f)
      (Draft.slot t' p >>= fun c => r'.expr ls c >>= g) :=
  (h.slot p).bind fun c c' hc => (h.expr c c' hc ls).next hf

theorem exprFirst (h : Twin d k s s' r r') (ls : List String)
    {f : Node Role → Except Fault α} {g : Node Role → Except Fault β}
    (hf : ∀ x, x.Clean → Matches k R (f x) (g x)) :
    Matches k R (Draft.first t >>= fun c => r.expr ls c >>= f)
      (Draft.first t' >>= fun c => r'.expr ls c >>= g) :=
  h.first.bind fun c c' hc => (h.expr c c' hc ls).next hf

/-! What it may lack -/

theorem option {f : Below t → Result} {g : Below t' → Result}
    (hf : ∀ c c', Alike.Below d c c' → Matches k (Same Clean) (f c) (g c'))
    {o : Option (Below t)} {o' : Option (Below t')} (ho : Option.Rel (Alike.Below d) o o') :
    Matches k (Same fun o => AllClean o.toList) (o.mapM f) (o'.mapM g) := by
  cases ho with
  | none => exact .ok ⟨rfl, allClean_nil⟩
  | some hc =>
      refine (hf _ _ hc).map ?_
      rintro n _ ⟨rfl, hn⟩
      exact ⟨rfl, allClean_cons.2 ⟨hn, allClean_nil⟩⟩

theorem exprAt? (h : Twin d k s s' r r') (ls : List String) (p : Slot) :
    Matches k (Same fun o => AllClean o.toList) ((t.at? p).mapM (r.expr ls))
      ((t'.at? p).mapM (r'.expr ls)) :=
  option (fun c c' hc => h.expr c c' hc ls) (h.tree.at? p)

theorem stmtAt? (h : Twin d k s s' r r') (ls : List String) (p : Slot) :
    Matches k (Same fun o => AllClean o.toList) ((t.at? p).mapM (r.stmt ls))
      ((t'.at? p).mapM (r'.stmt ls)) :=
  option (fun c c' hc => h.stmt c c' hc ls) (h.tree.at? p)

/-! Several at once -/

theorem each {f : Below t → Result} {g : Below t' → Result} {cs : List (Below t)}
    {cs' : List (Below t')} (hcs : List.Forall₂ (Alike.Below d) cs cs')
    (hf : ∀ c c', Alike.Below d c c' → Matches k (Same Clean) (f c) (g c')) :
    Matches k (Same AllClean) (cs.mapM f) (cs'.mapM g) :=
  Matches.mapM_same hcs hf

theorem exprs (h : Twin d k s s' r r') (ls : List String) {cs : List (Below t)}
    {cs' : List (Below t')} (hcs : List.Forall₂ (Alike.Below d) cs cs') :
    Matches k (Same AllClean) (cs.mapM (r.expr ls)) (cs'.mapM (r'.expr ls)) :=
  each hcs fun c c' hc => h.expr c c' hc ls

/-- Statements in a row, flattened into one list. -/
theorem bodies (h : Twin d k s s' r r') (ls : List String) {cs : List (Below t)}
    {cs' : List (Below t')} (hcs : List.Forall₂ (Alike.Below d) cs cs')
    {f : List (List (Node Role)) → Except Fault α} {g : List (List (Node Role)) → Except Fault β}
    (hf : ∀ body, AllClean body.flatten → Matches k R (f body) (g body)) :
    Matches k R (cs.mapM (r.stmts ls) >>= f) (cs'.mapM (r'.stmts ls) >>= g) :=
  (Matches.mapM_same hcs fun c c' hc => h.stmts c c' hc ls).next
    fun body hb => hf body (allClean_flatten hb)

end Twin

/-! Names and labels -/

theorem names_eq {s s' : Source} (hs : s.Within s' d k) (ht : Alike d t t') :
    names s' t' = names s t :=
  (map_eq_of_forall₂ (ht.allAt .name) fun _ _ hc => (Alike.textOf hs hc).symm).symm

theorem typeParams_eq {s s' : Source} (hs : s.Within s' d k) (ht : Alike d t t') :
    typeParams s' t' = typeParams s t := by
  have hp := ht.at? .typeParameters
  unfold typeParams
  generalize t.at? .typeParameters = o, t'.at? .typeParameters = o' at hp
  cases hp with
  | none => rfl
  | some hc =>
      simp only [List.flatMap_def]
      rw [map_eq_of_forall₂ (Alike.parts hc) fun e e' he => (names_eq hs he).symm]

theorem allClean_idents (xs : List String) (role : Role) :
    AllClean (xs.map fun x => Node.ident x role) := by
  intro n hn
  obtain ⟨x, -, rfl⟩ := List.mem_map.1 hn
  exact clean_ident x role

theorem allClean_bindings (xs : List String) : AllClean (bindings xs) :=
  allClean_idents xs .binds

theorem matches_bodyLabels {s s' : Source} (hs : s.Within s' d k) (ht : Alike d t t') :
    Matches k (Same fun _ => True) (bodyLabels s t) (bodyLabels s' t') := by
  have hp := ht.at? .body
  unfold bodyLabels
  generalize t.at? .body = o, t'.at? .body = o' at hp
  cases hp with
  | none => exact .ok ⟨rfl, trivial⟩
  | some hc =>
      simp only [Alike.labels? hs hc]
      split
      · exact .ok ⟨rfl, trivial⟩
      · exact .lacks _

end Draft
end GoMetrics
