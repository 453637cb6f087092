import Mathlib.Data.List.Forall2
import Mathlib.Data.List.ReduceOption
import GoMetrics.Syntax.File

/-!
What a reading that succeeds is made of. Each lemma turns the success of a step into the facts that
it was taken with, so that a draft can be opened into the drafts of its parts.
-/

namespace GoMetrics

namespace Except

variable {ε α β : Type}

theorem bind_eq_ok {x : Except ε α} {f : α → Except ε β} {b : β} :
    x >>= f = .ok b ↔ ∃ a, x = .ok a ∧ f a = .ok b := by
  cases x with
  | error e => simp [bind, Except.bind]
  | ok a => simp [bind, Except.bind]

theorem map_eq_ok {x : Except ε α} {f : α → β} {b : β} :
    f <$> x = .ok b ↔ ∃ a, x = .ok a ∧ f a = b := by
  cases x with
  | error e => simp [Functor.map, Except.map]
  | ok a => simp [Functor.map, Except.map]

theorem pure_eq_ok {a b : α} : (pure a : Except ε α) = .ok b ↔ a = b := by
  simp [pure, Except.pure]

theorem mapError_eq_ok {ε' : Type} {x : Except ε α} {embed : ε → ε'} {a : α} :
    x.mapError embed = .ok a ↔ x = .ok a := by
  cases x <;> simp [Except.mapError]

theorem exists_eq_ok {x : Except ε α} (h : x.toOption.isSome = true) : ∃ a, x = .ok a := by
  cases x with
  | error e => cases h
  | ok a => exact ⟨a, rfl⟩

/-- Steps taken along a list succeed together exactly if each of them does. -/
theorem mapM_eq_ok {f : α → Except ε β} {xs : List α} {ys : List β} :
    xs.mapM f = .ok ys ↔ List.Forall₂ (fun x y => f x = .ok y) xs ys := by
  induction xs generalizing ys with
  | nil => cases ys <;> simp [pure, Except.pure]
  | cons x xs ih =>
      simp only [List.mapM_cons, bind_eq_ok, pure_eq_ok, ih, List.forall₂_cons_left_iff]
      constructor
      · rintro ⟨y, hy, rest, hrest, rfl⟩
        exact ⟨y, rest, hy, hrest, rfl⟩
      · rintro ⟨y, rest, hy, hrest, rfl⟩
        exact ⟨y, hy, rest, hrest, rfl⟩

/-- Every member of a list has a partner in a list that is related to it. -/
theorem exists_of_forall₂ {R : α → β → Prop} {xs : List α} {ys : List β}
    (h : List.Forall₂ R xs ys) {x : α} (hx : x ∈ xs) : ∃ y ∈ ys, R x y := by
  induction h with
  | nil => cases hx
  | cons hr _ ih =>
      obtain rfl | hx := List.mem_cons.1 hx
      · exact ⟨_, List.mem_cons_self, hr⟩
      · obtain ⟨y, hy, hr⟩ := ih hx
        exact ⟨y, List.mem_cons_of_mem _ hy, hr⟩

theorem exists_of_mapM_eq_ok {f : α → Except ε β} {xs : List α} {ys : List β}
    (h : xs.mapM f = .ok ys) {x : α} (hx : x ∈ xs) : ∃ y ∈ ys, f x = .ok y :=
  exists_of_forall₂ (mapM_eq_ok.1 h) hx

/-- They fail together with the first one that does. -/
theorem mapM_eq_error {f : α → Except ε β} {xs : List α} {why : ε} :
    xs.mapM f = .error why ↔ ∃ front x back, xs = front ++ x :: back ∧
      (∀ y ∈ front, ∃ b, f y = .ok b) ∧ f x = .error why := by
  induction xs with
  | nil => simp [pure, Except.pure]
  | cons x xs ih =>
      rw [List.mapM_cons]
      cases hx : f x with
      | error e =>
          constructor
          · intro h
            cases h
            exact ⟨[], x, xs, rfl, nofun, hx⟩
          · rintro ⟨front, y, back, hl, hf, hy⟩
            cases front with
            | nil =>
                cases hl
                cases hx.symm.trans hy
                rfl
            | cons z front =>
                cases hl
                obtain ⟨b, hb⟩ := hf x List.mem_cons_self
                cases hx.symm.trans hb
      | ok a =>
          have hm : (do
              let b ← (.ok a : Except ε β)
              let bs ← xs.mapM f
              return b :: bs) = .error why ↔ xs.mapM f = .error why := by
            cases xs.mapM f <;> simp [bind, Except.bind, pure, Except.pure]
          rw [hm, ih]
          constructor
          · rintro ⟨front, y, back, rfl, hf, hy⟩
            exact ⟨x :: front, y, back, rfl, List.forall_mem_cons.2 ⟨⟨a, hx⟩, hf⟩, hy⟩
          · rintro ⟨front, y, back, hl, hf, hy⟩
            cases front with
            | nil =>
                cases hl
                cases hx.symm.trans hy
            | cons z front =>
                cases hl
                exact ⟨front, y, back, rfl, fun w hw => hf w (List.mem_cons_of_mem x hw), hy⟩

theorem mapM_mapError {ε' : Type} (embed : ε → ε') (f : α → Except ε β) (xs : List α) :
    (xs.mapM fun x => (f x).mapError embed) = (xs.mapM f).mapError embed := by
  induction xs with
  | nil => rfl
  | cons x xs ih =>
      rw [List.mapM_cons, List.mapM_cons, ih]
      cases f x with
      | error e => rfl
      | ok y => cases xs.mapM f <;> rfl

/-- Steps that may leave something out. -/
theorem filterMapM_eq_ok {f : α → Except ε (Option β)} {xs : List α} {ys : List β} :
    xs.filterMapM f = .ok ys ↔ ∃ os, xs.mapM f = .ok os ∧ os.reduceOption = ys := by
  induction xs generalizing ys with
  | nil => simp [pure, Except.pure, List.reduceOption_nil]
  | cons x xs ih =>
      simp only [List.filterMapM_cons, List.mapM_cons, bind_eq_ok, pure_eq_ok]
      constructor
      · rintro ⟨o, ho, h⟩
        cases o with
        | none =>
            obtain ⟨os, hos, rfl⟩ := ih.1 h
            exact ⟨none :: os, ⟨none, ho, os, hos, rfl⟩, rfl⟩
        | some b =>
            obtain ⟨bs, hbs, h⟩ := bind_eq_ok.1 h
            cases h
            obtain ⟨os, hos, rfl⟩ := ih.1 hbs
            exact ⟨some b :: os, ⟨some b, ho, os, hos, rfl⟩, rfl⟩
      · rintro ⟨_, ⟨o, ho, os, hos, rfl⟩, rfl⟩
        refine ⟨o, ho, ?_⟩
        cases o with
        | none => exact ih.2 ⟨os, hos, rfl⟩
        | some b => exact bind_eq_ok.2 ⟨os.reduceOption, ih.2 ⟨os, hos, rfl⟩, rfl⟩

theorem reduceOption_map (f : α → Option β) (xs : List α) :
    (xs.map f).reduceOption = xs.filterMap f := by
  change (xs.map f).filterMap id = xs.filterMap f
  rw [List.filterMap_map, Function.id_comp]

/-- A search that can look everywhere comes to an answer. -/
theorem exists_findSomeM? {f : α → Except ε (Option β)} {xs : List α}
    (h : ∀ x ∈ xs, ∃ o, f x = .ok o) : ∃ o, xs.findSomeM? f = .ok o := by
  induction xs with
  | nil => exact ⟨none, rfl⟩
  | cons x xs ih =>
      obtain ⟨o, ho⟩ := h x List.mem_cons_self
      rw [List.findSomeM?_cons, ho]
      cases o with
      | none => exact ih fun y hy => h y (List.mem_cons_of_mem x hy)
      | some b => exact ⟨some b, rfl⟩

theorem map_eq_error {x : Except ε α} {f : α → β} {why : ε} :
    f <$> x = .error why ↔ x = .error why := by
  cases x <;> simp [Functor.map, Except.map]

theorem option_mapM_eq_ok {f : α → Except ε β} {x : Option α} {y : Option β} :
    x.mapM f = .ok y ↔ List.Forall₂ (fun x y => f x = .ok y) x.toList y.toList := by
  cases x with
  | none => cases y <;> simp [pure, Except.pure]
  | some a => cases y <;> simp [map_eq_ok]

/-- Partners of a list that is put together fall into partners of its pieces. -/
theorem forall₂_append_left {R : α → β → Prop} {xs xs' : List α} {ys : List β}
    (h : List.Forall₂ R (xs ++ xs') ys) :
    ∃ zs zs', ys = zs ++ zs' ∧ List.Forall₂ R xs zs ∧ List.Forall₂ R xs' zs' := by
  induction xs generalizing ys with
  | nil => exact ⟨[], ys, rfl, .nil, h⟩
  | cons x xs ih =>
      obtain ⟨y, rest, hy, hrest, rfl⟩ := List.forall₂_cons_left_iff.1 h
      obtain ⟨zs, zs', rfl, hz, hz'⟩ := ih hrest
      exact ⟨y :: zs, zs', rfl, .cons hy hz, hz'⟩

theorem forall₂_flatMap_left {γ : Type} {R : α → β → Prop} {f : γ → List α} {cs : List γ}
    {ys : List β} (h : List.Forall₂ R (cs.flatMap f) ys) :
    ∃ yss, ys = yss.flatten ∧ List.Forall₂ (fun c zs => List.Forall₂ R (f c) zs) cs yss := by
  induction cs generalizing ys with
  | nil =>
      cases h
      exact ⟨[], rfl, .nil⟩
  | cons c cs ih =>
      rw [List.flatMap_cons] at h
      obtain ⟨zs, zs', rfl, hz, hz'⟩ := forall₂_append_left h
      obtain ⟨yss, rfl, hyss⟩ := ih hz'
      exact ⟨zs :: yss, rfl, .cons hz hyss⟩

end Except

namespace Draft

variable {s : Source} {t : Tree}

theorem slot_eq_ok {p : Slot} {c : Tree.Below t} : slot t p = .ok c ↔ t.at? p = some c := by
  unfold slot
  split <;> simp_all

theorem first_eq_ok {c : Tree.Below t} : first t = .ok c ↔ t.parts.head? = some c := by
  unfold first
  split <;> simp_all

theorem slotText_eq_ok {p : Slot} {x : String} :
    slotText s t p = .ok x ↔ ∃ c, t.at? p = some c ∧ s.textOf c.1 = x := by
  simp only [slotText, Except.bind_eq_ok, Except.pure_eq_ok, slot_eq_ok]

/-! Trees that are read one by one -/

namespace Readers

variable {ls : List String} {r : Readers t}

/-- Trees that are each read as an expression. -/
def Exprs (r : Readers t) (ls : List String) (cs : List (Tree.Below t)) (xs : List (Node Role)) :
    Prop :=
  List.Forall₂ (fun c x => r.expr ls c = .ok x) cs xs

/-- Trees that are each read as a statement. -/
def Stmts (r : Readers t) (ls : List String) (cs : List (Tree.Below t)) (xs : List (Node Role)) :
    Prop :=
  List.Forall₂ (fun c x => r.stmt ls c = .ok x) cs xs

/-- Trees that are each read as any number of statements. -/
def Bodies (r : Readers t) (ls : List String) (cs : List (Tree.Below t))
    (nss : List (List (Node Role))) : Prop :=
  List.Forall₂ (fun c ns => r.stmts ls c = .ok ns) cs nss

variable {cs : List (Tree.Below t)} {o : Option (Tree.Below t)}

theorem under_expr (c : Tree.Below t) (d : Tree.Below c.1) :
    (r.under c).expr ls d = r.expr ls (c.trans d) :=
  rfl

/-- Parts of a part are read as parts of the whole. -/
theorem under_exprOpt {c : Tree.Below t} {o : Option (Tree.Below c.1)} {xs : List (Node Role)} :
    (r.under c).Exprs ls o.toList xs ↔ r.Exprs ls (o.map c.trans).toList xs := by
  cases o <;> simp only [Exprs, under_expr, Option.map_none, Option.map_some, Option.toList_none,
    Option.toList_some, List.forall₂_cons_left_iff, List.forall₂_nil_left_iff]

theorem exprs_eq_ok {xs : List (Node Role)} : cs.mapM (r.expr ls) = .ok xs ↔ r.Exprs ls cs xs :=
  Except.mapM_eq_ok

theorem exprOpt_eq_ok {x : Option (Node Role)} :
    o.mapM (r.expr ls) = .ok x ↔ r.Exprs ls o.toList x.toList :=
  Except.option_mapM_eq_ok

theorem stmtOpt_eq_ok {x : Option (Node Role)} :
    o.mapM (r.stmt ls) = .ok x ↔ r.Stmts ls o.toList x.toList :=
  Except.option_mapM_eq_ok

theorem bodies_eq_ok {nss : List (List (Node Role))} :
    cs.mapM (r.stmts ls) = .ok nss ↔ r.Bodies ls cs nss :=
  Except.mapM_eq_ok

/-- The one part that a construct cannot do without, read as an expression. -/
theorem expr_iff {x : Node Role} :
    (∃ c, o = some c ∧ r.expr ls c = .ok x) ↔ r.Exprs ls o.toList [x] := by
  cases o <;> simp [Exprs]

theorem exists_expr_iff {Q : Node Role → Prop} :
    (∃ c, o = some c ∧ ∃ x, r.expr ls c = .ok x ∧ Q x) ↔ ∃ x, r.Exprs ls o.toList [x] ∧ Q x := by
  simp only [← expr_iff]
  constructor
  · rintro ⟨c, hc, x, hx, h⟩
    exact ⟨x, ⟨c, hc, hx⟩, h⟩
  · rintro ⟨x, ⟨c, hc, hx⟩, h⟩
    exact ⟨c, hc, x, hx, h⟩

end Readers
end Draft
end GoMetrics
