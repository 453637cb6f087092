import Mathlib.Data.List.Forall2
import GoMetrics.Outcome

/-!
Steps that write and may fail, taken one after another. What a sequence of steps writes is what its
steps write, up to the first that fails.
-/

namespace GoMetrics.Outcome

variable {α β : Type}

theorem bind_eq (x : Outcome α) (f : α → Outcome β) : x >>= f = x.bind f :=
  rfl

instance : LawfulMonad Outcome := by
  refine LawfulMonad.mk' Outcome ?_ ?_ ?_
  · rintro α ⟨out, log, result⟩
    cases result <;> simp [Functor.map, bind]
  · intro α β a f
    simp [bind_eq, bind, pure]
  · rintro α β γ ⟨out, log, result⟩ f g
    cases result with
    | error e => rfl
    | ok a =>
        cases h : (f a).result <;>
          simp [bind_eq, bind, h, String.append_assoc, List.append_assoc]

/-- What a step writes and what it comes to, whatever it logs. -/
structure Gives (x : Outcome α) (text : String) (result : Except Failure α) : Prop where
  out : x.out = text
  result : x.result = result

namespace Gives

theorem pure (a : α) : Gives (Pure.pure a) "" (.ok a) :=
  ⟨rfl, rfl⟩

theorem record (level : Level) (message : String) :
    Gives (Outcome.record level message) "" (.ok ()) :=
  ⟨rfl, rfl⟩

theorem write (text : String) : Gives (Outcome.write text) text (.ok ()) :=
  ⟨rfl, rfl⟩

theorem ofExcept {ε : Type} (embed : ε → Failure) (x : Except ε α) :
    Gives (Outcome.ofExcept embed x) "" (x.mapError embed) :=
  ⟨rfl, rfl⟩

theorem bind {x : Outcome α} {f : α → Outcome β} {text text' : String} {a : α}
    {result : Except Failure β} (hx : Gives x text (.ok a)) (hf : Gives (f a) text' result) :
    Gives (x >>= f) (text ++ text') result := by
  obtain ⟨out, log, result⟩ := x
  obtain ⟨rfl, rfl⟩ := hx
  obtain ⟨rfl, rfl⟩ := hf
  exact ⟨rfl, rfl⟩

/-- A step that writes nothing leaves what follows it as it is. -/
theorem silent {x : Outcome α} {f : α → Outcome β} {text : String} {a : α}
    {result : Except Failure β} (hx : Gives x "" (.ok a)) (hf : Gives (f a) text result) :
    Gives (x >>= f) text result := by
  simpa using hx.bind hf

theorem followed {x : Outcome α} {f : α → Outcome β} {text : String} {a : α}
    {result : Except Failure β} (hx : Gives x text (.ok a)) (hf : Gives (f a) "" result) :
    Gives (x >>= f) text result := by
  simpa using hx.bind hf

theorem failed {x : Outcome α} {f : α → Outcome β} {text : String} {e : Failure}
    (hx : Gives x text (.error e)) : Gives (x >>= f) text (.error e) := by
  obtain ⟨out, log, result⟩ := x
  obtain ⟨rfl, rfl⟩ := hx
  exact ⟨rfl, rfl⟩

end Gives

/-! Lists of steps -/

theorem result_bind (x : Outcome α) (f : α → Outcome β) :
    (x >>= f).result = x.result >>= fun a => (f a).result := by
  obtain ⟨out, log, result⟩ := x
  cases result <;> rfl

theorem log_bind {x : Outcome α} {f : α → Outcome β} {a : α} (h : x.result = .ok a) :
    (x >>= f).log = x.log ++ (f a).log := by
  obtain ⟨out, log, result⟩ := x
  cases h
  rfl

/-- Steps taken along a list come to what their results come to. -/
theorem result_mapM (f : α → Outcome β) (xs : List α) :
    (xs.mapM f).result = xs.mapM fun x => (f x).result := by
  induction xs with
  | nil => rfl
  | cons x xs ih =>
      rw [List.mapM_cons, List.mapM_cons, result_bind]
      congr 1
      funext b
      rw [result_bind, ih]
      rfl

/-- If none of them fails, everything is written. -/
theorem mapM_gives {f : α → Outcome β} {xs : List α} {ys : List β}
    (h : List.Forall₂ (fun x y => (f x).result = .ok y) xs ys) :
    Gives (xs.mapM f) (String.join (xs.map fun x => (f x).out)) (.ok ys) := by
  induction h with
  | nil => exact .pure _
  | @cons x y xs ys hx _ ih =>
      rw [List.mapM_cons, List.map_cons, String.join_cons]
      have hy : Gives (f x) (f x).out (.ok y) := ⟨rfl, hx⟩
      exact hy.bind (ih.followed (.pure _))

/-- If none of them fails, everything is logged. -/
theorem log_mapM {f : α → Outcome β} {xs : List α} {ys : List β}
    (h : List.Forall₂ (fun x y => (f x).result = .ok y) xs ys) :
    (xs.mapM f).log = xs.flatMap fun x => (f x).log := by
  induction h with
  | nil => rfl
  | @cons x y xs ys hx hxs ih =>
      have hr : (xs.mapM f).result = .ok ys := (mapM_gives hxs).result
      rw [List.mapM_cons, List.flatMap_cons, log_bind hx, log_bind hr, ih]
      simp [Pure.pure]

/-! What holds of steps and of everything that is put together from them -/

/-- A property that steps pass on to what is put together from them. -/
structure Closed (P : {α : Type} → Outcome α → Prop) : Prop where
  pure : ∀ {α : Type} (a : α), P (Pure.pure a)
  record : ∀ level message, P (Outcome.record level message)
  bind : ∀ {α β : Type} {x : Outcome α} {f : α → Outcome β}, P x → (∀ a, P (f a)) → P (x >>= f)

namespace Closed

variable {P : {α : Type} → Outcome α → Prop}

theorem foldlM (hP : Closed P) {f : β → α → Outcome β} (h : ∀ b a, P (f b a)) (b : β)
    (xs : List α) : P (xs.foldlM f b) := by
  induction xs generalizing b with
  | nil => exact hP.pure b
  | cons x xs ih =>
      rw [List.foldlM_cons]
      exact hP.bind (h b x) fun b => ih b

theorem mapM (hP : Closed P) {f : α → Outcome β} (h : ∀ x, P (f x)) (xs : List α) :
    P (xs.mapM f) := by
  induction xs with
  | nil => exact hP.pure []
  | cons x xs ih =>
      rw [List.mapM_cons]
      exact hP.bind (h x) fun _ => hP.bind ih fun _ => hP.pure _

end Closed

/-! Steps that write nothing -/

def IsSilent (x : Outcome α) : Prop :=
  x.out = ""

namespace IsSilent

theorem pure (a : α) : IsSilent (Pure.pure a) :=
  rfl

theorem fail (f : Failure) : IsSilent (Outcome.fail f : Outcome α) :=
  rfl

theorem record (level : Level) (message : String) : IsSilent (Outcome.record level message) :=
  rfl

theorem ofExcept {ε : Type} (embed : ε → Failure) (x : Except ε α) :
    IsSilent (Outcome.ofExcept embed x) :=
  rfl

theorem bind {x : Outcome α} {f : α → Outcome β} (hx : IsSilent x) (hf : ∀ a, IsSilent (f a)) :
    IsSilent (x >>= f) := by
  obtain ⟨out, log, result⟩ := x
  cases result with
  | error e => exact hx
  | ok a =>
      have hx : out = "" := hx
      have hf : (f a).out = "" := hf a
      simp [IsSilent, bind_eq, Outcome.bind, hx, hf]

theorem closed : Closed IsSilent :=
  ⟨pure, record, bind⟩

theorem mapM {f : α → Outcome β} (h : ∀ x, IsSilent (f x)) (xs : List α) :
    IsSilent (xs.mapM f) :=
  closed.mapM h xs

end IsSilent

/-! Steps that never end in failures of a kind -/

/-- None of these failures is what a step ends in. -/
def Avoids {ι : Type} (bad : ι → Failure) (x : Outcome α) : Prop :=
  ∀ i, x.result ≠ .error (bad i)

namespace Avoids

variable {ι : Type} {bad : ι → Failure}

theorem pure (a : α) : Avoids bad (Pure.pure a : Outcome α) :=
  nofun

theorem fail {f : Failure} (h : ∀ i, f ≠ bad i) : Avoids bad (Outcome.fail f : Outcome α) :=
  fun i hi => h i (Except.error.inj hi)

theorem record (level : Level) (message : String) : Avoids bad (Outcome.record level message) :=
  nofun

theorem write (text : String) : Avoids bad (Outcome.write text) :=
  nofun

theorem ofExcept {ε : Type} {embed : ε → Failure} (h : ∀ e i, embed e ≠ bad i)
    (x : Except ε α) : Avoids bad (Outcome.ofExcept embed x) := by
  intro i hi
  cases x with
  | error e => exact h e i (Except.error.inj hi)
  | ok a => cases hi

theorem bind {x : Outcome α} {f : α → Outcome β} (hx : Avoids bad x)
    (hf : ∀ a, Avoids bad (f a)) : Avoids bad (x >>= f) := by
  obtain ⟨out, log, result⟩ := x
  intro i hi
  cases result with
  | error e =>
      have he : e = bad i := Except.error.inj hi
      exact hx i (congrArg Except.error he)
  | ok a => exact hf a i hi

theorem closed : Closed (Avoids bad) :=
  ⟨pure, record, bind⟩

theorem foldlM {f : β → α → Outcome β} (h : ∀ b a, Avoids bad (f b a)) (b : β) (xs : List α) :
    Avoids bad (xs.foldlM f b) :=
  closed.foldlM h b xs

theorem mapM {f : α → Outcome β} (h : ∀ x, Avoids bad (f x)) (xs : List α) :
    Avoids bad (xs.mapM f) :=
  closed.mapM h xs

end Avoids

def NoComplaint (x : Outcome α) : Prop :=
  Avoids .complaint x

namespace NoComplaint

theorem unmeasured (x : Except Unmeasured α) : NoComplaint (.ofExcept .unmeasured x) :=
  Avoids.ofExcept (fun _ _ h => by cases h) x

theorem mismatch (x : Except Mismatch α) : NoComplaint (.ofExcept .mismatch x) :=
  Avoids.ofExcept (fun _ _ h => by cases h) x

end NoComplaint

/-! Steps that write the same and come to the same -/

def Tells (x y : Outcome α) : Prop :=
  Gives x y.out y.result

namespace Tells

theorem refl (x : Outcome α) : Tells x x :=
  ⟨rfl, rfl⟩

theorem gives {x y : Outcome α} {text : String} {result : Except Failure α} (h : Tells x y)
    (hy : Gives y text result) : Gives x text result :=
  ⟨h.out.trans hy.out, h.result.trans hy.result⟩

theorem bind {x y : Outcome α} {f g : α → Outcome β} (hx : Tells x y)
    (hf : ∀ a, Tells (f a) (g a)) : Tells (x >>= f) (y >>= g) := by
  obtain ⟨out, log, result⟩ := y
  cases result with
  | error e => exact Gives.failed hx
  | ok a => exact Gives.bind hx (hf a)

end Tells
end GoMetrics.Outcome
