import GoMetrics.Syntax.Binding

/-!
Environments against flat lists of names. A place is described by the names in force there, and an
identifier by the place where it stands. `Shows` says that a chain of scopes finds exactly the names
that such a description lists. Opening a scope keeps it, and so does declaring names on both sides;
closing a scope gives back the environment from before, so nothing has to be shown there.
-/

namespace GoMetrics

namespace Lexical

/-- The names in force at a place. -/
structure Visible where
  /-- Names declared around the place, inside the declaration that it lies in. -/
  locals : List String
  /-- File-level names declared above. -/
  above : List String
  /-- Whether the place is at file level. -/
  top : Bool
  deriving DecidableEq, Repr

namespace Visible

/-- At file level names become names above; initialisers cannot be referred to. -/
def declare (v : Visible) (names : List String) : Visible :=
  if v.top then { v with above := v.above ++ names.filter (· != "init") }
  else { v with locals := v.locals ++ names }

def inside (v : Visible) : Visible :=
  { v with top := false }

@[simp] theorem declare_nil (v : Visible) : v.declare [] = v := by
  obtain ⟨locals, above, top⟩ := v
  cases top <;> simp [declare]

@[simp] theorem declare_append (v : Visible) (xs ys : List String) :
    v.declare (xs ++ ys) = (v.declare xs).declare ys := by
  cases h : v.top <;> simp [declare, h]

@[simp] theorem top_declare (v : Visible) (xs : List String) : (v.declare xs).top = v.top := by
  cases h : v.top <;> simp [declare, h]

@[simp] theorem top_inside (v : Visible) : v.inside.top = false :=
  rfl

end Visible

/-- A point of a construct that is measured: an identifier, with the names in force where it
stands if its resolution depends on them, or a decision. -/
inductive Site
  | use (name : String) (seen : Visible)
  | key (name : String) (seen : Visible)
  | settled (name : String) (resolved : Bool)
  | decision
  deriving DecidableEq, Repr

namespace Site

def ofRole (name : String) (v : Visible) : Role → Site
  | .use => .use name v
  | .key => .key name v
  | .binds => .settled name true
  | .settled b => .settled name b

/-- An identifier with whether it is resolved in a file that has the given names at its top
level. A decision is no identifier. -/
def judged (file : List String) : Site → Option (String × Bool)
  | .use x v => some (x, x ≠ blank ∧ (x ∈ file ∨ x ∈ v.locals))
  | .key x v => some (x, (x ≠ blank ∧ x ∈ v.locals) ∨ x ∈ v.above)
  | .settled x b => some (x, b)
  | .decision => none

end Site
end Lexical

namespace Scope

@[simp] theorem lookup_push (s : Scope) (x : String) : s.push.lookup x = s.lookup x := by
  simp [push, lookup, frames]

@[simp] theorem isRoot_push (s : Scope) : s.push.isRoot = false :=
  rfl

@[simp] theorem isRoot_declare (s : Scope) (x : String) : (s.declare x).isRoot = s.isRoot := by
  unfold declare
  split <;> rfl

theorem lookup_declare (s : Scope) (x y : String) :
    (s.declare x).lookup y = true ↔ (y = x ∧ x ≠ blank) ∨ s.lookup y = true := by
  by_cases h : x = blank
  · simp [declare, h]
  · simp [declare, h, lookup, frames, or_assoc]

theorem lookup_declareAll (s : Scope) (names : List String) (x : String) :
    (s.declareAll names).lookup x = true ↔ (x ≠ blank ∧ x ∈ names) ∨ s.lookup x = true := by
  induction names generalizing s with
  | nil => simp [declareAll]
  | cons y ys ih =>
      have h := ih (s.declare y)
      rw [lookup_declare] at h
      rw [show s.declareAll (y :: ys) = (s.declare y).declareAll ys from rfl, h]
      grind

@[simp] theorem isRoot_declareAll (s : Scope) (names : List String) :
    (s.declareAll names).isRoot = s.isRoot := by
  induction names generalizing s with
  | nil => rfl
  | cons y ys ih => exact (ih (s.declare y)).trans (isRoot_declare s y)

/-- Within the outermost scope nothing is local. -/
theorem lookupLocal_of_isRoot {s : Scope} (h : s.isRoot = true) (x : String) :
    s.lookupLocal x = false := by
  simp_all [isRoot, lookupLocal, lookupWithin]

@[simp] theorem lookupLocal_push (s : Scope) (x : String) :
    s.push.lookupLocal x = s.lookupLocal x := by
  simp [push, lookupLocal, lookupWithin, frames]

theorem lookupLocal_declare {s : Scope} (h : s.isRoot = false) (x y : String) :
    (s.declare x).lookupLocal y = true ↔ (y = x ∧ x ≠ blank) ∨ s.lookupLocal y = true := by
  obtain ⟨inner, outer⟩ := s
  cases outer with
  | nil => simp [isRoot] at h
  | cons f fs =>
      by_cases hx : x = blank
      · simp [declare, hx]
      · simp [declare, hx, lookupLocal, lookupWithin, frames, or_assoc]

/-- What the outermost scope has already is not entered twice. -/
theorem declare_eq_self {s : Scope} {x : String} (hs : s.isRoot = true)
    (hx : x = blank ∨ s.lookup x = true) : s.declare x = s := by
  unfold declare
  split
  · rfl
  · rename_i h
    have hm : x ∈ s.inner := by simp_all [lookup, frames, isRoot]
    rw [List.insert_of_mem hm]

end Scope

namespace Env

/-- Declare names one after another. -/
def declares (e : Env) (names : List String) : Env :=
  names.foldl declare e

@[simp] theorem declares_nil (e : Env) : e.declares [] = e :=
  rfl

@[simp] theorem declares_append (e : Env) (xs ys : List String) :
    e.declares (xs ++ ys) = (e.declares xs).declares ys :=
  List.foldl_append

@[simp] theorem scope_declare (e : Env) (x : String) :
    (e.declare x).scope = e.scope.declare x := by
  simp only [declare, reach]
  split <;> rfl

@[simp] theorem isRoot_push (e : Env) : e.push.scope.isRoot = false :=
  rfl

theorem declare_of_not_isRoot {e : Env} (h : e.scope.isRoot = false) (x : String) :
    e.declare x = { e with scope := e.scope.declare x } := by
  simp [declare, reach, h]

/-- Below file level, declaring names at once or one by one is the same. -/
theorem declareAll_eq_declares {e : Env} (h : e.scope.isRoot = false) (names : List String) :
    e.declareAll names = e.declares names := by
  induction names generalizing e with
  | nil => rfl
  | cons x xs ih =>
      have hx := declare_of_not_isRoot h x
      have hxs : (e.declare x).scope.isRoot = false := by simpa using h
      calc e.declareAll (x :: xs) = (e.declare x).declareAll xs := by rw [hx]; rfl
        _ = e.declares (x :: xs) := ih hxs

end Env

namespace Lexical

/-- An environment finds the file-level names in `file` and what a description lists, and no
other name. -/
structure Shows (file : List String) (e : Env) (v : Visible) : Prop where
  lookup : ∀ x, e.scope.lookup x = true ↔ x ≠ blank ∧ (x ∈ file ∨ x ∈ v.locals)
  lookupLocal : ∀ x, e.scope.lookupLocal x = true ↔ x ≠ blank ∧ x ∈ v.locals
  above : ∀ x, x ∈ e.above ↔ x ∈ v.above
  isRoot : e.scope.isRoot = v.top

namespace Shows

variable {file : List String} {e : Env} {v : Visible}

/-- At file level all names of the file are in force. -/
theorem ofFile (file above : List String) :
    Shows file ⟨Scope.root.declareAll file, above⟩ ⟨[], above, true⟩ where
  lookup x := by
    rw [Scope.lookup_declareAll]
    simp [Scope.root, Scope.lookup, Scope.frames]
  lookupLocal x := by
    rw [Scope.lookupLocal_of_isRoot (Scope.isRoot_declareAll Scope.root file)]
    simp
  above _ := .rfl
  isRoot := Scope.isRoot_declareAll Scope.root file

theorem push (h : Shows file e v) : Shows file e.push v.inside where
  lookup x := by simpa [Env.push, Visible.inside] using h.lookup x
  lookupLocal x := by simpa [Env.push, Visible.inside] using h.lookupLocal x
  above := h.above
  isRoot := rfl

theorem declare (h : Shows file e v) (x : String) (hx : v.top = true → x ∈ file) :
    Shows file (e.declare x) (v.declare [x]) where
  lookup y := by
    rw [Env.scope_declare, Scope.lookup_declare, h.lookup]
    cases ht : v.top <;> grind [Visible.declare]
  lookupLocal y := by
    rw [Env.scope_declare]
    cases ht : v.top with
    | true =>
        have hr : (e.scope.declare x).isRoot = true := by simp [h.isRoot, ht]
        have hl := h.lookupLocal y
        rw [Scope.lookupLocal_of_isRoot (by rw [h.isRoot, ht])] at hl
        rw [Scope.lookupLocal_of_isRoot hr, hl, Visible.declare, if_pos ht]
    | false =>
        rw [Scope.lookupLocal_declare (by rw [h.isRoot, ht]), h.lookupLocal]
        grind [Visible.declare]
  above y := by
    have ha := h.above y
    cases ht : v.top <;> by_cases hi : x = "init" <;>
      simp_all [Env.declare, Env.reach, Visible.declare, h.isRoot]
    grind
  isRoot := by simp [h.isRoot]

/-- At file level, only names of the file can be declared. -/
theorem declares (h : Shows file e v) (names : List String)
    (hn : v.top = true → ∀ x ∈ names, x ∈ file) :
    Shows file (e.declares names) (v.declare names) := by
  induction names generalizing e v with
  | nil => simpa using h
  | cons x xs ih =>
      have hx : Shows file (e.declare x) (v.declare [x]) :=
        h.declare x fun ht => hn ht x List.mem_cons_self
      have hxs := ih hx fun ht y hy =>
        hn (by simpa using ht) y (List.mem_cons_of_mem x hy)
      rwa [← Visible.declare_append] at hxs

/-- Names of the file are in the outermost scope already. -/
theorem declare_eq_reach (h : Shows file e v) (ht : v.top = true) {x : String} (hx : x ∈ file) :
    e.declare x = e.reach x := by
  have hs : e.scope.declare x = e.scope := by
    apply Scope.declare_eq_self (by rw [h.isRoot, ht])
    by_cases hb : x = blank
    · exact .inl hb
    · exact .inr ((h.lookup x).2 ⟨hb, .inl hx⟩)
  rw [Env.declare, hs]

/-- The environment and the description agree on every identifier. -/
theorem judged_ofRole (h : Shows file e v) (x : String) (role : Role) :
    (Site.ofRole x v role).judged file = some (x, e.resolves x role) := by
  cases role with
  | use =>
      have hu : e.resolves x .use = decide (x ≠ blank ∧ (x ∈ file ∨ x ∈ v.locals)) := by
        rw [Bool.eq_iff_iff, decide_eq_true_iff]
        exact h.lookup x
      rw [hu]
      rfl
  | key =>
      have hk : e.resolves x .key = decide ((x ≠ blank ∧ x ∈ v.locals) ∨ x ∈ v.above) := by
        rw [Bool.eq_iff_iff, decide_eq_true_iff, ← h.lookupLocal x, ← h.above x]
        simp [Env.resolves]
      rw [hk]
      rfl
  | binds | settled b => rfl

end Shows
end Lexical
end GoMetrics
