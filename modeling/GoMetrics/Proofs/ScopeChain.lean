import Mathlib.Data.List.Forall2
import Mathlib.Data.List.Induction
import Mathlib.Logic.Function.Iterate
import GoMetrics.Scope

/-!
Chains of scopes over whole runs. A scope is known by the step that opened it, so that two scopes
with the same names are told apart. After any run a name is found exactly if it was declared while
one of the scopes that are now on the chain was the current one. What lies between opening a scope
and closing it again leaves no trace.
-/

namespace GoMetrics.Scope

/-! Runs -/

/-- What can be done with the current scope. -/
inductive Step
  | push
  | pop
  | declare (name : String)
  | declareAll (names : List String)
  deriving DecidableEq, Repr

/-- The names that a step declares. -/
def Step.names : Step → List String
  | .declare name => [name]
  | .declareAll names => names
  | _ => []

def step (s : Scope) : Step → Scope
  | .push => s.push
  | .pop => s.pop
  | .declare name => s.declare name
  | .declareAll names => s.declareAll names

def run (s : Scope) (steps : List Step) : Scope :=
  steps.foldl step s

@[simp] theorem run_concat (s : Scope) (steps : List Step) (st : Step) :
    s.run (steps ++ [st]) = (s.run steps).step st := by
  rw [run, List.foldl_concat, run]

/-! The scopes on the chain -/

/-- The chain after a step. The outermost scope stays. -/
def enter (chain : List Nat) (fresh : Nat) : Step → List Nat
  | .push => fresh :: chain
  | .pop => if 1 < chain.length then chain.tail else chain
  | _ => chain

/-- The scopes on the chain after some steps, the innermost first. The root is 0, and the scope that
a step opens has the number of that step. -/
def chain (steps : List Step) : List Nat :=
  (steps.zipIdx 1).foldl (fun chain st => enter chain st.2 st.1) [0]

@[simp] theorem chain_concat (steps : List Step) (st : Step) :
    chain (steps ++ [st]) = enter (chain steps) (1 + steps.length) st := by
  rw [chain, List.zipIdx_append, List.foldl_append, ← chain]
  rfl

theorem le_length_of_mem_chain {steps : List Step} {id : Nat} (h : id ∈ chain steps) :
    id ≤ steps.length := by
  induction steps using List.reverseRecOn with
  | nil => simpa [chain] using h
  | append_singleton steps st ih =>
      rw [chain_concat] at h
      rw [List.length_append, List.length_singleton]
      cases st with
      | push =>
          obtain rfl | h := List.mem_cons.1 h
          · omega
          · exact Nat.le_succ_of_le (ih h)
      | pop =>
          rw [enter] at h
          split at h
          · exact Nat.le_succ_of_le (ih (List.mem_of_mem_tail h))
          · exact Nat.le_succ_of_le (ih h)
      | declare _ | declareAll _ => exact Nat.le_succ_of_le (ih h)

/-- An inner scope was opened after the scopes around it. -/
theorem pairwise_chain (steps : List Step) : (chain steps).Pairwise (· > ·) := by
  induction steps using List.reverseRecOn with
  | nil => simp [chain]
  | append_singleton steps st ih =>
      rw [chain_concat]
      cases st with
      | push =>
          refine List.pairwise_cons.2 ⟨fun id h => ?_, ih⟩
          have := le_length_of_mem_chain h
          omega
      | pop =>
          rw [enter]
          split
          · exact ih.sublist (List.tail_sublist _)
          · exact ih
      | declare _ | declareAll _ => exact ih

/-- A name was declared while a scope was the current one. -/
def DeclaredIn (steps : List Step) (id : Nat) (name : String) : Prop :=
  ∃ earlier st later, steps = earlier ++ st :: later ∧ name ∈ st.names ∧
    (chain earlier).head? = some id

theorem declaredIn_concat {steps : List Step} {st : Step} {id : Nat} {name : String} :
    DeclaredIn (steps ++ [st]) id name ↔
      DeclaredIn steps id name ∨ name ∈ st.names ∧ (chain steps).head? = some id := by
  constructor
  · rintro ⟨earlier, st', later, heq, hname, hid⟩
    rcases List.eq_nil_or_concat' later with rfl | ⟨later, last, rfl⟩
    · obtain ⟨rfl, rfl⟩ := List.append_singleton_inj.1 heq
      exact .inr ⟨hname, hid⟩
    · rw [← List.cons_append, ← List.append_assoc] at heq
      obtain ⟨rfl, rfl⟩ := List.append_singleton_inj.1 heq
      exact .inl ⟨earlier, st', later, rfl, hname, hid⟩
  · rintro (⟨earlier, st', later, rfl, hname, hid⟩ | ⟨hname, hid⟩)
    · exact ⟨earlier, st', later ++ [st], by simp, hname, hid⟩
    · exact ⟨steps, st, [], rfl, hname, hid⟩

theorem DeclaredIn.le_length {steps : List Step} {id : Nat} {name : String}
    (h : DeclaredIn steps id name) : id ≤ steps.length := by
  obtain ⟨earlier, st, later, rfl, -, hid⟩ := h
  have := le_length_of_mem_chain (List.mem_of_head? hid)
  rw [List.length_append]
  omega

/-! What the scopes hold -/

theorem outer_declareAll (s : Scope) (names : List String) :
    (s.declareAll names).outer = s.outer := by
  induction names generalizing s with
  | nil => rfl
  | cons x names ih =>
      rw [declareAll, List.foldl_cons]
      refine (ih (s.declare x)).trans ?_
      unfold declare
      split <;> rfl

theorem frames_declareAll (s : Scope) (names : List String) :
    (s.declareAll names).frames = (s.declareAll names).inner :: s.outer := by
  rw [frames, outer_declareAll]

theorem mem_inner_declareAll {s : Scope} {names : List String} {y : String} :
    y ∈ (s.declareAll names).inner ↔ y ∈ s.inner ∨ y ≠ blank ∧ y ∈ names := by
  induction names generalizing s with
  | nil => simp [declareAll]
  | cons x names ih =>
      rw [declareAll, List.foldl_cons]
      refine (ih (s := s.declare x)).trans ?_
      unfold declare
      split
      · grind
      · rw [List.mem_insert_iff]
        grind

/-- The names of a scope are those that were declared while it was the current one. -/
def Holds (steps : List Step) (names : List String) (id : Nat) : Prop :=
  ∀ name, name ∈ names ↔ name ≠ blank ∧ DeclaredIn steps id name

/-- Scopes in which a step declares nothing keep what they hold. -/
theorem holds_concat {steps : List Step} {st : Step} {frames : List (List String)}
    {ids : List Nat} (h : List.Forall₂ (Holds steps) frames ids)
    (hst : ∀ id ∈ ids, ∀ name ∈ st.names, (chain steps).head? ≠ some id) :
    List.Forall₂ (Holds (steps ++ [st])) frames ids := by
  induction h with
  | nil => exact .nil
  | @cons names id frames ids hid _ ih =>
      refine .cons (fun name => ?_) (ih fun id' h => hst id' (List.mem_cons_of_mem _ h))
      have := hst id List.mem_cons_self name
      rw [hid name, declaredIn_concat]
      tauto

theorem holds_declareAll {s : Scope} {steps : List Step} {st : Step}
    (h : List.Forall₂ (Holds steps) s.frames (chain steps)) :
    List.Forall₂ (Holds (steps ++ [st])) (s.declareAll st.names).frames (chain steps) := by
  have hpair := pairwise_chain steps
  obtain ⟨id, ids, hid, hids, hchain⟩ := List.forall₂_cons_left_iff.1 h
  rw [hchain] at hpair ⊢
  rw [frames_declareAll]
  refine .cons (fun name => ?_) (holds_concat hids fun id' hmem _ _ => ?_)
  · rw [mem_inner_declareAll, hid name, declaredIn_concat, hchain, List.head?_cons]
    tauto
  · have := (List.pairwise_cons.1 hpair).1 id' hmem
    rw [hchain, List.head?_cons, ne_eq, Option.some.injEq]
    omega

theorem frames_pop (s : Scope) :
    s.pop.frames = if 1 < s.frames.length then s.frames.tail else s.frames := by
  obtain ⟨inner, outer⟩ := s
  cases outer <;> rfl

/-- What a step keeps: each scope on the chain holds what was declared in it. -/
theorem holds_step {s : Scope} {steps : List Step} (st : Step)
    (h : List.Forall₂ (Holds steps) s.frames (chain steps)) :
    List.Forall₂ (Holds (steps ++ [st])) (s.step st).frames (chain (steps ++ [st])) := by
  rw [chain_concat]
  cases st with
  | push =>
      refine .cons (fun name => ?_) (holds_concat h nofun)
      refine iff_of_false List.not_mem_nil fun ⟨_, hname⟩ => ?_
      obtain hname | ⟨hname, -⟩ := declaredIn_concat.1 hname
      · have := hname.le_length
        omega
      · exact List.not_mem_nil hname
  | pop =>
      have h' : List.Forall₂ (Holds (steps ++ [.pop])) s.frames (chain steps) :=
        holds_concat h nofun
      rw [step, frames_pop, enter, h.length_eq]
      split
      · simpa only [List.drop_one] using List.forall₂_drop 1 h'
      · exact h'
  | declare _ | declareAll _ => exact holds_declareAll h

theorem holds_run (steps : List Step) :
    List.Forall₂ (Holds steps) (root.run steps).frames (chain steps) := by
  induction steps using List.reverseRecOn with
  | nil =>
      refine .cons (fun name => iff_of_false List.not_mem_nil ?_) .nil
      rintro ⟨-, earlier, st, later, heq, -⟩
      simp at heq
  | append_singleton steps st ih =>
      rw [run_concat]
      exact holds_step st ih

/-! Looking up -/

theorem exists_mem_iff {steps : List Step} {frames : List (List String)} {ids : List Nat}
    (h : List.Forall₂ (Holds steps) frames ids) (name : String) :
    frames.any (·.contains name) = true ↔
      name ≠ blank ∧ ∃ id ∈ ids, DeclaredIn steps id name := by
  induction h with
  | nil => simp
  | @cons names id frames ids hid _ ih =>
      rw [List.any_cons, Bool.or_eq_true, List.contains_iff_mem, hid name, ih]
      simp only [List.mem_cons, exists_eq_or_imp]
      tauto

theorem lookupWithin_run (steps : List Step) (k : Nat) (name : String) :
    (root.run steps).lookupWithin k name = true ↔
      name ≠ blank ∧ ∃ id ∈ (chain steps).take k, DeclaredIn steps id name :=
  exists_mem_iff (List.forall₂_take k (holds_run steps)) name

theorem lookup_run (steps : List Step) (name : String) :
    (root.run steps).lookup name = true ↔
      name ≠ blank ∧ ∃ id ∈ chain steps, DeclaredIn steps id name :=
  exists_mem_iff (holds_run steps) name

/-- No two scopes on the chain are the same, so the scopes inside one of them are those that come
before it is met. -/
theorem take_chain {steps : List Step} {k id : Nat} (h : (chain steps)[k]? = some id) :
    (chain steps).take k = (chain steps).takeWhile (· ≠ id) := by
  have hpair := pairwise_chain steps
  generalize chain steps = ids at h hpair
  induction ids generalizing k with
  | nil => simp at h
  | cons id' ids ih =>
      obtain ⟨hlt, hpair⟩ := List.pairwise_cons.1 hpair
      cases k with
      | zero =>
          obtain rfl : id' = id := Option.some.inj h
          simp
      | succ k =>
          have hne : id' ≠ id := Nat.ne_of_gt (hlt id (List.mem_of_getElem? h))
          rw [List.take_succ_cons, List.takeWhile_cons_of_pos (by simpa using hne), ih h hpair]

/-- The scope some levels up. -/
def up (s : Scope) (k : Nat) : Scope :=
  pop^[k] s

theorem frames_up (s : Scope) {k : Nat} (h : k < s.frames.length) :
    (s.up k).frames = s.frames.drop k := by
  induction k generalizing s with
  | zero => rfl
  | succ k ih =>
      have hpop : s.pop.frames = s.frames.tail := by rw [frames_pop, if_pos (by omega)]
      rw [up, Function.iterate_succ_apply]
      refine (ih s.pop ?_).trans ?_
      · rw [hpop, List.length_tail]
        omega
      · rw [hpop, List.drop_tail]

theorem lookup_eq_or (s : Scope) {k : Nat} (h : k < s.frames.length) (name : String) :
    s.lookup name = (s.lookupWithin k name || (s.up k).lookup name) := by
  rw [lookup, lookupWithin, lookup, frames_up s h, ← List.any_append, List.take_append_drop]

/-! What lies between opening a scope and closing it -/

/-- How many scopes are open beyond the current one, if a step does not close that one. -/
def depthAfter (d : Nat) : Step → Option Nat
  | .push => some (d + 1)
  | .pop =>
    match d with
    | 0 => none
    | d + 1 => some d
  | .declare _ | .declareAll _ => some d

/-- Steps that close every scope they open, and no other. -/
def Matched (steps : List Step) : Prop :=
  steps.foldlM depthAfter 0 = some 0

instance : DecidablePred Matched := fun _ =>
  inferInstanceAs (Decidable (_ = _))

/-- What a step does to a chain, whatever is known of the scopes on it. -/
inductive Moves {α : Type} : Step → List α → List α → Prop
  | push (x : α) (l : List α) : Moves .push l (x :: l)
  | pop (x y : α) (l : List α) : Moves .pop (x :: y :: l) (y :: l)
  | stay (x : α) : Moves .pop [x] [x]
  | declare (name : String) (x x' : α) (l : List α) : Moves (.declare name) (x :: l) (x' :: l)
  | declareAll (names : List String) (x x' : α) (l : List α) :
      Moves (.declareAll names) (x :: l) (x' :: l)

theorem moves_frames (s : Scope) (st : Step) : Moves st s.frames (s.step st).frames := by
  obtain ⟨inner, outer⟩ := s
  cases st with
  | push => exact .push [] _
  | pop =>
      cases outer with
      | nil => exact .stay inner
      | cons names outer => exact .pop inner names outer
  | declare name =>
      have h := frames_declareAll ⟨inner, outer⟩ [name]
      exact h ▸ .declare name inner _ outer
  | declareAll names =>
      have h := frames_declareAll ⟨inner, outer⟩ names
      exact h ▸ .declareAll names inner _ outer

theorem moves_chain (steps : List Step) (st : Step) :
    Moves st (chain steps) (chain (steps ++ [st])) := by
  obtain ⟨id, ids, -, -, hchain⟩ := List.forall₂_cons_left_iff.1 (holds_run steps)
  rw [chain_concat, hchain]
  cases st with
  | push => exact .push _ _
  | pop =>
      cases ids with
      | nil => exact .stay id
      | cons id' ids => exact .pop id id' ids
  | declare name => exact .declare name id id ids
  | declareAll names => exact .declareAll names id id ids

/-- A chain with `d + 1` scopes inside `base`. -/
def Above {α : Type} (base : List α) (d : Nat) (l : List α) : Prop :=
  d < l.length ∧ l.drop (d + 1) = base

/-- A step that closes no scope of `base` leaves `base` alone. -/
theorem above_of_moves {α : Type} {base l l' : List α} {d e : Nat} {st : Step}
    (hm : Moves st l l') (h : depthAfter d st = some e) (hl : Above base d l) :
    Above base e l' := by
  obtain ⟨hlt, hdrop⟩ := hl
  cases hm with
  | push x l =>
      obtain rfl := Option.some.inj h
      exact ⟨Nat.succ_lt_succ hlt, hdrop⟩
  | pop x y l =>
      cases d with
      | zero => cases h
      | succ d =>
          obtain rfl := Option.some.inj h
          exact ⟨Nat.lt_of_succ_lt_succ hlt, hdrop⟩
  | stay x =>
      cases d with
      | zero => cases h
      | succ d => exact absurd (Nat.lt_of_succ_lt_succ hlt) (Nat.not_lt_zero d)
  | declare _ x x' l | declareAll _ x x' l =>
      obtain rfl := Option.some.inj h
      exact ⟨hlt, hdrop⟩

/-- So does a run of such steps: the scopes of `base` stay on the chain, with what they hold. -/
theorem above_run {before steps : List Step} {d e : Nat} {base : List (List String)}
    {ids : List Nat} (h : steps.foldlM depthAfter d = some e)
    (hframes : Above base d (root.run before).frames) (hchain : Above ids d (chain before)) :
    Above base e (root.run (before ++ steps)).frames ∧ Above ids e (chain (before ++ steps)) := by
  induction steps generalizing before d with
  | nil =>
      obtain rfl : d = e := Option.some.inj h
      rw [List.append_nil]
      exact ⟨hframes, hchain⟩
  | cons st steps ih =>
      rw [List.foldlM_cons] at h
      obtain ⟨d', hst, hrest⟩ := Option.bind_eq_some_iff.1 h
      have hmoves := moves_frames (root.run before) st
      rw [← run_concat] at hmoves
      rw [List.append_cons]
      exact ih hrest (above_of_moves hmoves hst hframes)
        (above_of_moves (moves_chain before st) hst hchain)

theorem eq_of_frames_eq {s s' : Scope} (h : s.frames = s'.frames) : s = s' := by
  obtain ⟨inner, outer⟩ := s
  obtain ⟨inner', outer'⟩ := s'
  obtain ⟨rfl, rfl⟩ := List.cons.inj h
  rfl

/-- To close the only scope beyond `base` gives back `base`. -/
theorem eq_of_moves_pop {α : Type} {base l l' : List α} (hm : Moves .pop l l')
    (hl : Above base 0 l) (hbase : base ≠ []) : l' = base := by
  obtain ⟨-, rfl⟩ := hl
  cases hm with
  | pop x y l => rfl
  | stay x => exact absurd rfl hbase

/-- What opens a scope and ends with closing it leaves no trace. -/
theorem run_matched (before : List Step) {inside : List Step} (h : Matched inside) :
    root.run (before ++ .push :: inside ++ [.pop]) = root.run before ∧
      chain (before ++ .push :: inside ++ [.pop]) = chain before := by
  rw [List.append_cons before .push inside]
  have hframes : Above (root.run before).frames 0 (root.run (before ++ [.push])).frames := by
    rw [run_concat]
    exact ⟨Nat.succ_pos _, rfl⟩
  have hchain : Above (chain before) 0 (chain (before ++ [.push])) := by
    rw [chain_concat]
    exact ⟨Nat.succ_pos _, rfl⟩
  obtain ⟨hframes, hchain⟩ := above_run h hframes hchain
  have hne : chain before ≠ [] := by
    obtain ⟨id, ids, -, -, heq⟩ := List.forall₂_cons_left_iff.1 (holds_run before)
    exact heq ▸ List.cons_ne_nil id ids
  constructor
  · have hmoves := moves_frames (root.run (before ++ [.push] ++ inside)) .pop
    rw [← run_concat] at hmoves
    exact eq_of_frames_eq (eq_of_moves_pop hmoves hframes (List.cons_ne_nil _ _))
  · exact eq_of_moves_pop (moves_chain _ _) hchain hne

/-! All of it -/

/-- What the chain of scopes finds after some steps. -/
structure Finds (steps : List Step) : Prop where
  lookup : ∀ name, (root.run steps).lookup name = true ↔
    name ≠ blank ∧ ∃ id ∈ chain steps, DeclaredIn steps id name
  within : ∀ k name, (root.run steps).lookupWithin k name = true ↔
    name ≠ blank ∧ ∃ id ∈ (chain steps).take k, DeclaredIn steps id name
  /-- To stop after as many scopes as lie inside one of them is to stop at that one. -/
  stop : ∀ k id, (chain steps)[k]? = some id →
    (chain steps).take k = (chain steps).takeWhile (· ≠ id)
  outward : ∀ k < (chain steps).length, ∀ name, ((root.run steps).up k).lookup name = true ↔
    name ≠ blank ∧ ∃ id ∈ (chain steps).drop k, DeclaredIn steps id name
  split : ∀ k < (chain steps).length, ∀ name, (root.run steps).lookup name =
    ((root.run steps).lookupWithin k name || ((root.run steps).up k).lookup name)
  /-- From opening a scope to closing it again, nothing changes. -/
  traceless : ∀ inside, Matched inside →
    root.run (steps ++ .push :: inside ++ [.pop]) = root.run steps ∧
      chain (steps ++ .push :: inside ++ [.pop]) = chain steps

theorem run_finds (steps : List Step) : Finds steps := by
  have hlength := (holds_run steps).length_eq
  refine ⟨lookup_run steps, lookupWithin_run steps, fun _ _ => take_chain, fun k hk name => ?_,
    fun k hk => lookup_eq_or _ (hlength ▸ hk), fun _ => run_matched steps⟩
  rw [Scope.lookup, frames_up _ (hlength ▸ hk)]
  exact exists_mem_iff (List.forall₂_drop k (holds_run steps)) name

/-- Two scopes are opened one after the other, and the name of the first is gone with it. -/
def reopened : List Step :=
  [.declare "x", .push, .declare "y", .pop, .push, .declareAll ["z", "_"]]

example : chain reopened = [5, 0] ∧ (root.run reopened).lookup "x" = true ∧
    (root.run reopened).lookupWithin 1 "x" = false ∧ (root.run reopened).lookup "y" = false := by
  decide

end GoMetrics.Scope
