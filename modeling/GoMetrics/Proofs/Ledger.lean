import Mathlib.Algebra.BigOperators.Group.List.Basic
import Mathlib.Algebra.Ring.Int.Defs
import Mathlib.Algebra.Group.Pi.Basic
import GoMetrics.Metrics.Record

/-!
Totals as they are worked with: several of them at a time, functions added now to one and now to
another, some merged into new ones. Whatever is done, and in whatever order, the whole numbers of
each are those of a single one that starts with all that the others started with and to which every
function is added. The counts of imports come from the starts alone.
-/

namespace GoMetrics

/-! Whole numbers -/

/-- What totals count in whole numbers. -/
inductive Count
  | functions | lines | cyclomatic | maintainability | imports | selfImports
  deriving DecidableEq, Repr

def Totals.counts (t : Totals) : Count → Int
  | .functions => t.functions
  | .lines => t.lines
  | .cyclomatic => t.cyclomatic
  | .maintainability => t.maintainability
  | .imports => t.imports
  | .selfImports => t.selfImports

/-- What a function adds to totals: nothing to the imports, which belong to its package. -/
def Metrics.counts (m : Metrics) : Count → Int
  | .functions => 1
  | .lines => m.lines
  | .cyclomatic => m.cyclomatic
  | .maintainability => m.maintainability
  | .imports | .selfImports => 0

namespace Totals

@[simp] theorem counts_zero : zero.counts = 0 := by
  funext c
  cases c <;> rfl

@[simp] theorem counts_add (t : Totals) (m : Metrics) :
    (t.add m).counts = t.counts + m.counts := by
  funext c
  cases c <;> simp [counts, Metrics.counts, add]

@[simp] theorem counts_merge (t u : Totals) : (t.merge u).counts = t.counts + u.counts := by
  funext c
  cases c <;> rfl

/-- Steps that add to the counts, one after another. -/
theorem counts_foldl {α : Type} {op : Totals → α → Totals} {counted : α → Count → Int}
    (h : ∀ t x, (op t x).counts = t.counts + counted x) (t : Totals) (xs : List α) :
    (xs.foldl op t).counts = t.counts + (xs.map counted).sum := by
  induction xs generalizing t with
  | nil => simp
  | cons x xs ih => rw [List.foldl_cons, ih, h, List.map_cons, List.sum_cons, add_assoc]

theorem counts_mergeAll (ts : List Totals) : (mergeAll ts).counts = (ts.map counts).sum := by
  rw [mergeAll, counts_foldl counts_merge, counts_zero, zero_add]

end Totals

/-! Accounts -/

/-- Totals, together with what went into them. -/
structure Account where
  totals : Totals
  /-- What the totals that went into these started with. -/
  starts : List Totals
  added : List Metrics

namespace Account

def start (t : Totals) : Account :=
  ⟨t, [t], []⟩

def add (a : Account) (m : Metrics) : Account :=
  ⟨a.totals.add m, a.starts, a.added ++ [m]⟩

def merge (a b : Account) : Account :=
  ⟨a.totals.merge b.totals, a.starts ++ b.starts, a.added ++ b.added⟩

def mergeAll (as : List Account) : Account :=
  ⟨.mergeAll (as.map totals), as.flatMap starts, as.flatMap added⟩

/-- The whole numbers are those of the starts and of the functions together. -/
def Balances (a : Account) : Prop :=
  a.totals.counts = (a.starts.map Totals.counts).sum + (a.added.map Metrics.counts).sum

theorem balances_start (t : Totals) : (start t).Balances := by
  simp [Balances, start]

theorem Balances.add {a : Account} (h : a.Balances) (m : Metrics) : (a.add m).Balances := by
  simp only [Balances, Account.add, Totals.counts_add, List.map_append, List.sum_append,
    List.map_singleton, List.sum_singleton, ← add_assoc]
  rw [h]

theorem Balances.merge {a b : Account} (ha : a.Balances) (hb : b.Balances) :
    (a.merge b).Balances := by
  simp only [Balances, Account.merge, Totals.counts_merge, List.map_append, List.sum_append]
  rw [ha, hb, add_add_add_comm]

theorem balances_mergeAll {as : List Account} (h : ∀ a ∈ as, a.Balances) :
    (mergeAll as).Balances := by
  rw [Balances, mergeAll, Totals.counts_mergeAll, List.map_map]
  induction as with
  | nil => simp
  | cons a as ih =>
      simp only [List.map_cons, List.sum_cons, List.flatMap_cons, List.map_append, List.sum_append]
      rw [ih fun b hb => h b (List.mem_cons_of_mem a hb), add_add_add_comm, Function.comp_apply,
        h a List.mem_cons_self]

/-- Whatever was done to get here, one accumulator comes to the same. -/
structure AddsUp (a : Account) : Prop where
  /-- It has to start with the sum of all starts; the functions can be added in any order. -/
  counts : ∀ (t : Totals) (ms : List Metrics), t.counts = (a.starts.map Totals.counts).sum →
    ms.Perm a.added → a.totals.counts = (ms.foldl Totals.add t).counts
  imports : a.totals.imports = (a.starts.map Totals.imports).sum
  selfImports : a.totals.selfImports = (a.starts.map Totals.selfImports).sum

theorem sum_counts {α : Type} (counts : α → Count → Int) (xs : List α) (c : Count) :
    (xs.map counts).sum c = (xs.map fun x => counts x c).sum := by
  induction xs with
  | nil => rfl
  | cons x xs ih =>
      rw [List.map_cons, List.sum_cons, Pi.add_apply, ih, List.map_cons, List.sum_cons]

/-- A count to which no function adds is the sum of the starts. -/
theorem Balances.counts_eq {a : Account} (h : a.Balances) {c : Count}
    (hc : ∀ m : Metrics, m.counts c = 0) :
    a.totals.counts c = (a.starts.map fun t => t.counts c).sum := by
  rw [h, Pi.add_apply, sum_counts, sum_counts]
  simp [hc]

theorem Balances.addsUp {a : Account} (h : a.Balances) : a.AddsUp where
  counts t ms ht hperm := by
    rw [h, Totals.counts_foldl Totals.counts_add, ht, (hperm.map Metrics.counts).sum_eq]
  imports := h.counts_eq (c := .imports) fun _ => rfl
  selfImports := h.counts_eq (c := .selfImports) fun _ => rfl

end Account

/-! Ledgers -/

/-- Accounts by name. -/
abbrev Ledger (κ : Type) := κ → Account

namespace Ledger

variable {κ : Type} [DecidableEq κ]

/-- What is done with totals. A merge makes new ones and puts them under a name. -/
inductive Step (κ : Type)
  | start (name : κ) (t : Totals)
  | add (name : κ) (m : Metrics)
  | merge (name a b : κ)
  | mergeAll (name : κ) (as : List κ)

def Step.target : Step κ → κ
  | .start name _ | .add name _ | .merge name _ _ | .mergeAll name _ => name

/-- Nothing was done yet. -/
def fresh : Ledger κ :=
  fun _ => ⟨.zero, [], []⟩

/-- What a step puts under its name. -/
def result (l : Ledger κ) : Step κ → Account
  | .start _ t => .start t
  | .add name m => (l name).add m
  | .merge _ a b => (l a).merge (l b)
  | .mergeAll _ as => .mergeAll (as.map l)

def step (l : Ledger κ) (st : Step κ) : Ledger κ :=
  Function.update l st.target (l.result st)

def run (l : Ledger κ) (steps : List (Step κ)) : Ledger κ :=
  steps.foldl step l

theorem step_of_ne (l : Ledger κ) {st : Step κ} {name : κ} (h : st.target ≠ name) :
    l.step st name = l name :=
  Function.update_of_ne h.symm _ _

theorem run_of_ne (l : Ledger κ) {steps : List (Step κ)} {name : κ}
    (h : ∀ st ∈ steps, st.target ≠ name) : l.run steps name = l name := by
  induction steps generalizing l with
  | nil => rfl
  | cons st steps ih =>
      rw [run, List.foldl_cons]
      refine (ih (l.step st) fun st' h' => h st' (List.mem_cons_of_mem _ h')).trans ?_
      exact l.step_of_ne (h st List.mem_cons_self)

/-- What a step keeps: every account balances. -/
theorem balances_step {l : Ledger κ} (h : ∀ name, (l name).Balances) (st : Step κ) (name : κ) :
    (l.step st name).Balances := by
  by_cases hname : st.target = name
  · rw [step, hname, Function.update_self]
    cases st with
    | start _ t => exact Account.balances_start t
    | add name m => exact (h name).add m
    | merge _ a b => exact (h a).merge (h b)
    | mergeAll _ as =>
        refine Account.balances_mergeAll fun a ha => ?_
        obtain ⟨name, -, rfl⟩ := List.mem_map.1 ha
        exact h name
  · rw [l.step_of_ne hname]
    exact h name

theorem balances_run {l : Ledger κ} (h : ∀ name, (l name).Balances) (steps : List (Step κ))
    (name : κ) : (l.run steps name).Balances := by
  induction steps generalizing l with
  | nil => exact h name
  | cons st steps ih => exact ih (balances_step h st)

/-- After any steps, totals come to what a single accumulator comes to. Steps that put something
under other names leave them as they are, whatever is read from them, and to merge with totals that
are zero changes no whole number. -/
theorem run_addsUp (steps : List (Step κ)) (name : κ) :
    ((fresh : Ledger κ).run steps name).AddsUp ∧
      (∀ l : Ledger κ, (∀ st ∈ steps, st.target ≠ name) → l.run steps name = l name) ∧
      ∀ t : Totals, (t.merge .zero).counts = t.counts ∧
        (Totals.zero.merge t).counts = t.counts := by
  have hfresh (name : κ) : ((fresh : Ledger κ) name).Balances := by
    simp [fresh, Account.Balances]
  exact ⟨(balances_run hfresh steps name).addsUp, fun l h => l.run_of_ne h, fun t => by simp⟩

/-- A function of some lines, with one decision. -/
def branchOf (lines : Int) : Metrics :=
  ⟨lines, 2, 0, 0, 90, 3, 1⟩

/-- Three functions are divided among two packages, and the packages merged in two ways. -/
def divided : List (Step String) :=
  [.start "a" { imports := 3 }, .start "b" { imports := 4 }, .add "b" (branchOf 5),
    .add "a" (branchOf 7), .add "b" (branchOf 9), .merge "ba" "b" "a", .mergeAll "ab" ["a", "b"]]

example : (fresh.run divided "ba").totals.counts .lines = 21 ∧
    (fresh.run divided "ab").totals.counts .imports = 7 ∧
    (fresh.run divided "b").totals.counts .functions = 2 := by
  decide

end Ledger
end GoMetrics
