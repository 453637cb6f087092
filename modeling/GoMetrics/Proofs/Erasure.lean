import Mathlib.Algebra.BigOperators.Group.List.Basic
import Mathlib.Data.List.Perm.Basic
import GoMetrics.Metrics.Cyclomatic
import GoMetrics.Metrics.Halstead
import GoMetrics.Proofs.SymbolCount

/-!
What the measures of a node owe to the information at its identifiers. Decisions owe nothing to it.
Of the symbols it says only into which of the two tables an identifier goes: the texts that are
counted, and how often, are those of the node alone.
-/

namespace GoMetrics

namespace Node

variable {ι κ : Type}

theorem mapAll_eq_map (f : ι → κ) (ns : List (Node ι)) : mapAll f ns = ns.map (map f) := by
  induction ns with
  | nil => rfl
  | cons n ns ih => rw [mapAll, ih, List.map_cons]

theorem toList_mapOpt (f : ι → κ) (o : Option (Node ι)) :
    (mapOpt f o).toList = o.toList.map (map f) := by
  cases o <;> rfl

theorem getD_mapOptAll (f : ι → κ) (o : Option (List (Node ι))) :
    (mapOptAll f o).getD [] = (o.getD []).map (map f) := by
  cases o with
  | none => rfl
  | some ns => exact mapAll_eq_map f ns

theorem isConstruct_map (f : ι → κ) (n : Node ι) : (n.map f).isConstruct = n.isConstruct := by
  cases n <;> rfl

theorem decides_map (f : ι → κ) (n : Node ι) : (n.map f).decides = n.decides := by
  cases n <;> rfl

theorem portions_map (f : ι → κ) (n : Node ι) :
    (n.map f).portions = n.portions.map (Prod.map id (map f)) := by
  cases n <;>
    simp [map, portions, places, mapAll_eq_map, toList_mapOpt, getD_mapOptAll, Function.comp_def]

theorem places_map (f : ι → κ) (n : Node ι) : (n.map f).places = n.places.map (map f) := by
  rw [← map_snd_portions, ← map_snd_portions, portions_map, List.map_map, List.map_map]
  rfl

theorem children_map (f : ι → κ) (n : Node ι) : (n.map f).children = n.children.map (map f) := by
  rw [children, children, places_map, List.filter_map]
  congr 2
  funext c
  exact isConstruct_map f c

theorem walk_map (f : ι → κ) (n : Node ι) : (n.map f).walk = n.walk.map (map f) := by
  induction n using places_induction with
  | step n ih =>
      rw [walk_eq, walk_eq, children_map, List.flatMap_map, List.map_cons, List.map_flatMap]
      congr 1
      exact List.flatMap_congr fun c hm => ih c (List.mem_of_mem_filter hm)

theorem cyclomatic_map (f : ι → κ) (n : Node ι) : (n.map f).cyclomatic = n.cyclomatic := by
  rw [cyclomatic, cyclomatic, walk_map, List.countP_map]
  congr 2
  funext m
  exact decides_map f m

/-! Nodes that have a rule throughout -/

/-- Constructs all the way down. -/
inductive Clean : Node ι → Prop
  | of {n : Node ι} (construct : n.isConstruct = true) (places : ∀ c ∈ n.places, c.Clean) : n.Clean

/-- Nodes of which each is clean. -/
def AllClean (ns : List (Node ι)) : Prop :=
  ∀ n ∈ ns, n.Clean

theorem clean_of_places {n : Node ι} (construct : n.isConstruct = true)
    (places : AllClean n.places) : n.Clean :=
  .of construct places

@[simp] theorem allClean_nil : AllClean ([] : List (Node ι)) :=
  nofun

@[simp] theorem allClean_cons {n : Node ι} {ns : List (Node ι)} :
    AllClean (n :: ns) ↔ n.Clean ∧ AllClean ns :=
  List.forall_mem_cons

@[simp] theorem allClean_append {ms ns : List (Node ι)} :
    AllClean (ms ++ ns) ↔ AllClean ms ∧ AllClean ns :=
  List.forall_mem_append

theorem allClean_flatten {nss : List (List (Node ι))} (h : ∀ ns ∈ nss, AllClean ns) :
    AllClean nss.flatten := by
  intro n hn
  obtain ⟨ns, hns, hm⟩ := List.mem_flatten.1 hn
  exact h ns hns n hm

@[simp] theorem clean_empty : (empty : Node ι).Clean :=
  .of rfl nofun

@[simp] theorem clean_ident (name : String) (info : ι) : (ident name info).Clean :=
  .of rfl nofun

theorem clean_map {f : ι → κ} {n : Node ι} (h : n.Clean) : (n.map f).Clean := by
  induction h with
  | @of n hc _ ih =>
      refine .of ((isConstruct_map f n).trans hc) ?_
      rw [places_map, List.forall_mem_map]
      exact ih

theorem clean_of_map {f : ι → κ} {n : Node ι} (h : (n.map f).Clean) : n.Clean := by
  induction n using places_induction with
  | step n ih =>
      cases h with
      | of hc hp =>
          rw [places_map, List.forall_mem_map] at hp
          exact .of ((isConstruct_map f n).symm.trans hc) fun c hm => ih c hm (hp c hm)

end Node

/-! Symbols by their text -/

namespace Symbol

/-- What a symbol is counted as, in whichever table. -/
def text? : Symbol → Option String
  | .operator text | .operand text => some text
  | .unruled _ => none

/-- The texts of all symbols that are counted. -/
def texts (ss : List Symbol) : List String :=
  ss.filterMap text?

@[simp] theorem texts_cons (σ : Symbol) (ss : List Symbol) :
    texts (σ :: ss) = σ.text?.toList ++ texts ss := by
  cases h : σ.text? <;> simp [texts, h]

theorem count_texts (tok : String) (ss : List Symbol) :
    (texts ss).count tok = ss.count (.operator tok) + ss.count (.operand tok) := by
  induction ss with
  | nil => rfl
  | cons σ ss ih =>
      rw [texts_cons, List.count_append, ih]
      cases σ <;> simp [text?, List.count_cons] <;> omega

end Symbol

namespace SymbolTables

theorem total_bump (t : Tally) (text : String) : (t.bump text).total = t.total + 1 := by
  induction t with
  | nil => rfl
  | cons entry rest ih =>
      have hc : ∀ entry (rest : Tally), Tally.total (entry :: rest) = entry.2 + rest.total :=
        fun _ _ => rfl
      rw [Tally.bump]
      split
      · simp only [hc]
        omega
      · rw [hc, ih, hc]
        omega

theorem total_foldl_add (ss : List Symbol) (t : SymbolTables) :
    (ss.foldl add t).operators.total + (ss.foldl add t).operands.total =
      t.operators.total + t.operands.total + (Symbol.texts ss).length := by
  induction ss generalizing t with
  | nil => simp [Symbol.texts]
  | cons σ ss ih =>
      rw [List.foldl_cons, ih, Symbol.texts_cons, List.length_append]
      cases σ with
      | operator text | operand text =>
          simp only [add, total_bump, Symbol.text?, Option.toList_some, List.length_singleton]
          omega
      | unruled c =>
          simp only [add, Symbol.text?, Option.toList_none, List.length_nil, Nat.zero_add]

/-- The length of a program is the number of its symbols, whatever tables they are in. -/
theorem length_ofTables (ss : List Symbol) :
    (Halstead.ofTables (.ofSymbols ss)).length = (Symbol.texts ss).length := by
  have h := total_foldl_add ss empty
  simpa [Halstead.length, Halstead.ofTables, ofSymbols, empty, Tally.total] using h

end SymbolTables

namespace Node

/-- The one rule that looks at an identifier's information chooses a table by it. -/
theorem texts_ownSymbols_map (f : Bool → Bool) (n : Node Bool) :
    Symbol.texts (n.map f).ownSymbols = Symbol.texts n.ownSymbols := by
  cases n with
  | ident name resolved =>
      cases h : f resolved <;> cases resolved <;>
        simp [map, ownSymbols, Symbol.text?, h]
  | ifStmt _ _ _ o | caseClause o | commClause o | range _ _ o | funcDecl _ _ _ _ _ _ _ o =>
      cases o <;> rfl
  | _ => rfl

theorem count_texts_symbols (tok : String) (n : Node Bool) (h : n.isConstruct = true) :
    (Symbol.texts n.symbols).count tok = (Symbol.texts n.ownSymbols).count tok +
      (n.portions.map fun p => p.1 * (Symbol.texts p.2.symbols).count tok).sum := by
  simp only [Symbol.count_texts, count_symbols _ n h, Nat.mul_add, List.sum_map_add]
  omega

theorem perm_texts_map (f : Bool → Bool) (n : Node Bool) :
    (Symbol.texts (n.map f).symbols).Perm (Symbol.texts n.symbols) := by
  rw [List.perm_iff_count]
  intro tok
  induction n using places_induction with
  | step n ih =>
      have hm := isConstruct_map f n
      cases hc : n.isConstruct with
      | false =>
          simp only [Symbol.count_texts, count_symbols_of_not_construct, hc, hm, ne_eq,
            reduceCtorEq, not_false_eq_true, implies_true]
      | true =>
          rw [count_texts_symbols tok n hc, count_texts_symbols tok _ (hm.trans hc), portions_map,
            texts_ownSymbols_map, List.map_map]
          congr 2
          refine List.map_congr_left fun p hp => ?_
          exact congrArg (p.1 * ·) (ih p.2 (mem_places_of_mem_portions hp))

theorem count_unruled_ownSymbols (n : Node Bool) (what : String) :
    n.ownSymbols.count (.unruled what) = 0 := by
  cases n <;> simp [ownSymbols, Symbol.pair, Symbol.token] <;> grind

theorem not_unruled {n : Node Bool} (h : n.Clean) (c : String) :
    n.symbols.count (.unruled c) = 0 := by
  induction h with
  | @of n hc hp ih =>
      rw [count_symbols _ n hc, count_unruled_ownSymbols, Nat.zero_add,
        List.sum_eq_zero_iff_forall_eq_nat, List.forall_mem_map]
      intro p hm
      rw [ih p.2 (mem_places_of_mem_portions hm), Nat.mul_zero]

theorem classify_of_clean {n : Node Bool} (h : n.Clean) :
    n.classify = .ok (.ofSymbols n.symbols) := by
  have hn : firstUnruled? n.symbols = none := by
    rw [firstUnruled?, List.findSome?_eq_none_iff]
    intro σ hσ
    cases σ with
    | unruled c => exact absurd hσ (List.count_eq_zero.1 (not_unruled h c))
    | operator | operand => rfl
  rw [classify, hn]

end Node
end GoMetrics
