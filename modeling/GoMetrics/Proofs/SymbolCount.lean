import Mathlib.Algebra.BigOperators.Ring.List
import Mathlib.Algebra.Ring.Nat
import Mathlib.Data.List.Basic
import GoMetrics.Metrics.Symbol
import GoMetrics.Proofs.Walk

/-!
How often a symbol is counted, in closed form. Every node has symbols of its own, and what stands
in its places is counted a fixed number of times: once as a rule, not at all in a signature, among
the names of a field and in the name of an import, and once for each declared name in the type and
the values of a declaration. `weigh` walks a node with the products of these numbers, and the tables
of a node are sums over this walk.
-/

namespace GoMetrics

namespace Node

variable {ι : Type}

/-- The symbols that a node adds to those of its places. -/
def ownSymbols : Node Bool → List Symbol
  | .ident name resolved => [if resolved then .operand name else .operator name]
  | .basicLit _ value => [.operand value]
  | .paren _ l r | .typeAssert _ _ l r => Symbol.pair l r "()"
  | .index _ _ l r | .slice _ _ _ _ l r | .arrayType _ _ l r => Symbol.pair l r "[]"
  | .compositeLit _ _ l r | .block _ l r => Symbol.pair l r "\x7b\x7d"
  | .call _ _ spread l r => Symbol.pair l r "()" ++ (if spread then [.operator "..."] else [])
  | .star _ => [.operator "*"]
  | .unary op _ => [.token op]
  | .binary _ op _ => [.operator op]
  | .keyValue _ _ colon => if colon then [.operator ":"] else []
  | .funcType _ _ keyword => (if keyword then [.operator "func"] else []) ++ [.operator "()"]
  | .ellipsis _ => [.operator "..."]
  | .chanType _ dir => .operator "chan" :: (if dir.arrow then [.operator "<-"] else [])
  | .mapType .. => [.operator "map", .operator "[]"]
  | .structType _ l r => .operator "struct" :: Symbol.pair l r "\x7b\x7d"
  | .interfaceType _ l r => .operator "interface" :: Symbol.pair l r "\x7b\x7d"
  | .labeled .. => [.operator ":"]
  | .send .. => [.operator "<-"]
  | .incDec _ tok | .assign _ tok _ | .branch tok _ => [.token tok]
  | .go _ => [.operator "go"]
  | .defer _ => [.operator "defer"]
  | .ret _ => [.operator "return"]
  | .ifStmt _ _ _ orElse =>
      .operator "if" :: (if orElse.isSome then [.operator "else"] else [])
  | .caseClause exprs _ colon =>
      (if exprs.isNone then [.operator "default"] else []) ++
        (if colon then [.operator ":"] else [])
  | .commClause comm _ colon =>
      (if comm.isNone then [.operator "default"] else []) ++
        (if colon then [.operator ":"] else [])
  | .switch .. | .typeSwitch .. => [.operator "switch"]
  | .select _ => [.operator "select"]
  | .forStmt .. => [.operator "for"]
  | .range _ _ key _ tok _ =>
      .operator "for" :: .operator "range" :: (if key.isSome then [.token tok] else [])
  | .genDecl tok _ l r => .token tok :: Symbol.pair l r "()"
  | .funcDecl name _ _ _ _ _ _ recv =>
      .operator "func" :: .operator name :: .operator "()" ::
        (if recv.isSome then [.operator "()"] else [])
  | .selector .. | .funcLit .. | .field .. | .declStmt _ | .empty | .exprStmt _ | .valueSpec ..
  | .typeSpec .. | .importSpec .. | .position _ | .file .. | .package .. => []

/-- What stands in the places of a node, each with the number of times it is counted. -/
def portions : Node ι → List (Nat × Node ι)
  | .field names type => names.map (0, ·) ++ type.toList.map (1, ·)
  | .valueSpec names type values =>
      names.map (1, ·) ++ (type.toList ++ values).map (names.length, ·)
  | .importSpec _ name => name.toList.map (0, ·)
  | .funcDecl name info _ type _ _ body recv =>
      (0, .ident name info) :: (0, type) ::
        (body.toList.map (1, ·) ++ (recv.getD []).map (0, ·))
  | n => n.places.map (1, ·)

theorem map_snd_portions (n : Node ι) : n.portions.map Prod.snd = n.places := by
  cases n <;> simp [portions, places, Function.comp_def]

theorem mem_places_of_mem_portions {n : Node ι} {p : Nat × Node ι} (h : p ∈ n.portions) :
    p.2 ∈ n.places := by
  rw [← map_snd_portions]
  exact List.mem_map_of_mem h

/-- The walk of a node that is counted `k` times, each visited node with how often it is counted. -/
def weigh (k : Nat) (n : Node ι) : List (Nat × Node ι) :=
  (k, n) :: n.portions.attach.flatMap fun p =>
    if p.1.2.isConstruct then weigh (k * p.1.1) p.1.2 else []
termination_by n.bulk
decreasing_by exact bulk_lt_of_mem_places (mem_places_of_mem_portions p.2)

theorem weigh_eq (k : Nat) (n : Node ι) :
    n.weigh k = (k, n) :: n.portions.flatMap fun p =>
      if p.2.isConstruct then p.2.weigh (k * p.1) else [] := by
  rw [weigh,
    List.flatMap_subtype (g := fun p => if p.2.isConstruct then p.2.weigh (k * p.1) else [])
    (fun _ _ => rfl), List.unattach_attach]

/-- The weighted walk visits what the walk visits, in the same order. -/
theorem map_snd_weigh (n : Node ι) (k : Nat) : (n.weigh k).map Prod.snd = n.walk := by
  induction n using places_induction generalizing k with
  | step n ih =>
      have same : ∀ p ∈ n.portions,
          (if p.2.isConstruct then p.2.weigh (k * p.1) else []).map Prod.snd =
            p.2.gather ([·]) := by
        intro p hp
        rw [apply_ite (List.map Prod.snd), ih p.2 (mem_places_of_mem_portions hp), gather]
        simp
      calc (n.weigh k).map Prod.snd
          = n :: n.portions.flatMap fun p => p.2.gather ([·]) := by
            rw [weigh_eq, List.map_cons, List.map_flatMap, List.flatMap_congr same]
        _ = n :: n.places.flatMap (gather ([·])) := by
            rw [← map_snd_portions n, List.flatMap_map]
        _ = n.walk := by
            exact (flatMap_walk ([·]) n).symm.trans (List.flatMap_singleton' n.walk)

/-! Counting symbols -/

theorem count_symbolsAll (σ : Symbol) (ns : List (Node Bool)) :
    (symbolsAll ns).count σ = (ns.map fun n => n.symbols.count σ).sum := by
  induction ns with
  | nil => rfl
  | cons n ns ih => rw [symbolsAll, List.count_append, ih, List.map_cons, List.sum_cons]

theorem count_symbolsOpt (σ : Symbol) (o : Option (Node Bool)) :
    (symbolsOpt o).count σ = (o.toList.map fun n => n.symbols.count σ).sum := by
  cases o <;> simp [symbolsOpt]

theorem count_symbolsOptAll (σ : Symbol) (o : Option (List (Node Bool))) :
    (symbolsOptAll o).count σ = ((o.getD []).map fun n => n.symbols.count σ).sum := by
  cases o <;> simp [symbolsOptAll, count_symbolsAll]

theorem count_symbolsEach (σ : Symbol) (names : List (Node Bool)) (shared : List Symbol) :
    (symbolsEach names shared).count σ =
      (names.map fun n => n.symbols.count σ).sum + names.length * shared.count σ := by
  induction names with
  | nil => simp [symbolsEach]
  | cons n ns ih =>
      simp only [symbolsEach, List.count_append, ih, List.map_cons, List.sum_cons,
        List.length_cons, Nat.add_mul, Nat.one_mul]
      omega

/-- The symbols of a construct are its own and, as often as each place is counted, those of what
stands there. -/
theorem count_symbols (σ : Symbol) (n : Node Bool) (h : n.isConstruct = true) :
    n.symbols.count σ =
      n.ownSymbols.count σ + (n.portions.map fun p => p.1 * p.2.symbols.count σ).sum := by
  cases n with
  | position | file | package => cases h
  | field | importSpec => simp [symbols, ownSymbols, portions, count_symbolsOpt, Function.comp_def]
  | valueSpec names type values =>
      simp [symbols, ownSymbols, portions, count_symbolsOpt, count_symbolsAll, count_symbolsEach,
        List.sum_map_mul_left, Function.comp_def, Nat.mul_add]
  | funcDecl =>
      simp [symbols, ownSymbols, portions, count_symbolsOpt, List.count_cons, Function.comp_def]
      omega
  | ident | basicLit | empty => simp [symbols, ownSymbols, portions, places]
  | block | structType | interfaceType =>
      simp only [symbols, ownSymbols, portions, places, List.count_append, count_symbolsAll,
        List.map_map, Function.comp_def, Nat.one_mul]
  | _ =>
      simp only [symbols, ownSymbols, portions, places, List.count_nil, List.count_append,
        List.count_cons, count_symbolsAll, count_symbolsOpt, count_symbolsOptAll, List.map_append,
        List.map_nil, List.map_cons, List.map_map, List.sum_append, List.sum_nil, List.sum_cons,
        Function.comp_def, Nat.one_mul]
      omega

/-- What is no construct has no symbol that a table counts. -/
theorem count_symbols_of_not_construct {σ : Symbol} (hσ : ∀ c, σ ≠ .unruled c) {n : Node Bool}
    (h : n.isConstruct = false) : n.symbols.count σ = 0 := by
  cases n with
  | position | file | package => simp [symbols, (hσ _).symm]
  | _ => cases h

/-- Summed over its weighted walk, the own symbols of the nodes are the symbols of a construct. -/
theorem sum_weigh {σ : Symbol} (hσ : ∀ c, σ ≠ .unruled c) (n : Node Bool) (h : n.isConstruct = true)
    (k : Nat) :
    ((n.weigh k).map fun p => p.1 * p.2.ownSymbols.count σ).sum = k * n.symbols.count σ := by
  induction n using places_induction generalizing k with
  | step n ih =>
      have same : ∀ p ∈ n.portions,
          (((if p.2.isConstruct then p.2.weigh (k * p.1) else []).map
            fun q => q.1 * q.2.ownSymbols.count σ).sum) = k * (p.1 * p.2.symbols.count σ) := by
        intro p hp
        cases hc : p.2.isConstruct with
        | true => rw [if_pos rfl, ih p.2 (mem_places_of_mem_portions hp) hc, Nat.mul_assoc]
        | false => simp [count_symbols_of_not_construct hσ hc]
      rw [weigh_eq, List.map_cons, List.sum_cons, List.map_flatMap, List.flatMap, List.sum_flatten,
        List.map_map, Function.comp_def, List.map_congr_left same, List.sum_map_mul_left,
        ← Nat.mul_add, ← count_symbols σ n h]

end Node

/-! Tables -/

namespace Tally

theorem count_bump (t : Tally) (text tok : String) :
    (t.bump text).count tok = t.count tok + if text = tok then 1 else 0 := by
  induction t with
  | nil => grind [bump, count]
  | cons entry rest ih => grind [bump, count]

end Tally

namespace SymbolTables

/-- How often the tables count a symbol. -/
def count (t : SymbolTables) : Symbol → Int
  | .operator text => t.operators.count text
  | .operand text => t.operands.count text
  | .unruled _ => 0

theorem count_add {σ : Symbol} (hσ : ∀ c, σ ≠ .unruled c) (t : SymbolTables) (τ : Symbol) :
    (t.add τ).count σ = t.count σ + if τ = σ then 1 else 0 := by
  cases σ with
  | unruled c => exact absurd rfl (hσ c)
  | operator text | operand text => cases τ <;> simp [add, count, Tally.count_bump]

theorem count_foldl_add {σ : Symbol} (hσ : ∀ c, σ ≠ .unruled c) (ss : List Symbol)
    (t : SymbolTables) : (ss.foldl add t).count σ = t.count σ + ss.count σ := by
  induction ss generalizing t with
  | nil => simp
  | cons τ ss ih =>
      rw [List.foldl_cons, ih, count_add hσ, List.count_cons]
      simp only [beq_iff_eq]
      split <;> omega

theorem count_ofSymbols {σ : Symbol} (hσ : ∀ c, σ ≠ .unruled c) (ss : List Symbol) :
    (ofSymbols ss).count σ = ss.count σ := by
  have none : empty.count σ = 0 := by cases σ <;> rfl
  rw [ofSymbols, count_foldl_add hσ, none, Int.zero_add]

end SymbolTables

namespace Node

/-- A node with tables is a construct, and the tables are those of its symbols. -/
theorem classify_eq_ok {n : Node Bool} {tables : SymbolTables} (h : n.classify = .ok tables) :
    n.isConstruct = true ∧ tables = .ofSymbols n.symbols := by
  unfold classify at h
  split at h
  · cases h
  · next none =>
      refine ⟨?_, by simpa using h.symm⟩
      cases n with
      | position | file | package => simp [symbols, firstUnruled?] at none
      | _ => rfl

theorem count_eq_sum_weigh {n : Node Bool} {tables : SymbolTables} (h : n.classify = .ok tables)
    (σ : Symbol) (hσ : ∀ c, σ ≠ .unruled c) :
    tables.count σ = ((n.weigh 1).map fun p => p.1 * p.2.ownSymbols.count σ).sum := by
  obtain ⟨construct, rfl⟩ := classify_eq_ok h
  rw [SymbolTables.count_ofSymbols hσ, sum_weigh hσ n construct, Nat.one_mul]

/-- The tables of a node in closed form: sums over the nodes of its walk, each counted as often as
its place says, of the symbols that they have of their own. -/
theorem classify_closed_form {n : Node Bool} {tables : SymbolTables} (h : n.classify = .ok tables)
    (tok : String) :
    (n.weigh 1).map Prod.snd = n.walk ∧
    tables.operators.count tok =
      ((n.weigh 1).map fun p => p.1 * p.2.ownSymbols.count (.operator tok)).sum ∧
    tables.operands.count tok =
      ((n.weigh 1).map fun p => p.1 * p.2.ownSymbols.count (.operand tok)).sum :=
  ⟨map_snd_weigh n 1, count_eq_sum_weigh h (.operator tok) (by simp),
    count_eq_sum_weigh h (.operand tok) (by simp)⟩

/-- Two names that share a type and a value, declared in a function that has a parameter. -/
def sharedType : Node Bool :=
  .funcDecl "f" true [] (.funcType [.field [.ident "p" true] (some (.ident "int" false))] [] true)
    default default
    (some (.block [.declStmt (.genDecl "var"
      [.valueSpec [.ident "a" true, .ident "b" true] (some (.ident "int" false))
        [.unary "-" (.ident "p" true)]] false false)] true true)) none

/-- A shared type counts once for each name, and the type of a parameter does not count. -/
theorem classify_closed_form_sharedType :
    sharedType.classify = .ok
      ⟨[("func", 1), ("f", 1), ("()", 1), ("\x7b\x7d", 1), ("int", 2), ("-", 2)],
        [("var", 1), ("a", 1), ("p", 2), ("b", 1)]⟩ ∧
    (2 : Int) = ((sharedType.weigh 1).map fun p =>
      p.1 * p.2.ownSymbols.count (.operator "int")).sum :=
  have tables : sharedType.classify = .ok _ := rfl
  ⟨tables, (classify_closed_form tables "int").2.1⟩

end Node
end GoMetrics
