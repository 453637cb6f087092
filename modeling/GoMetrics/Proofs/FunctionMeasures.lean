import GoMetrics.Proofs.Double
import GoMetrics.Proofs.Surroundings
import GoMetrics.Proofs.FilePass

/-!
What holds of the measures of every function in a file. A function has one line more than there are
line ends between its ends. A table counts no text zero times, so that it has at most as many entries
as it counts symbols. The rule for a function counts its keyword, its name and its parentheses. So no
logarithm is taken of a number that is not positive, and no distinct operand is made up where operands
are counted. Of the binary logarithm only this is used, that it is not below one from two on.
-/

namespace GoMetrics

open Draft Binding Node Lexical

/-! Tables -/

/-- Every entry has been counted. -/
def Tally.IsPositive (t : Tally) : Prop :=
  ∀ entry ∈ t, 0 < entry.2

namespace Tally

theorem isPositive_bump {t : Tally} (h : t.IsPositive) (text : String) :
    (t.bump text).IsPositive := by
  induction t with
  | nil => simp [bump, IsPositive]
  | cons entry rest ih =>
      obtain ⟨first, others⟩ := List.forall_mem_cons.1 h
      rw [bump]
      split
      · exact List.forall_mem_cons.2 ⟨Int.lt_add_one_of_le (Int.le_of_lt first), others⟩
      · exact List.forall_mem_cons.2 ⟨first, ih others⟩

theorem total_cons (entry : String × Int) (t : Tally) :
    Tally.total (entry :: t) = entry.2 + t.total :=
  rfl

theorem length_le_total {t : Tally} (h : t.IsPositive) : (t.length : Int) ≤ t.total := by
  induction t with
  | nil => exact Int.le_refl 0
  | cons entry rest ih =>
      obtain ⟨first, others⟩ := List.forall_mem_cons.1 h
      have := ih others
      rw [total_cons, List.length_cons]
      omega

theorem length_eq_zero_iff {t : Tally} (h : t.IsPositive) : t.length = 0 ↔ t.total = 0 := by
  constructor
  · intro none
    rw [List.length_eq_zero_iff.1 none]
    rfl
  · intro none
    have := length_le_total h
    omega

/-- A text that is counted has an entry. -/
theorem mem_of_count_ne_zero {t : Tally} {text : String} (h : t.count text ≠ 0) :
    text ∈ t.map Prod.fst := by
  by_contra absent
  have none : t.lookup text = none := by
    rw [List.lookup_eq_none_iff]
    intro p hp
    simp
    rintro rfl
    exact absent (List.mem_map_of_mem hp)
  exact h (by rw [count, none]; rfl)

end Tally

/-- A symbol that is counted as an operator. -/
def Symbol.isOperator : Symbol → Bool
  | .operator _ => true
  | _ => false

namespace SymbolTables

/-- Every entry of both tables has been counted. -/
structure IsPositive (t : SymbolTables) : Prop where
  operators : t.operators.IsPositive
  operands : t.operands.IsPositive

theorem isPositive_foldl {ss : List Symbol} {t : SymbolTables} (h : t.IsPositive) :
    (ss.foldl add t).IsPositive := by
  induction ss generalizing t with
  | nil => exact h
  | cons σ ss ih =>
      refine ih ?_
      cases σ with
      | operator text => exact ⟨Tally.isPositive_bump h.operators text, h.operands⟩
      | operand text => exact ⟨h.operators, Tally.isPositive_bump h.operands text⟩
      | unruled => exact h

theorem isPositive_ofSymbols (ss : List Symbol) : (ofSymbols ss).IsPositive :=
  isPositive_foldl ⟨nofun, nofun⟩

theorem total_operators_foldl (ss : List Symbol) (t : SymbolTables) :
    (ss.foldl add t).operators.total = t.operators.total + ss.countP Symbol.isOperator := by
  induction ss generalizing t with
  | nil => exact (Int.add_zero _).symm
  | cons σ ss ih =>
      rw [List.foldl_cons, ih, List.countP_cons]
      cases σ with
      | operator text =>
          simp only [add, total_bump, Symbol.isOperator, if_true]
          omega
      | operand | unruled => simp [add, Symbol.isOperator]

theorem total_operators_ofSymbols (ss : List Symbol) :
    (ofSymbols ss).operators.total = ss.countP Symbol.isOperator :=
  (total_operators_foldl ss empty).trans (Int.zero_add _)

theorem mem_operators {ss : List Symbol} {text : String} (h : .operator text ∈ ss) :
    text ∈ (ofSymbols ss).operators.map Prod.fst := by
  have counted : (ofSymbols ss).operators.count text = ss.count (.operator text) :=
    count_ofSymbols (σ := .operator text) nofun ss
  have := List.count_pos_iff.2 h
  exact Tally.mem_of_count_ne_zero (by omega)

end SymbolTables

namespace Halstead

/-- What the counts of a function have in common. -/
structure OfFunction (h : Halstead) : Prop where
  distinctOperators_le : (h.distinctOperators : Int) ≤ h.totalOperators
  distinctOperands_le : (h.distinctOperands : Int) ≤ h.totalOperands
  no_operands : h.distinctOperands = 0 ↔ h.totalOperands = 0
  two_le_distinctOperators : 2 ≤ h.distinctOperators
  three_le_totalOperators : 3 ≤ h.totalOperators
  two_le_vocabulary : 2 ≤ h.vocabulary

/-- The volume by some binary logarithm. -/
def volumeBy (log2 : Float → Float) (h : Halstead) : Except Overflow Float := do
  let length ← toFloat h.length
  let vocabulary ← toFloat h.vocabulary
  return length * if vocabulary ≤ 0 then 0.0 else log2 vocabulary

theorem volume_eq_volumeBy (h : Halstead) : h.volume = h.volumeBy Float.log2 :=
  rfl

theorem one_le_length {h : Halstead} (hf : h.OfFunction) : 1 ≤ h.length := by
  have := hf.distinctOperands_le
  have := hf.three_le_totalOperators
  rw [length]
  omega

theorem vocabulary_not_le_zero {h : Halstead} (hf : h.OfFunction) {x : Float}
    (hx : toFloat h.vocabulary = .ok x) : ¬ x ≤ 0 :=
  Double.not_le_zero (Double.one_le_toFloat (Nat.le_of_succ_le hf.two_le_vocabulary) hx)

theorem volume_not_le_zero {h : Halstead} (hf : h.OfFunction) {log2 : Float → Float}
    (hlog : ∀ x, 2 ≤ x → 1 ≤ log2 x) {v : Float} (hv : h.volumeBy log2 = .ok v) : ¬ v ≤ 0 := by
  simp only [volumeBy, Except.bind_eq_ok, Except.pure_eq_ok] at hv
  obtain ⟨length, hl, vocabulary, hx, rfl⟩ := hv
  rw [if_neg (vocabulary_not_le_zero hf hx)]
  have := one_le_length hf
  rw [← Int.toNat_of_nonneg (by omega : 0 ≤ h.length)] at hl
  exact Double.not_mul_le_zero (Double.one_le_toFloat (by omega) hl)
    (hlog _ (Double.two_le_toFloat hf.two_le_vocabulary hx))

end Halstead

namespace Func

/-- The keyword, the name and the parentheses come first. -/
theorem symbols_node (f : Func) :
    ∃ rest, f.node.symbols = .operator "func" :: .operator f.name :: .operator "()" :: rest :=
  ⟨_, rfl⟩

theorem ofFunction_symbols (f : Func) :
    (Halstead.ofTables (.ofSymbols f.node.symbols)).OfFunction := by
  have positive := SymbolTables.isPositive_ofSymbols f.node.symbols
  obtain ⟨rest, hs⟩ := symbols_node f
  have two : 2 ≤ (SymbolTables.ofSymbols f.node.symbols).operators.length := by
    have sub : ["func", "()"] ⊆ (SymbolTables.ofSymbols f.node.symbols).operators.map Prod.fst := by
      simp only [List.cons_subset, List.nil_subset, and_true]
      exact ⟨SymbolTables.mem_operators (by simp [hs]), SymbolTables.mem_operators (by simp [hs])⟩
    simpa using (List.subperm_of_subset (by decide) sub).length_le
  have three : 3 ≤ (SymbolTables.ofSymbols f.node.symbols).operators.total := by
    rw [SymbolTables.total_operators_ofSymbols, hs]
    simp only [List.countP_cons, Symbol.isOperator, if_true]
    omega
  exact ⟨Tally.length_le_total positive.operators, Tally.length_le_total positive.operands,
    Tally.length_eq_zero_iff positive.operands, two, three, two.trans (Nat.le_add_right _ _)⟩

/-- What holds of the measures of a function that stands from `start` to `stop`. -/
structure Measured (f : Func) (log2 : Float → Float) (s : Source) (start stop : Nat) : Prop where
  lines : f.lines = 1 + (s.slice start stop).count Source.newline
  one_le_lines : 1 ≤ f.lines
  one_le_cyclomatic : 1 ≤ f.node.cyclomatic
  tables : ∃ tables, f.node.classify = .ok tables ∧ tables.IsPositive ∧
    (Halstead.ofTables tables).OfFunction ∧
    (∀ x, toFloat (Halstead.ofTables tables).vocabulary = .ok x → ¬ x ≤ 0) ∧
    ∀ v, (Halstead.ofTables tables).volumeBy log2 = .ok v → ¬ v ≤ 0
  lines_not_le_zero : ∀ x, toFloat f.lines = .ok x → ¬ x ≤ 0

end Func

/-- Between two offsets the row grows by the line ends. -/
theorem Source.row_add_count (s : Source) {start stop : Nat} (h : start ≤ stop) :
    s.row start + (s.slice start stop).count newline = s.row stop := by
  rw [row, slice, ← List.count_append, ← List.take_add, Nat.add_sub_cancel' h, row]

/-! Functions of a file -/

/-- A function or a method. -/
def Tree.isFunc (t : Tree) : Bool :=
  t.kind = .functionDeclaration ∨ t.kind = .methodDeclaration

/-- What a file makes of a function: a draft, resolved in some environment. -/
def Tree.Declares (s : Source) (t : Tree) (f : Func) : Prop :=
  ∃ n e, Draft.funcDecl s (readers s t) = .ok n ∧ out false n e = f.node

namespace Lexical

variable {s : Source}

/-- A top-level node declares a function exactly if it is one. -/
theorem funcs_of_decl {t : Tree} {d : Option (Node Role)} (h : decl s t = .ok d) (e : Env) :
    List.Forall₂ (Tree.Declares s) ([t].filter Tree.isFunc)
      ((outAll d.toList e).filterMap Node.func?) := by
  obtain ⟨hk, n, hn, rfl⟩ | ⟨k, hk, n, hn, rfl⟩ | ⟨hk, rfl⟩ := decl_eq_ok.1 h
  · have ht : t.isFunc = true := by
      obtain hk | hk := hk <;> simp [Tree.isFunc, hk]
    obtain ⟨f, hf⟩ := exists_func_out hn e
    have hf? : f.node.func? = some f := rfl
    simp only [List.filter_cons, ht, if_true, List.filter_nil, Option.toList_some, outAll_cons, hf,
      outAll_nil, List.filterMap_cons, hf?, List.filterMap_nil]
    exact .cons ⟨n, e, hn, hf⟩ .nil
  · obtain ⟨specs, -, rfl⟩ := genDecl_eq_ok.1 hn
    have ht : t.isFunc = false := by simp [Tree.isFunc, hk]
    simp only [List.filter_cons, ht]
    exact .nil
  · obtain hk | hk := hk <;> simp [Tree.isFunc, hk]

theorem funcs_of_drafts {ts : List Tree} {ds : List (Option (Node Role))}
    (h : List.Forall₂ (fun t d => decl s t = .ok d) ts ds) (e : Env) :
    List.Forall₂ (Tree.Declares s) (ts.filter Tree.isFunc)
      ((outAll ds.reduceOption e).filterMap Node.func?) := by
  induction h generalizing e with
  | nil => exact .nil
  | @cons t d ts ds hd _ ih =>
      rw [← List.singleton_append, List.filter_append, reduceOption_cons, outAll_append,
        List.filterMap_append]
      exact List.rel_append (funcs_of_decl hd e) (ih _)

end Lexical

theorem Func.positions_of_declares {s : Source} {t : Tree} {f : Func} (h : t.Declares s f) :
    f.pos = s.position t.start ∧ f.stop = s.position t.stop := by
  obtain ⟨n, e, hn, hf⟩ := h
  have same : f.node.erase = n.erase := hf ▸ erase_out false n e
  obtain ⟨name, -, ls, -, recv, -, type, -, body, -, rfl⟩ := funcDecl_eq_ok.1 hn
  simp only [Func.node, erase, Node.map, Node.funcDecl.injEq] at same
  exact ⟨same.2.2.2.2.1, same.2.2.2.2.2.1⟩

theorem Func.measured_of_declares {s : Source} {t : Tree} {f : Func} (h : t.Declares s f)
    (ordered : t.start ≤ t.stop) {log2 : Float → Float} (hlog : ∀ x, 2 ≤ x → 1 ≤ log2 x) :
    f.Measured log2 s t.start t.stop := by
  obtain ⟨hpos, hstop⟩ := positions_of_declares h
  have lines : f.lines = 1 + (s.slice t.start t.stop).count Source.newline := by
    have := s.row_add_count ordered
    simp only [Func.lines, hpos, hstop, Source.position, Source.line]
    omega
  obtain ⟨n, e, hn, hf⟩ := h
  have clean : f.node.Clean := hf ▸ clean_out false e (clean_of_funcDecl hn)
  have counts := f.ofFunction_symbols
  refine ⟨lines, by omega, Nat.le_add_left 1 _, ⟨_, classify_of_clean clean,
    SymbolTables.isPositive_ofSymbols _, counts, fun x => Halstead.vocabulary_not_le_zero counts,
    fun v => Halstead.volume_not_le_zero counts hlog⟩, fun x hx => ?_⟩
  rw [← Int.toNat_of_nonneg (by omega : 0 ≤ f.lines)] at hx
  exact Double.not_le_zero (Double.one_le_toFloat (by omega) hx)

/-- The functions that a file declares are its functions and methods, in their order, and where no
one of them ends before it starts, the measures of each are as they should be. -/
theorem functions_measured {s : Source} {root : Tree} {decls : List (Node Bool)}
    (h : GoFile.declarations s root = .ok decls)
    (ordered : ∀ t ∈ Lexical.fileParts root, t.isFunc = true → t.start ≤ t.stop)
    {log2 : Float → Float} (hlog : ∀ x, 2 ≤ x → 1 ≤ log2 x) :
    List.Forall₂ (fun t f => f.Measured log2 s t.start t.stop)
      ((Lexical.fileParts root).filter Tree.isFunc) (decls.filterMap Node.func?) := by
  obtain ⟨ds, hds, -, rfl⟩ := declarations_eq_ok h
  have declared := funcs_of_drafts hds (.ofFile (fileScope s root))
  rw [List.forall₂_iff_get] at declared ⊢
  refine ⟨declared.1, fun i ht hf => ?_⟩
  obtain ⟨mem, isFunc⟩ := List.mem_filter.1 (List.get_mem _ ⟨i, ht⟩)
  exact Func.measured_of_declares (declared.2 i ht hf) (ordered _ mem isFunc) hlog

/-- The file `func f(){`, and a line below it the brace that closes the body. -/
def twoLineFile : Tree :=
  written (.other "source_file") none 0 11
    [written .functionDeclaration none 0 11
      [letter (some .name) 5, written (.part .parameterList) (some .parameters) 6 8 [],
        written (.stmt .block) (some .body) 8 11
          [.node ⟨.other "\x7b", 8, 9, false, false, false, none⟩ [],
            .node ⟨.other "\x7d", 10, 11, false, false, false, none⟩ []]]]

def twoLineSource : Source :=
  ⟨"p.go", "func f()\x7b\n\x7d".toUTF8.toList⟩

/-- The binary logarithm cut off: two from four on, one below. -/
def coarseLog2 (x : Float) : Float :=
  if 4 ≤ x then 2 else 1

def twoLineFunc : Func :=
  ⟨"f", true, [], .funcType [] [] true, ⟨"p.go", 1, 1⟩, ⟨"p.go", 2, 2⟩, some (.block [] true true),
    none⟩

/-- The function has two lines and counts its keyword, its name, its parentheses and its braces. -/
theorem functions_measured_twoLineFile :
    GoFile.declarations twoLineSource twoLineFile = .ok [twoLineFunc.node] ∧
      twoLineFunc.lines = 2 ∧
      twoLineFunc.node.classify =
        .ok ⟨[("func", 1), ("f", 1), ("()", 1), ("\x7b\x7d", 1)], []⟩ ∧
      twoLineFunc.Measured coarseLog2 twoLineSource 0 11 := by
  have h : GoFile.declarations twoLineSource twoLineFile = .ok [twoLineFunc.node] := by
    with_unfolding_all rfl
  have ordered : ∀ t ∈ Lexical.fileParts twoLineFile, t.isFunc = true → t.start ≤ t.stop := by
    decide +kernel
  have hlog : ∀ x, 2 ≤ x → 1 ≤ coarseLog2 x := by
    intro x _
    rw [coarseLog2]
    split <;> decide
  cases functions_measured h ordered hlog with
  | cons measured _ => exact ⟨h, rfl, rfl, measured⟩

end GoMetrics
