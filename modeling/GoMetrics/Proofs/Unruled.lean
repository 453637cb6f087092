import GoMetrics.Proofs.Alike.File

/-!
Where classification fails. Every construct has a rule, and the rules between them look at every
place of a node but a few: the name and the signature of a function, the names of a field, the name
of an import, and the type and the values of a declaration without names. What is no construct makes
the classification fail exactly if it stands at a place that is looked at. No such thing is found in
the declarations of a file.
-/

namespace GoMetrics

namespace Node

variable {ι : Type}

/-- What stands in the places of a node that its symbols are taken from. -/
def counted : Node ι → List (Node ι)
  | .field _ type => type.toList
  | .importSpec .. | .valueSpec [] _ _ => []
  | .funcDecl _ _ _ _ _ _ body _ => body.toList
  | n => n.places

/-- The node `m` stands in another one where it is looked at, at any depth. -/
inductive IsCounted (m : Node ι) : Node ι → Prop
  | self : IsCounted m m
  | inside {n c : Node ι} (place : c ∈ n.counted) (deeper : IsCounted m c) : IsCounted m n

/-- A place is looked at exactly if what stands there is counted at least once. -/
theorem mem_counted_iff {c n : Node ι} :
    c ∈ n.counted ↔ ∃ p ∈ n.portions, 0 < p.1 ∧ p.2 = c := by
  have once : ∀ ns : List (Node ι), c ∈ ns ↔ ∃ p ∈ ns.map (1, ·), 0 < p.1 ∧ p.2 = c := by
    simp
  cases n with
  | field | importSpec | funcDecl =>
      simp [counted, portions, or_and_right, exists_or]
  | valueSpec names type values =>
      cases names <;> simp [counted, portions, places, or_and_right, exists_or, eq_comm]
  | _ => exact once _

theorem mem_places_of_mem_counted {c n : Node ι} (h : c ∈ n.counted) : c ∈ n.places := by
  obtain ⟨p, portion, -, rfl⟩ := mem_counted_iff.1 h
  exact mem_places_of_mem_portions portion

/-- A construct has something without a rule among its symbols exactly if one of the places that are
looked at has. -/
theorem mem_symbols_construct {n : Node Bool} (h : n.isConstruct = true) (what : String) :
    .unruled what ∈ n.symbols ↔ ∃ c ∈ n.counted, .unruled what ∈ c.symbols := by
  have sum := count_symbols (.unruled what) n h
  rw [count_unruled_ownSymbols, Nat.zero_add] at sum
  rw [← List.count_pos_iff, sum, List.sum_pos_iff_exists_pos_nat]
  constructor
  · intro ⟨k, hk, hpos⟩
    obtain ⟨p, portion, rfl⟩ := List.mem_map.1 hk
    exact ⟨p.2, mem_counted_iff.2 ⟨p, portion, Nat.pos_of_mul_pos_right hpos, rfl⟩,
      List.count_pos_iff.1 (Nat.pos_of_mul_pos_left hpos)⟩
  · rintro ⟨_, counted, hc⟩
    obtain ⟨p, portion, hk, rfl⟩ := mem_counted_iff.1 counted
    exact ⟨_, List.mem_map_of_mem portion, Nat.mul_pos hk (List.count_pos_iff.2 hc)⟩

theorem mem_symbols_of_not_construct {n : Node Bool} (h : n.isConstruct = false) (what : String) :
    .unruled what ∈ n.symbols ↔ n.construct = what := by
  cases n with
  | position | file | package => simp [symbols, construct, eq_comm]
  | _ => cases h

/-- What has no rule is no construct, and it stands where it is looked at. -/
theorem exists_of_mem_symbols {n : Node Bool} {what : String} (h : .unruled what ∈ n.symbols) :
    ∃ m : Node Bool, m.IsCounted n ∧ m.isConstruct = false ∧ m.construct = what := by
  induction n using places_induction with
  | step n ih =>
      cases hn : n.isConstruct with
      | true =>
          obtain ⟨c, place, hc⟩ := (mem_symbols_construct hn what).1 h
          obtain ⟨m, deeper, hm⟩ := ih c (mem_places_of_mem_counted place) hc
          exact ⟨m, .inside place deeper, hm⟩
      | false => exact ⟨n, .self, hn, (mem_symbols_of_not_construct hn what).1 h⟩

theorem exists_mem_symbols {m n : Node Bool} (h : m.IsCounted n) (hm : m.isConstruct = false) :
    ∃ what, .unruled what ∈ n.symbols := by
  induction h with
  | self => exact ⟨_, (mem_symbols_of_not_construct hm _).2 rfl⟩
  | @inside n c place _ ih =>
      cases hn : n.isConstruct with
      | true =>
          obtain ⟨what, hc⟩ := ih
          exact ⟨what, (mem_symbols_construct hn what).2 ⟨c, place, hc⟩⟩
      | false => exact ⟨_, (mem_symbols_of_not_construct hn _).2 rfl⟩

theorem firstUnruled?_eq_some {ss : List Symbol} {what : String}
    (h : firstUnruled? ss = some what) : .unruled what ∈ ss := by
  obtain ⟨σ, mem, hσ⟩ := List.exists_of_findSome?_eq_some h
  cases σ with
  | unruled => cases hσ; exact mem
  | operator | operand => cases hσ

theorem firstUnruled?_eq_none {ss : List Symbol} (h : firstUnruled? ss = none) (what : String) :
    .unruled what ∉ ss :=
  fun mem => nomatch List.findSome?_eq_none_iff.1 h _ mem

/-- A failing classification names something that is no construct and is looked at. -/
theorem exists_of_classify_eq_error {n : Node Bool} {what : String}
    (h : n.classify = .error what) :
    ∃ m : Node Bool, m.IsCounted n ∧ m.isConstruct = false ∧ m.construct = what := by
  unfold classify at h
  split at h
  · cases h
    exact exists_of_mem_symbols (firstUnruled?_eq_some ‹_›)
  · cases h

theorem classify_fails {m n : Node Bool} (h : m.IsCounted n) (hm : m.isConstruct = false) :
    ∃ what, n.classify = .error what := by
  obtain ⟨what, mem⟩ := exists_mem_symbols h hm
  unfold classify
  split
  · exact ⟨_, rfl⟩
  · exact absurd mem (firstUnruled?_eq_none ‹_› what)

end Node

/-- The declarations of a file are constructs all the way down. -/
theorem GoFile.allClean_declarations {s : Source} {root : Tree} {decls : List (Node Bool)}
    (h : GoFile.declarations s root = .ok decls) : Node.AllClean decls :=
  have ⟨_, _, clean⟩ :=
    (matches_declarations (Source.Within.refl s) (Tree.Alike.refl root)).of_ok h
  clean.2

/-- Classification fails exactly where something that is no construct is looked at; it names such a
thing. The declarations of a file are all classified. -/
theorem classify_fails_iff :
    (∀ n : Node Bool,
      (∃ what, n.classify = .error what) ↔
        ∃ m : Node Bool, m.IsCounted n ∧ m.isConstruct = false) ∧
    (∀ (n : Node Bool) (what : String), n.classify = .error what →
      ∃ m : Node Bool, m.IsCounted n ∧ m.isConstruct = false ∧ m.construct = what) ∧
    ∀ (s : Source) (root : Tree) (decls : List (Node Bool)),
      GoFile.declarations s root = .ok decls →
        ∀ n ∈ decls, ∃ tables, n.classify = .ok tables := by
  refine ⟨fun n => ⟨?_, ?_⟩, fun n what h => Node.exists_of_classify_eq_error h, ?_⟩
  · rintro ⟨what, h⟩
    obtain ⟨m, counted, hm, -⟩ := Node.exists_of_classify_eq_error h
    exact ⟨m, counted, hm⟩
  · rintro ⟨m, counted, hm⟩
    exact Node.classify_fails counted hm
  · intro s root decls h n hn
    exact ⟨_, Node.classify_of_clean (GoFile.allClean_declarations h n hn)⟩

/-- A function with something in its signature and something in its body. -/
def filledFunc (type stmt : Node Bool) : Node Bool :=
  .funcDecl "f" true [] type default default (some (.block [stmt] true true)) none

open Lexical in
/-- A position is found in a body and not in a signature, and the two declarations of `letterFile`
hold none. -/
theorem classify_fails_iff_filledFunc :
    (filledFunc .empty (.position default)).classify = .error "Position" ∧
    (∃ m : Node Bool, m.IsCounted (filledFunc .empty (.position default)) ∧
      m.isConstruct = false ∧ m.construct = "Position") ∧
    (¬ ∃ m : Node Bool, m.IsCounted (filledFunc (.position default) .empty) ∧
      m.isConstruct = false) ∧
    ∃ decls, GoFile.declarations letterSource letterFile = .ok decls ∧
      ∀ n ∈ decls, ∃ tables, n.classify = .ok tables := by
  have found : (filledFunc .empty (.position default)).classify = .error "Position" := rfl
  refine ⟨found, classify_fails_iff.2.1 _ _ found, fun h => ?_, ?_⟩
  · obtain ⟨what, error⟩ := (classify_fails_iff.1 _).2 h
    cases error
  · obtain ⟨decls, h⟩ := Except.exists_eq_ok
      (x := GoFile.declarations letterSource letterFile) (by decide +kernel)
    exact ⟨decls, h, classify_fails_iff.2.2 _ _ _ h⟩

end GoMetrics
