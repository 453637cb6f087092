import GoMetrics.Proofs.Signatures
import GoMetrics.Proofs.TypeCases

/-!
Specs of variables and constants. A spec declares the text of every child in its slot for names, and
its type and values are counted once for each of these. Go's grammar puts the commas between the
names into the same slot.
-/

namespace GoMetrics

open Draft Binding Lexical Node

variable {s : Source} {ls : List String} {t : Tree} {n : Node Role} {e : Env}

/-! Drafts that declare nothing -/

/-- Drafts that bind nothing leave the environment as it was. -/
theorem afterAll_of_binds_eq_nil {ns : List (Node Role)} (he : e.scope.lookup blank = false)
    (h : ∀ top, ns.flatMap (binds top false) = []) : afterAll ns e = e := by
  obtain ⟨file, v, hs⟩ := Env.exists_shows he
  have hf : v.top = true → ∀ x ∈ ns.flatMap (binds true false), x ∈ file := by simp [h]
  rw [(agreesAll (fun n _ => agrees n false) e v hs hf).1, h, Env.declares_nil]

theorem afterAll_bindings (xs : List String) (e : Env) :
    afterAll (bindings xs) e = e.declares xs := by
  induction xs generalizing e with
  | nil => rfl
  | cons x xs ih => exact ih (e.declare x)

theorem outAll_bindings (xs : List String) (e : Env) :
    outAll (bindings xs) e = xs.map fun x => .ident x true := by
  induction xs generalizing e with
  | nil => rfl
  | cons x xs ih => exact congrArg (Node.ident x true :: ·) (ih (e.declare x))

/-! Names and tokens -/

namespace Tree.Separated

theorem length_eq {ts cs : List Tree} (h : Separated ts cs) : cs.length = 2 * ts.length - 1 := by
  induction h with
  | nil | singleton => rfl
  | cons t _ _ ih =>
      simp only [List.length_cons] at ih ⊢
      omega

end Tree.Separated

theorem names_eq_map_inSlot (s : Source) (t : Tree) :
    names s t = (t.inSlot .name).map s.textOf := by
  rw [names, ← Tree.map_val_allAt, List.map_map]
  rfl

/-- The texts of some trees are those of the named ones among them only if all are named. -/
theorem map_textOf_filter_named (s : Source) (ts : List Tree) :
    ts.map s.textOf = (ts.filter Tree.isNamed).map s.textOf ↔ ∀ c ∈ ts, c.isNamed = true := by
  rw [← List.filter_eq_self]
  constructor
  · intro h
    have hl := congrArg List.length h
    rw [List.length_map, List.length_map] at hl
    exact List.filter_sublist.eq_of_length hl.symm
  · intro h
    rw [h]

/-! Specs -/

theorem clean_of_spec (h : spec s ls (readers s t) = .ok n) : n.Clean := by
  obtain ⟨_, _, hm⟩ := ((twin (Source.Within.refl s) (Tree.Alike.refl t)).spec ls).of_ok h
  exact hm.2

theorem valueSpec_of_spec (hk : t.kind = .part .varSpec ∨ t.kind = .part .constSpec)
    (h : spec s ls (readers s t) = .ok n) :
    ∃ type values, n = .valueSpec (bindings (names s t)) type values ∧
      (∀ top, type.toList.flatMap (binds top false) = []) ∧
      ∀ top, values.flatMap (binds top false) = [] := by
  have h : Draft.valueSpec s ls (readers s t) = .ok n := by
    obtain hk | hk := hk <;> rwa [spec, hk] at h
  obtain ⟨type, ht, values, hv, rfl⟩ := valueSpec_eq_ok.1 h
  exact ⟨type, values, rfl, (gives_exprOpt (fun c => sound s c.1) ht).binds,
    (gives_slotList (fun c => sound s c.1) hv).binds⟩

/-- A spec declares its names behind its type and its values. -/
theorem run_valueSpec (xs : List String) {type : Option (Node Role)} {values : List (Node Role)}
    (he : e.scope.lookup blank = false) (ht : ∀ top, type.toList.flatMap (binds top false) = [])
    (hv : ∀ top, values.flatMap (binds top false) = []) :
    out false (.valueSpec (bindings xs) type values) e =
        .valueSpec (xs.map fun x => .ident x true) (type.map (out false · e)) (outAll values e) ∧
      after false (.valueSpec (bindings xs) type values) e = e.declares xs := by
  have hq : ∀ {ns}, (∀ top, ns.flatMap (binds top false) = []) → afterAll ns e = e :=
    fun h => afterAll_of_binds_eq_nil he h
  have ho : out false (.valueSpec (bindings xs) type values) e =
      .valueSpec (outAll (bindings xs) (afterAll values (afterAll type.toList e)))
        (type.map (out false · e)) (outAll values (afterAll type.toList e)) := by
    cases type <;> rfl
  have ha : after false (.valueSpec (bindings xs) type values) e =
      afterAll (bindings xs) (afterAll values (afterAll type.toList e)) := by
    cases type <;> rfl
  rw [ho, ha, hq ht, hq hv, outAll_bindings, afterAll_bindings]
  exact ⟨rfl, rfl⟩

/-- Names are counted once each, and what is declared of them once for each of them. -/
theorem count_valueSpec (σ : Symbol) (xs : List String) (type : Option (Node Bool))
    (values : List (Node Bool)) :
    (Node.valueSpec (xs.map fun x => .ident x true) type values).symbols.count σ =
      (xs.map Symbol.operand).count σ +
        xs.length * (symbolsOpt type ++ symbolsAll values).count σ := by
  rw [symbols, count_symbolsEach, List.length_map]
  congr 1
  induction xs with
  | nil => rfl
  | cons x xs ih =>
      rw [List.map_cons, List.map_cons, List.sum_cons, List.map_cons, List.count_cons, ih]
      simp [symbols, List.count_cons, Nat.add_comm]

/-- A spec declares the text of every child in its slot for names, tokens included, and its type and
values are counted as often. These are the texts of its names exactly if no token is in that slot;
with a comma between each two of `k` names, `2 * k - 1` texts are declared. -/
theorem spec_declares_texts (hk : t.kind = .part .varSpec ∨ t.kind = .part .constSpec)
    (h : spec s ls (readers s t) = .ok n) (he : e.scope.lookup blank = false) :
    ∃ xs type values tables, xs = (t.inSlot .name).map s.textOf ∧
      out false n e = .valueSpec (xs.map fun x => .ident x true) type values ∧
      after false n e = e.declares xs ∧
      (∀ d k, d.kind = .decl k → (∃ c ∈ d.specs, c.1 = t) →
        ∃ names, Draft.fileNames s d = .ok names ∧ ∀ x ∈ xs, x ∈ names) ∧
      (out false n e).classify = .ok tables ∧
      (∀ σ, (∀ c, σ ≠ .unruled c) → tables.count σ =
        (xs.map Symbol.operand).count σ +
          xs.length * (symbolsOpt type ++ symbolsAll values).count σ) ∧
      (xs = ((t.inSlot .name).filter Tree.isNamed).map s.textOf ↔
        ∀ c ∈ t.inSlot .name, c.isNamed = true) ∧
      ∀ names, Tree.Separated names (t.inSlot .name) → xs.length = 2 * names.length - 1 := by
  obtain ⟨type, values, rfl, ht, hv⟩ := valueSpec_of_spec hk h
  obtain ⟨ho, ha⟩ := run_valueSpec (names s t) he ht hv
  have hx := names_eq_map_inSlot s t
  have hc : (out false (.valueSpec (bindings (names s t)) type values) e).Clean :=
    clean_out false e (clean_of_spec h)
  refine ⟨names s t, _, _, _, hx, ho, ha, ?_, classify_of_clean hc, ?_, ?_, ?_⟩
  · rintro d k hd ⟨c, hm, rfl⟩
    refine ⟨d.specs.flatMap fun c => names s c.1, ?_, fun x hx => ?_⟩
    · rw [Draft.fileNames, hd]
    · exact List.mem_flatMap.2 ⟨c, hm, hx⟩
  · intro σ hσ
    rw [SymbolTables.count_ofSymbols hσ, ho, count_valueSpec]
    push_cast
    rfl
  · rw [hx]
    exact map_textOf_filter_named s _
  · intro xs hs
    rw [hx, List.length_map, hs.length_eq]

/-! Two constants -/

/-- The spec of the declaration `const a, b = 1, 2`. -/
def commaSpec : Tree :=
  written (.part .constSpec) none 6 17
    [letter (some .name) 6, token "," (some .name) 7 8, letter (some .name) 9,
      token "=" none 11 12,
      written (.part .expressionList) (some .value) 13 17
        [written (.expr .intLiteral) none 13 14 [], token "," none 14 15,
          written (.expr .intLiteral) none 16 17 []]]

def commaSource : Source :=
  ⟨"p.go", "const a, b = 1, 2".toUTF8.toList⟩

theorem names_commaSpec : names commaSource commaSpec = ["a", ",", "b"] := by
  decide +kernel

/-- The comma is declared as a third constant, and each value is counted three times. -/
theorem comma_declared :
    ∃ n type values, spec commaSource [] (readers commaSource commaSpec) = .ok n ∧
      ((commaSpec.inSlot .name).filter Tree.isNamed).map commaSource.textOf = ["a", "b"] ∧
      out false n (.ofFile []) =
        .valueSpec [.ident "a" true, .ident "," true, .ident "b" true] type values ∧
      (after false n (.ofFile [])).scope.lookup "," = true ∧
      (out false n (.ofFile [])).symbols.count (.operand "1") = 3 := by
  obtain ⟨n, hn⟩ := Except.exists_eq_ok
    (x := spec commaSource [] (readers commaSource commaSpec)) (by decide +kernel)
  have hs : (spec commaSource [] (readers commaSource commaSpec)).toOption.map (fun n =>
      (out false n (.ofFile [])).symbols.count (.operand "1")) = some 3 := by
    decide +kernel
  obtain ⟨type, values, rfl, ht, hv⟩ := valueSpec_of_spec (.inr rfl) hn
  obtain ⟨ho, ha⟩ := run_valueSpec ["a", ",", "b"] (e := .ofFile []) (by decide +kernel)
    ht hv
  rw [names_commaSpec] at hn
  rw [hn] at hs
  refine ⟨_, _, _, hn, by decide +kernel, ho, ?_, Option.some.inj hs⟩
  rw [ha]
  decide +kernel

theorem spec_declares_texts_commaSpec :
    ∃ n xs type values tables, spec commaSource [] (readers commaSource commaSpec) = .ok n ∧
      xs = ["a", ",", "b"] ∧
      out false n (.ofFile []) = .valueSpec (xs.map fun x => .ident x true) type values ∧
      after false n (.ofFile []) = (Env.ofFile []).declares xs ∧
      (out false n (.ofFile [])).classify = .ok tables ∧
      tables.count (.operand "a") =
        1 + 3 * (symbolsOpt type ++ symbolsAll values).count (.operand "a") ∧
      xs.length = 2 * [letter (some .name) 6, letter (some .name) 9].length - 1 := by
  obtain ⟨n, hn⟩ := Except.exists_eq_ok
    (x := spec commaSource [] (readers commaSource commaSpec)) (by decide +kernel)
  obtain ⟨xs, type, values, tables, hx, ho, ha, -, hc, hcount, -, hlen⟩ :=
    spec_declares_texts (.inr rfl) hn (e := .ofFile []) (by decide +kernel)
  have hx : xs = ["a", ",", "b"] := by
    rw [hx, ← names_eq_map_inSlot, names_commaSpec]
  have hl := hlen _ (.cons _ ⟨rfl, rfl⟩ (.singleton _))
  have ha' := hcount (.operand "a") nofun
  rw [hx] at ha'
  exact ⟨n, xs, type, values, tables, hn, hx, ho, ha, hc, ha', hl⟩

end GoMetrics
