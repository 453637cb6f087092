import GoMetrics.Proofs.Alike.File

/-!
What a function owes to its surroundings. Names in force and labels around a function decide which
of its identifiers are resolved, and nothing else: whether it can be read, its syntax, its lines and
its decisions are its own. A resolved identifier is counted as an operand and another one as an
operator, so the surroundings move symbols between the two tables; together the tables hold the same
symbols everywhere.
-/

namespace GoMetrics

open Draft Binding Node

/-- What a declaration finds around it: the names in force, and the labels of a function. -/
structure Surroundings where
  env : Env
  labels : List String

/-- A top-level node read and resolved in its surroundings. The labels in force in a function are
its own. -/
def Surroundings.decl (σ : Surroundings) (s : Source) (t : Tree) :
    Except Fault (Option (Node Bool)) :=
  Option.map (out false · σ.env) <$>
    match t.kind with
    | .functionDeclaration | .methodDeclaration => some <$> funcDecl s (readers s t)
    | .decl k => some <$> genDecl s σ.labels (readers s t) k
    | .part .packageClause | .part .importDeclaration => .ok none
    | _ => refuse s t .unexpectedTopLevel

/-- A file reads its declarations where no function is around them. -/
theorem Lexical.alone_eq (s : Source) (file above : List String) (t : Tree) :
    Lexical.alone s file above t = Surroundings.decl ⟨Lexical.fresh file above, []⟩ s t := by
  unfold Lexical.alone Draft.decl Surroundings.decl
  rfl

/-! Functions -/

theorem funcDecl_shape {s : Source} {t : Tree} {r : Readers t} {n : Node Role}
    (h : Draft.funcDecl s r = .ok n) :
    ∃ name role tps type pos stop body recv,
      n = .funcDecl name role tps type pos stop body recv := by
  obtain ⟨name, -, ls, -, recv, -, type, -, body, -, rfl⟩ := funcDecl_eq_ok.1 h
  exact ⟨_, _, _, _, _, _, _, _, rfl⟩

/-- Every draft of a function is made of constructs: it is read beside itself. -/
theorem clean_of_funcDecl {s : Source} {t : Tree} {n : Node Role}
    (h : Draft.funcDecl s (readers s t) = .ok n) : n.Clean := by
  obtain ⟨_, _, hm⟩ :=
    (twin (Source.Within.refl s) (Tree.Alike.refl t)).funcDecl.of_ok h
  exact hm.2

/-- A function stays a function in any environment. -/
theorem exists_func_out {s : Source} {t : Tree} {r : Readers t} {n : Node Role}
    (h : Draft.funcDecl s r = .ok n) (e : Env) : ∃ f : Func, out false n e = f.node := by
  obtain ⟨name, role, tps, type, pos, stop, body, recv, rfl⟩ := funcDecl_shape h
  cases recv with
  | none => exact ⟨⟨_, _, _, _, _, _, _, _⟩, rfl⟩
  | some recv => exact ⟨⟨_, _, _, _, _, _, _, _⟩, rfl⟩

theorem Func.lines_eq_of_erase {f f' : Func} (h : f'.node.erase = f.node.erase) :
    f'.lines = f.lines := by
  simp only [Func.node, erase, Node.map, Node.funcDecl.injEq] at h
  rw [Func.lines, Func.lines, h.2.2.2.2.1, h.2.2.2.2.2.1]

theorem erase_out (sig : Bool) (n : Node Role) (e : Env) : (out sig n e).erase = n.erase :=
  kept () n sig e

theorem cyclomatic_out (sig : Bool) (n : Node Role) (e : Env) :
    (out sig n e).cyclomatic = n.cyclomatic := by
  rw [← cyclomatic_map (fun _ => ()), ← cyclomatic_map (fun _ => ()) n]
  exact congrArg cyclomatic (erase_out sig n e)

/-- The same symbols are counted in any environment, in one table or the other. -/
theorem perm_texts_out (sig : Bool) (n : Node Role) (e e' : Env) :
    (Symbol.texts (out sig n e').symbols).Perm (Symbol.texts (out sig n e).symbols) := by
  have hp : ∀ e, (Symbol.texts (n.map fun _ => false).symbols).Perm
      (Symbol.texts (out sig n e).symbols) := by
    intro e
    have hk : (out sig n e).map (fun _ => false) = n.map fun _ => false := kept false n sig e
    rw [← hk]
    exact perm_texts_map _ _
  exact (hp e').symm.trans (hp e)

namespace SymbolTables

/-- A text is counted in the two tables together as often as it is the text of a symbol. -/
theorem count_add_count_ofSymbols (ss : List Symbol) (tok : String) :
    (ofSymbols ss).operators.count tok + (ofSymbols ss).operands.count tok =
      (Symbol.texts ss).count tok := by
  have ho : (ofSymbols ss).operators.count tok = ss.count (.operator tok) :=
    count_ofSymbols (σ := .operator tok) nofun ss
  have hd : (ofSymbols ss).operands.count tok = ss.count (.operand tok) :=
    count_ofSymbols (σ := .operand tok) nofun ss
  rw [ho, hd, Symbol.count_texts]
  omega

end SymbolTables

/-- Wherever a function stands, it is refused for the same reason, or it is the same function but
for what is resolved in it. Its lines and its decisions are the same, and so is the number of times
that a text is counted in the two tables together. -/
theorem function_independent_of_surroundings {s : Source} {t : Tree}
    (hk : t.kind = .functionDeclaration ∨ t.kind = .methodDeclaration) (σ σ' : Surroundings) :
    (∃ why, σ.decl s t = .error why ∧ σ'.decl s t = .error why) ∨
      ∃ f f' : Func, σ.decl s t = .ok (some f.node) ∧ σ'.decl s t = .ok (some f'.node) ∧
        f'.node.erase = f.node.erase ∧ f'.lines = f.lines ∧
        f'.node.cyclomatic = f.node.cyclomatic ∧
        ∃ tables tables', f.node.classify = .ok tables ∧ f'.node.classify = .ok tables' ∧
          (∀ tok, tables'.operators.count tok + tables'.operands.count tok =
            tables.operators.count tok + tables.operands.count tok) ∧
          (Halstead.ofTables tables').length = (Halstead.ofTables tables).length := by
  have hd : ∀ σ : Surroundings, σ.decl s t =
      (fun n => some (out false n σ.env)) <$> Draft.funcDecl s (readers s t) := by
    intro σ
    unfold Surroundings.decl
    obtain hk | hk := hk <;> rw [hk] <;> cases Draft.funcDecl s (readers s t) <;> rfl
  cases hf : Draft.funcDecl s (readers s t) with
  | error why =>
      rw [hf] at hd
      exact .inl ⟨why, hd σ, hd σ'⟩
  | ok n =>
      rw [hf] at hd
      obtain ⟨f, hn⟩ := exists_func_out hf σ.env
      obtain ⟨f', hn'⟩ := exists_func_out hf σ'.env
      have hc := clean_of_funcDecl hf
      have he : f'.node.erase = f.node.erase := by
        rw [← hn, ← hn', erase_out, erase_out]
      have hp := perm_texts_out false n σ.env σ'.env
      rw [hn, hn'] at hp
      refine .inr ⟨f, f', hn ▸ hd σ, hn' ▸ hd σ', he, Func.lines_eq_of_erase he, ?_, ?_⟩
      · rw [← hn, ← hn', cyclomatic_out, cyclomatic_out]
      · refine ⟨_, _, classify_of_clean (hn ▸ clean_out false _ hc),
          classify_of_clean (hn' ▸ clean_out false _ hc), fun tok => ?_, ?_⟩
        · rw [SymbolTables.count_add_count_ofSymbols, SymbolTables.count_add_count_ofSymbols,
            hp.count_eq]
        · rw [SymbolTables.length_ofTables, SymbolTables.length_ofTables, hp.length_eq]

/-- A file that declares nothing. -/
def bareFile : Surroundings :=
  ⟨.ofFile [], []⟩

/-- A function with a label, in a file that declares `g`. -/
def otherFunc : Surroundings :=
  ⟨(Env.ofFile ["g"]).push, ["x"]⟩

open Lexical in
/-- What is resolved in the function of `letterFile` differs, and its length does not. -/
theorem function_independent_of_surroundings_letterFunc :
    ∃ f f' : Func, bareFile.decl letterSource letterFunc = .ok (some f.node) ∧
      otherFunc.decl letterSource letterFunc = .ok (some f'.node) ∧
      f'.node.erase = f.node.erase ∧ f'.node.identifiers ≠ f.node.identifiers ∧
      ∃ tables tables', f.node.classify = .ok tables ∧ f'.node.classify = .ok tables' ∧
        (Halstead.ofTables tables').length = (Halstead.ofTables tables).length := by
  have hi : ∀ {x : Except Fault (Option (Node Bool))} {f : Func}, x = .ok (some f.node) →
      x.toOption.join.map identifiers = some f.node.identifiers := by
    rintro _ f rfl
    rfl
  have hne : (otherFunc.decl letterSource letterFunc).toOption.join.map identifiers ≠
      (bareFile.decl letterSource letterFunc).toOption.join.map identifiers := by
    decide +kernel
  obtain ⟨why, h, -⟩ | ⟨f, f', hf, hf', he, -, -, tables, tables', ht, ht', -, hl⟩ :=
    function_independent_of_surroundings (s := letterSource) (t := letterFunc) (.inl rfl)
      bareFile otherFunc
  · have hs : (bareFile.decl letterSource letterFunc).toOption.isSome = true := by decide +kernel
    rw [h] at hs
    cases hs
  · refine ⟨f, f', hf, hf', he, fun h => hne ?_, tables, tables', ht, ht', hl⟩
    rw [hi hf, hi hf', h]

end GoMetrics
