import GoMetrics.Proofs.Binding.Places
import GoMetrics.Proofs.Jumps.Routes
import GoMetrics.Proofs.Jumps.Stmts
import GoMetrics.Proofs.Lexical.Visibility

/-!
Labels of jumps. A jump finds its label exactly if its function declares it, before the jump or
behind it and in whatever block, but not in a function literal inside. The function of a jump is the
innermost node around it that is read as a function. Nodes of the same kinds that stand where a
block is expected are read as blocks, and have no labels of their own.
-/

namespace GoMetrics

namespace Tree

/-- Whether a function declares a label: some node of its body is a labeled statement with it. -/
def DeclaresLabel (s : Source) (function : Tree) (label : String) : Prop :=
  ∃ body, function.at? .body = some body ∧ ∃ t ∈ body.1.owned, t.kind.isLabeled = true ∧
    ∃ c, t.at? .label = some c ∧ s.textOf c.1 = label

theorem mem_ownLabels {s : Source} {function : Tree} {label : String} :
    label ∈ function.ownLabels s ↔ function.DeclaresLabel s label := by
  have own : ∀ t : Tree, t.labelText? s = some label ↔
      t.kind.isLabeled = true ∧ ∃ c, t.at? .label = some c ∧ s.textOf c.1 = label := by
    intro t
    rw [labelText?]
    split
    · rw [Option.map_eq_some_iff]
      exact (and_iff_right ‹_›).symm
    · exact iff_of_false (fun h => absurd h.symm (Option.some_ne_none _)) fun h => absurd h.1 ‹_›
  simp only [ownLabels, DeclaresLabel, List.mem_flatMap, List.mem_filterMap, Option.mem_toList, own]

end Tree

namespace Binding

open Node

/-- The label of a jump, or nothing. -/
theorem label?_out (sig : Bool) (n : Node Role) (e : Env) :
    List.Forall₂ Becomes n.label?.toList (out sig n e).label?.toList := by
  cases n with
  | branch tok label => exact becomes_runOpt label e
  | ident _ role => cases role <;> exact .nil
  | funcDecl _ _ _ _ _ _ _ recv => cases recv <;> exact .nil
  | funcType => cases sig <;> exact .nil
  | _ => exact .nil

theorem labels_out (sig : Bool) (n : Node Role) (e : Env) :
    List.Forall₂ Becomes n.labels (out sig n e).labels := by
  induction n using places_induction generalizing sig e with
  | step n ih =>
      cases hc : n.isConstruct with
      | false =>
          rw [labels, gather, hc, labels, gather, isConstruct_out, hc]
          exact .nil
      | true =>
          rw [labels_eq hc, labels_eq ((isConstruct_out sig n e).trans hc)]
          refine becomes_append (label?_out sig n e) (List.rel_flatMap ?_ fun c m hm => hm)
          refine ((List.forall₂_and_left _ _).2 ⟨ih, places_out sig n e⟩).imp ?_
          rintro c _ ⟨hl, sig, e, rfl⟩
          exact hl sig e

theorem labels_outAll (ns : List (Node Role)) (e : Env) :
    List.Forall₂ Becomes (ns.flatMap labels) ((outAll ns e).flatMap labels) := by
  refine List.rel_flatMap (becomes_outAll ns e) ?_
  rintro n _ ⟨sig, e, rfl⟩
  exact labels_out sig n e

theorem eq_of_becomes_settled {x : String} {b : Bool} {m : Node Bool}
    (h : Becomes (.ident x (.settled b)) m) : m = .ident x b := by
  obtain ⟨sig, e, rfl⟩ := h
  rfl

end Binding

namespace Lexical

open Draft Binding

variable {s : Source}

theorem labels_drafts {ts : List Tree} {ds : List (Option (Node Role))}
    (h : List.Forall₂ (fun t d => decl s t = .ok d) ts ds) :
    ds.reduceOption.flatMap Node.labels =
      (ts.flatMap fun t => jumps s (topMode t) t none).map (Jump.draft s) := by
  induction h with
  | nil => rfl
  | @cons t d ts ds hd _ ih =>
      rw [reduceOption_cons, List.flatMap_append, List.flatMap_cons, List.map_append, ih,
        gathersAt_decl hd]

theorem map_jump_fileRoutes (root : Tree) : (fileRoutes s root).map Route.jump =
    (fileParts root).flatMap fun t => jumps s (topMode t) t none := by
  rw [fileRoutes, List.map_flatMap]
  exact List.flatMap_congr fun t _ => map_jump_routes (topMode t) t []

theorem function_of_mem_fileRoutes {root : Tree} {ds : List (Option (Node Role))}
    (h : List.Forall₂ (fun t d => decl s t = .ok d) (fileParts root) ds) :
    ∀ r ∈ fileRoutes s root, r.function?.isSome = true := by
  intro r hr
  have hj : r.jump ∈ (fileRoutes s root).map Route.jump := List.mem_map_of_mem hr
  rw [map_jump_fileRoutes] at hj
  obtain ⟨t, ht, hj⟩ := List.mem_flatMap.1 hj
  obtain ⟨d, -, hd⟩ := Except.exists_of_forall₂ h ht
  exact function_of_mem_top hd _ hj

theorem filterMap_label?_walk {ns : List (Node Bool)} (h : ∀ n ∈ ns, n.isConstruct = true) :
    (ns.flatMap Node.walk).filterMap Node.label? = ns.flatMap Node.labels := by
  rw [List.filterMap_flatMap]
  refine List.flatMap_congr fun n hn => ?_
  rw [Node.labels, Node.gather, if_pos (h n hn), List.filterMap_eq_flatMap_toList]

/-- The labels of the jumps of a file, each resolved by the labels of its function. -/
theorem labels_resolved {root : Tree} {decls : List (Node Bool)}
    (h : GoFile.declarations s root = .ok decls) :
    (decls.flatMap Node.walk).filterMap Node.label? = (fileRoutes s root).map fun r =>
      .ident (s.textOf r.label) ((labelsIn s r.function?).contains (s.textOf r.label)) := by
  obtain ⟨ds, hds, -, rfl⟩ := declarations_eq_ok h
  have hout := labels_outAll ds.reduceOption (.ofFile (fileScope s root))
  rw [labels_drafts hds, ← map_jump_fileRoutes, List.forall₂_map_left_iff,
    List.forall₂_map_left_iff] at hout
  rw [filterMap_label?_walk (isConstruct_of_mem_outAll (isCompound_of_mem_drafts hds) _)]
  refine (List.forall₂_eq_eq_eq ▸ List.forall₂_map_left_iff.2 (hout.imp ?_) : _ = _).symm
  exact fun r label hr => (eq_of_becomes_settled hr).symm

/-- The labels of the jumps of a file beside the jumps in its tree: each label is resolved exactly
if the function of its jump declares it. -/
def LabelsBelong (function? : Route → Option Tree) (s : Source) (root : Tree)
    (decls : List (Node Bool)) : Prop :=
  List.Forall₂ (fun r label => ∃ f resolved, function? r = some f ∧
      label = .ident (s.textOf r.label) resolved ∧
      (resolved = true ↔ f.DeclaresLabel s (s.textOf r.label)))
    (fileRoutes s root) ((decls.flatMap Node.walk).filterMap Node.label?)

/-- In a file that is read, every label belongs to the function of its jump. -/
theorem labels_belong {root : Tree} {decls : List (Node Bool)}
    (h : GoFile.declarations s root = .ok decls) :
    LabelsBelong Route.function? s root decls := by
  obtain ⟨ds, hds, -, -⟩ := declarations_eq_ok h
  rw [LabelsBelong, labels_resolved h, List.forall₂_map_right_iff, List.forall₂_same]
  intro r hr
  obtain ⟨f, hf⟩ := Option.isSome_iff_exists.1 (function_of_mem_fileRoutes hds r hr)
  refine ⟨f, _, hf, rfl, ?_⟩
  rw [hf, labelsIn, Option.elim_some, List.contains_iff_mem, Tree.mem_ownLabels]

/-- The statement `L:` for a label of one letter. -/
def labelAt (start : Nat) : Tree :=
  written (.stmt .labeledStatement) none start (start + 2)
    [written (.expr .labelName) (some .label) start (start + 1) []]

/-- The statement `goto L` for a label of one letter. -/
def gotoAt (start : Nat) : Tree :=
  written (.stmt .gotoStatement) none start (start + 6)
    [written (.expr .labelName) none (start + 5) (start + 6) []]

/-- The function `func f(){..}` from the start of its file to `stop`. -/
def funcAtTop (stop : Nat) (body : List Tree) : Tree :=
  written .functionDeclaration none 0 stop
    [letter (some .name) 5, written (.part .parameterList) (some .parameters) 6 8 [],
      written (.stmt .block) (some .body) 8 stop body]

/-- The file of `func f(){M:;func(){goto L;L:;goto M}();goto L;goto M}`. -/
def nestedFile : Tree :=
  written (.other "source_file") none 0 53
    [funcAtTop 53
      [labelAt 9,
        written (.stmt .expressionStatement) none 12 38
          [written (.expr .callExpression) none 12 38
            [written (.expr .funcLiteral) (some .function) 12 36
              [written (.part .parameterList) (some .parameters) 16 18 [],
                written (.stmt .block) (some .body) 18 36 [gotoAt 19, labelAt 26, gotoAt 29]],
              written (.other "argument_list") (some .arguments) 36 38 []]],
        gotoAt 39, gotoAt 46]]

def nestedSource : Source :=
  ⟨"p.go", "func f()\x7bM:;func()\x7bgoto L;L:;goto M\x7d();goto L;goto M\x7d".toUTF8.toList⟩

/-- A literal does not see the labels around it, nor does the function see those of the literal,
and a label is found before it is declared. -/
theorem labels_belong_nestedFile :
    ∃ decls, GoFile.declarations nestedSource nestedFile = .ok decls ∧
      LabelsBelong Route.function? nestedSource nestedFile decls ∧
      ((decls.flatMap Node.walk).filterMap Node.label?).filterMap Node.ident? =
        [("L", true), ("M", false), ("L", false), ("M", true)] := by
  obtain ⟨decls, h⟩ := Except.exists_eq_ok
    (x := GoFile.declarations nestedSource nestedFile) (by decide +kernel)
  refine ⟨decls, h, labels_belong h, ?_⟩
  rw [labels_resolved h, List.filterMap_map]
  decide +kernel

/-- The file of `func f(){L:;if x{goto L}}`, where a function literal stands for the block of the
branch. -/
def misplacedFile : Tree :=
  written (.other "source_file") none 0 25
    [funcAtTop 25
      [labelAt 9,
        written (.stmt .ifStatement) none 12 24
          [letter (some .condition) 15,
            written (.expr .funcLiteral) (some .consequence) 16 24
              [written (.stmt .block) (some .body) 16 24 [gotoAt 17]]]]]

def misplacedSource : Source :=
  ⟨"p.go", "func f()\x7bL:;if x\x7bgoto L\x7d\x7d".toUTF8.toList⟩

/-- A label need not belong to the function that is nearest by its kind: what stands for a block is
read as a block, and the labels around it stay in force. -/
theorem not_labels_belong_to_nearest :
    ∃ decls, GoFile.declarations misplacedSource misplacedFile = .ok decls ∧
      ¬ LabelsBelong Route.nearest? misplacedSource misplacedFile decls := by
  obtain ⟨decls, h⟩ := Except.exists_eq_ok
    (x := GoFile.declarations misplacedSource misplacedFile) (by decide +kernel)
  refine ⟨decls, h, fun hn => ?_⟩
  have hr : (fileRoutes misplacedSource misplacedFile).map (fun r =>
      ((labelsIn misplacedSource r.function?).contains (misplacedSource.textOf r.label),
        r.nearest?.map (Tree.ownLabels misplacedSource))) = [(true, some [])] := by
    decide +kernel
  obtain ⟨r, hroutes, hr⟩ := List.map_eq_singleton_iff.1 hr
  rw [LabelsBelong, labels_resolved h, hroutes, List.map_cons, List.forall₂_cons] at hn
  obtain ⟨⟨g, resolved, hg, hl, hown⟩, -⟩ := hn
  rw [hg, Option.map_some, Prod.mk.injEq, Option.some.injEq] at hr
  rw [hr.1] at hl
  cases hl
  rw [← Tree.mem_ownLabels, hr.2] at hown
  exact List.not_mem_nil (hown.1 rfl)

end Lexical
end GoMetrics
