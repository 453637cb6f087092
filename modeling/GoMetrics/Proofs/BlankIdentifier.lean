import GoMetrics.Proofs.Binding.Answers

/-!
Uses of the blank identifier. It is never entered into a scope, so that an expression or a type
never finds it. The names that are declared above are kept apart from the scopes, and there it is
kept like any other name: the key of a composite literal finds it behind a declaration of the file.
-/

namespace GoMetrics

open Draft Binding Lexical Node

variable {s : Source}

/-- The drafts of a file are measured like its tree. -/
theorem sitesAll_drafts {ts : List Tree} {ds : List (Option (Node Role))}
    (h : List.Forall₂ (fun t d => decl s t = .ok d) ts ds) {v : Context} (hl : v.labels = [])
    (ht : v.top = true) : sitesAll ds.reduceOption v.toVisible = topSites s ts v := by
  induction h generalizing v with
  | nil => rfl
  | @cons t d ts ds hd _ ih =>
      obtain ⟨hb, hs⟩ := top_of_decl hd
      have hp : past d.toList v.toVisible = (v.declare (topDeclared s t)).toVisible := by
        rw [past, ht, hb, Context.toVisible_declare]
      have hr := ih (v := v.declare (topDeclared s t)) (by simpa using hl) (by simpa using ht)
      rw [reduceOption_cons, sitesAll_append, hs v hl, hp, hr, topSites]

theorem flatMap_binds_drafts {ts : List Tree} {ds : List (Option (Node Role))}
    (h : List.Forall₂ (fun t d => decl s t = .ok d) ts ds) :
    ds.reduceOption.flatMap (binds true false) = ts.flatMap (topDeclared s) := by
  induction h with
  | nil => rfl
  | cons hd _ ih =>
      rw [reduceOption_cons, List.flatMap_append, (top_of_decl hd).1, ih, List.flatMap_cons]

/-- What becomes of the identifiers of a file is said at the sites of its tree. -/
theorem answers_file {root : Tree} {decls : List (Node Bool)}
    (h : GoFile.declarations s root = .ok decls) :
    ∃ drafts, Draft.file s root = .ok (fileScope s root, drafts) ∧
      (answersAll drafts decls).map (fun a => (a.name, a.resolved)) =
        decls.flatMap Node.identifiers ∧
      answersAll drafts decls =
        (fileSites s root).filterMap (Site.answer? (Site.judged (fileScope s root))) := by
  obtain ⟨ds, hds, hfile, rfl⟩ := declarations_eq_ok h
  refine ⟨_, hfile, map_answersAll_out _ _, ?_⟩
  have hf : ∀ x ∈ ds.reduceOption.flatMap (binds true false), x ∈ fileScope s root := by
    intro x hx
    rw [flatMap_binds_drafts hds] at hx
    obtain ⟨t, ht, hx⟩ := List.mem_flatMap.1 hx
    exact List.mem_flatMap.2 ⟨t, ht, mem_fileNames_of_topDeclared hx⟩
  have hn : ∀ n ∈ ds.reduceOption, n.isConstruct = true := by
    intro n hm
    have hc := isCompound_of_mem_drafts hds n hm
    cases n <;> first | rfl | cases hc
  rw [Env.ofFile, answersAll_out (Shows.ofFile (fileScope s root) []) (fun _ => hf) hn]
  exact congrArg (List.filterMap _)
    (sitesAll_drafts hds (v := ⟨⟨[], [], true⟩, []⟩) rfl rfl)

/-- In a file that is read, what becomes of each identifier is said at its site in the tree. One
with the blank name is resolved only where it is declared, where it is a label, a field or a method,
and as the key of a composite literal. Such a key is resolved exactly if the file declares the blank
name above it. -/
theorem blank_answers {root : Tree} {decls : List (Node Bool)}
    (h : GoFile.declarations s root = .ok decls) :
    ∃ drafts, Draft.file s root = .ok (fileScope s root, drafts) ∧
      (answersAll drafts decls).map (fun a => (a.name, a.resolved)) =
        decls.flatMap Node.identifiers ∧
      answersAll drafts decls =
        (fileSites s root).filterMap (Site.answer? (Site.judged (fileScope s root))) ∧
      (∀ a ∈ answersAll drafts decls, a.name = blank → a.resolved = true →
        a.role = .settled true ∨ a.role = .key) ∧
      (⟨blank, .key, true⟩ ∈ answersAll drafts decls ↔
        ∃ seen, Site.key blank seen ∈ fileSites s root ∧ blank ∈ seen.above) := by
  obtain ⟨drafts, hfile, hcover, hs⟩ := answers_file h
  refine ⟨drafts, hfile, hcover, hs, ?_, ?_⟩
  · rw [hs]
    intro a ha hx hr
    obtain ⟨site, -, hsite⟩ := List.mem_filterMap.1 ha
    cases site with
    | use x v =>
        cases hsite
        obtain rfl : x = blank := hx
        simp [blank] at hr
    | key x v =>
        cases hsite
        exact .inr rfl
    | settled x b =>
        cases hsite
        obtain rfl : b = true := hr
        exact .inl rfl
    | decision => cases hsite
  · rw [hs, List.mem_filterMap]
    constructor
    · rintro ⟨site, hm, hsite⟩
      cases site with
      | key x v =>
          have hx : x = blank ∧ ((x ≠ blank ∧ x ∈ v.locals) ∨ x ∈ v.above) := by
            simpa [Site.answer?, Site.waiting?, Site.judged] using hsite
          obtain ⟨rfl, ⟨hne, -⟩ | ha⟩ := hx
          · exact absurd rfl hne
          · exact ⟨v, hm, ha⟩
      | use | settled | decision => simp [Site.answer?, Site.waiting?, Site.judged] at hsite
    · rintro ⟨seen, hm, ha⟩
      refine ⟨_, hm, ?_⟩
      simp [Site.answer?, Site.waiting?, Site.judged, ha]

/-! A blank variable above a key -/

/-- A declaration of one variable by the value `value`. -/
def varOf (start stop : Nat) (value : Tree) : Tree :=
  written (.decl .varDeclaration) none start stop
    [written (.part .varSpec) none (start + 4) stop
      [letter (some .name) (start + 4),
        written (.part .expressionList) (some .value) (start + 8) stop [value]]]

/-- The literal `T{_: 2}` of the file below. -/
def blankKeyed : Tree :=
  written (.expr .compositeLiteral) none 18 25
    [written (.expr .typeIdentifier) (some .type) 18 19 [],
      written (.expr .literalValue) (some .body) 19 25
        [written (.part .keyedElement) none 20 24
          [written (.part .literalElement) (some .key) 20 21 [letter none 20],
            written (.part .literalElement) (some .value) 23 24
              [written (.expr .intLiteral) none 23 24 []]]]]

/-- The file of `var _ = 1
var x = T{_: 2}`. -/
def blankFile : Tree :=
  written (.other "source_file") none 0 25
    [varOf 0 9 (written (.expr .intLiteral) none 8 9 []), varOf 10 25 blankKeyed]

def blankSource : Source :=
  ⟨"p.go", "var _ = 1\nvar x = T\x7b_: 2\x7d".toUTF8.toList⟩

/-- The key is resolved, as if it referred to the variable. -/
theorem blank_key_resolved :
    ∃ drafts decls, Draft.file blankSource blankFile = .ok (["_", "x"], drafts) ∧
      GoFile.declarations blankSource blankFile = .ok decls ∧
      decls.flatMap Node.identifiers = [("_", true), ("x", true), ("T", false), ("_", true)] ∧
      ⟨blank, .key, true⟩ ∈ answersAll drafts decls := by
  obtain ⟨decls, h⟩ := Except.exists_eq_ok
    (x := GoFile.declarations blankSource blankFile) (by decide +kernel)
  obtain ⟨drafts, hfile, hcover, hs⟩ := answers_file h
  have hn : fileScope blankSource blankFile = ["_", "x"] := by decide +kernel
  rw [hs] at hcover
  rw [hn] at hfile
  refine ⟨drafts, decls, hfile, h, hcover.symm.trans (by decide +kernel), ?_⟩
  rw [hs]
  decide +kernel

theorem blank_answers_blankFile :
    ∃ drafts decls, GoFile.declarations blankSource blankFile = .ok decls ∧
      Draft.file blankSource blankFile = .ok (fileScope blankSource blankFile, drafts) ∧
      (∀ a ∈ answersAll drafts decls, a.name = blank → a.resolved = true →
        a.role = .settled true ∨ a.role = .key) ∧
      ∃ seen, Site.key blank seen ∈ fileSites blankSource blankFile ∧ blank ∈ seen.above ∧
        ⟨blank, .key, true⟩ ∈ answersAll drafts decls := by
  obtain ⟨decls, h⟩ := Except.exists_eq_ok
    (x := GoFile.declarations blankSource blankFile) (by decide +kernel)
  obtain ⟨drafts, hfile, -, -, ha, hk⟩ := blank_answers h
  have hm : Site.key blank ⟨[], ["_"], true⟩ ∈ fileSites blankSource blankFile := by
    decide +kernel
  exact ⟨drafts, decls, h, hfile, ha, _, hm, List.mem_singleton_self _,
    hk.2 ⟨_, hm, List.mem_singleton_self _⟩⟩

end GoMetrics
