import GoMetrics.Proofs.Lexical.File

/-!
Lexical visibility in a file. An identifier is resolved exactly if its name is in force where it
stands, by the table of visits: a name of the file, wherever it is declared, or a name that the
constructs around the place have declared before it.
-/

namespace GoMetrics

namespace Node

/-- An identifier with its resolution. -/
def ident? : Node Bool → Option (String × Bool)
  | .ident x resolved => some (x, resolved)
  | _ => none

/-- The identifiers of a construct in the order of a walk. -/
def identifiers (n : Node Bool) : List (String × Bool) :=
  n.walk.filterMap ident?

theorem identifiers_eq_filterMap_marks {n : Node Bool} (h : n.isConstruct = true) :
    n.identifiers = n.marks.filterMap id := by
  have hown : ∀ m : Node Bool, m.ownMarks.filterMap id = m.ident?.toList := by
    intro m
    cases m <;> try rfl
    rename_i op _
    cases ho : Operator.isLogical op <;> simp [ownMarks, decides, ident?, ho]
  rw [identifiers, marks, gather, if_pos h, List.filterMap_flatMap,
    List.filterMap_eq_flatMap_toList]
  exact congrArg n.walk.flatMap (funext fun m => (hown m).symm)

end Node

namespace Lexical

open Draft Binding

variable {s : Source}

theorem isCompound_of_decl {t : Tree} {n : Node Role} (h : decl s t = .ok (some n)) :
    n.isCompound = true := by
  obtain ⟨-, n', hn, hs⟩ | ⟨k, -, n', hn, hs⟩ | ⟨-, hs⟩ := decl_eq_ok.1 h
  · cases hs
    obtain ⟨_, -, _, -, _, -, _, -, _, -, rfl⟩ := funcDecl_eq_ok.1 hn
    rfl
  · cases hs
    obtain ⟨_, -, rfl⟩ := genDecl_eq_ok.1 hn
    rfl
  · cases hs

theorem isCompound_of_mem_drafts {ts : List Tree} {ds : List (Option (Node Role))}
    (h : List.Forall₂ (fun t d => decl s t = .ok d) ts ds) :
    ∀ n ∈ ds.reduceOption, n.isCompound = true := by
  induction h with
  | nil => nofun
  | @cons t d ts ds hd _ ih =>
      cases d with
      | none => exact ih
      | some n => exact List.forall_mem_cons.2 ⟨isCompound_of_decl hd, ih⟩

/-- The nodes of a file in turn, each seeing the names above it. -/
theorem marks_top {file : List String} {ts : List Tree} {ds : List (Option (Node Role))}
    (h : List.Forall₂ (fun t d => decl s t = .ok d) ts ds)
    (hf : ∀ x ∈ ts.flatMap (fileNames s), x ∈ file) {e : Env} {v : Context}
    (hs : Shows file e v.toVisible) (hl : v.labels = []) (ht : v.top = true) :
    (outAll ds.reduceOption e).flatMap Node.marks =
      (topSites s ts v).map (Site.judged file) := by
  induction h generalizing e v with
  | nil => rfl
  | @cons t d ts ds hd _ ih =>
      simp only [List.flatMap_cons, List.mem_append] at hf
      have hd' := run_top hd (fun x hx => hf x (.inl hx)) hs hl ht
      have hs' : Shows file (afterAll d.toList e) (v.declare (topDeclared s t)).toVisible := by
        rw [hd'.1]
        exact hs.declares _ fun _ x hx => hf x (.inl (mem_fileNames_of_topDeclared hx))
      rw [reduceOption_cons, outAll_append, List.flatMap_append, hd'.2,
        ih (fun x hx => hf x (.inr hx)) hs' hl (by simpa using ht), topSites, List.map_append]

/-- Every identifier of a file is resolved exactly if its name is in force where it stands. -/
theorem declarations_identifiers {root : Tree} {decls : List (Node Bool)}
    (h : GoFile.declarations s root = .ok decls) :
    (∃ drafts, Draft.file s root = .ok (fileScope s root, drafts)) ∧
      decls.flatMap Node.identifiers =
        (fileSites s root).filterMap (Site.judged (fileScope s root)) := by
  obtain ⟨ds, hds, hfile, rfl⟩ := declarations_eq_ok h
  refine ⟨⟨_, hfile⟩, ?_⟩
  have hm := marks_top hds (fun _ hx => hx) (Shows.ofFile (fileScope s root) [])
    (v := ⟨⟨[], [], true⟩, []⟩) rfl rfl
  have hi : ∀ n ∈ outAll ds.reduceOption (.ofFile (fileScope s root)),
      n.identifiers = n.marks.filterMap id :=
    fun n hn => Node.identifiers_eq_filterMap_marks
      (isConstruct_of_mem_outAll (isCompound_of_mem_drafts hds) _ n hn)
  calc (outAll ds.reduceOption (.ofFile (fileScope s root))).flatMap Node.identifiers
      = (outAll ds.reduceOption (.ofFile (fileScope s root))).flatMap
          fun n => n.marks.filterMap id := List.flatMap_congr hi
    _ = ((outAll ds.reduceOption (.ofFile (fileScope s root))).flatMap Node.marks).filterMap id :=
        List.filterMap_flatMap.symm
    _ = ((fileSites s root).map (Site.judged (fileScope s root))).filterMap id :=
        congrArg (List.filterMap id) hm
    _ = (fileSites s root).filterMap (Site.judged (fileScope s root)) := List.filterMap_map

/-- A node that the grammar names, without a syntax error. -/
def written (k : Kind) (slot : Option Slot) (start stop : Nat) (parts : List Tree) : Tree :=
  .node ⟨k, start, stop, true, false, false, slot⟩ parts

/-- An identifier of one letter. -/
def letter (slot : Option Slot) (start : Nat) : Tree :=
  written (.expr .identifier) slot start (start + 1) []

/-- A function of the file `func f(){x:=x+g};var g=x`. -/
def letterFunc : Tree :=
  written .functionDeclaration none 0 16
    [letter (some .name) 5, written (.part .parameterList) (some .parameters) 6 8 [],
      written (.stmt .block) (some .body) 8 16
        [written (.stmt .shortVarDeclaration) none 9 15
          [letter (some .left) 9,
            written (.expr .binaryExpression) (some .right) 12 15
              [letter (some .left) 12, written (.other "+") (some .operator) 13 14 [],
                letter (some .right) 14]]]]

def letterFile : Tree :=
  written (.other "source_file") none 0 24
    [letterFunc,
      written (.decl .varDeclaration) none 17 24
        [written (.part .varSpec) none 21 24 [letter (some .name) 21, letter (some .value) 23]]]

def letterSource : Source :=
  ⟨"p.go", "func f(){x:=x+g};var g=x".toUTF8.toList⟩

/-- The variable is not in force to the right of its own declaration nor behind the function, and
the name of the file is in force before it is declared. -/
theorem declarations_identifiers_letterFile :
    ∃ decls, GoFile.declarations letterSource letterFile = .ok decls ∧
      decls.flatMap Node.identifiers =
        [("f", true), ("x", true), ("x", false), ("g", true), ("g", true), ("x", false)] := by
  obtain ⟨decls, h⟩ := Except.exists_eq_ok
    (x := GoFile.declarations letterSource letterFile) (by decide +kernel)
  refine ⟨decls, h, (declarations_identifiers h).2.trans ?_⟩
  decide +kernel

end Lexical
end GoMetrics
