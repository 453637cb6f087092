import GoMetrics.Loading
import GoMetrics.Proofs.Refusals.Stmts

/-!
Why a file is refused. If the root of its tree carries the error flag, it is refused for a syntax
error at the first fault in the tree. If not, its declarations are read, and the fault is one of
what lies inside: a refusal names a node and its kind, and never is it for a syntax error, whatever
nodes there are.
-/

namespace GoMetrics

namespace Draft

open GoMetrics.Tree

variable {s : Source} {root t : Tree} {r : Readers t}

theorem Blaming.receiver (h : Blaming s root r) (ls : List String) :
    Blamed s root (Draft.receiver s ls r) := by
  unfold Draft.receiver
  split
  · split
    · exact .ok _
    · rename_i c hc
      exact ((h.under (h.at? hc)).params ls).map some
  · exact .ok _

theorem Blaming.funcDecl (h : Blaming s root r) : Blamed s root (Draft.funcDecl s r) := by
  refine (blamed_slotText .name).bind fun name _ => ?_
  refine blamed_bodyLabels.bind fun ls _ => ?_
  refine (h.receiver ls).bind fun recv _ => ?_
  refine (h.signature ls true).bind fun type _ => ?_
  refine Blamed.bind ?_ fun _ _ => .ok _
  exact .option fun c hc => (h.under (h.at? hc)).block ls

theorem blamed_decl (ht : t ∈ root.preorder) : Blamed s root (decl s t) := by
  have h := blaming (s := s) ht
  unfold decl
  cases hk : t.kind with
  | functionDeclaration | methodDeclaration => exact h.funcDecl.map some
  | decl k => exact (h.genDecl [] k).map some
  | part p =>
      cases p with
      | packageClause | importDeclaration => exact .ok _
      | _ => exact blamed_refuse ht (.topLevel (by rw [hk]; rfl))
  | _ => exact blamed_refuse ht (.topLevel (by rw [hk]; rfl))

theorem blamed_fileNames : Blamed s root (fileNames s t) := by
  unfold fileNames
  split
  · exact (blamed_slotText .name).bind fun _ _ => .ok _
  · exact .ok _
  · exact .ok _

/-- A file without the flag fails only for faults inside its tree. -/
theorem blamed_file (hr : root.isFaulty = false) : Blamed s root (file s root) := by
  have hpart : ∀ c ∈ root.parts, c.1 ∈ root.preorder := fun c hc =>
    mem_preorder_of_mem_children (self_mem_preorder root) (mem_children_of_mem_parts hc)
  unfold file
  rw [hr]
  refine Blamed.bind (.mapM fun c _ => blamed_fileNames) fun names _ => ?_
  refine Blamed.bind (.mapM fun c hc => blamed_decl (hpart c hc)) fun decls _ => ?_
  exact .ok _

theorem file_of_isFaulty (hr : root.isFaulty = true) :
    file s root = .error (.refused .syntaxError (s.lineOf root.faultSite)) := by
  rw [file, if_pos hr]
  rfl

end Draft

/-- A refusal that is due to a kind says so in its first two letters. -/
theorem Refusal.DueTo.message_eq {k : Kind} {why : Refusal} (h : why.DueTo k) :
    ∃ rest, why.message = "un" ++ rest := by
  have split (verb : String) : "un" ++ verb ++ k.name = "un" ++ (verb ++ k.name) :=
    String.append_assoc
  cases h with
  | topLevel => exact ⟨_, split "expected top-level "⟩
  | expression => exact ⟨_, split "supported expression "⟩
  | statement => exact ⟨_, split "supported statement "⟩
  | declaration => exact ⟨_, split "supported declaration "⟩

/-- So it does not read as a syntax error. -/
theorem Refusal.DueTo.message_ne {k : Kind} {why : Refusal} (h : why.DueTo k)
    (more text : String) : why.message ++ more ≠ "syntax error" ++ text := by
  obtain ⟨rest, hrest⟩ := h.message_eq
  intro he
  have hl := congrArg String.toList he
  rw [hrest] at hl
  simp at hl

namespace GoFile

open Draft

variable {s : Source} {root : Tree}

/-- The declarations of a file, or what the user is told instead. -/
def told (s : Source) (root : Tree) : Except Failure (List (Node Bool)) :=
  (declarations s root).mapError fun why => (ReadError.fault why).failure s.filename

theorem told_eq_error {f : Failure} : told s root = .error f ↔
    ∃ why, declarations s root = .error why ∧ (ReadError.fault why).failure s.filename = f := by
  unfold told
  cases declarations s root <;> simp [Except.mapError]

theorem declarations_of_isFaulty (hr : root.isFaulty = true) :
    declarations s root = .error (.refused .syntaxError (s.lineOf root.faultSite)) := by
  rw [declarations, file_of_isFaulty hr]
  rfl

/-- Whatever a file without the flag is refused for is in its tree. -/
theorem within_of_declarations (hr : root.isFaulty = false) {why : Fault}
    (h : declarations s root = .error why) : why.Within s root := by
  have hb : Blamed s root (declarations s root) := (blamed_file hr).bind fun _ _ => .ok _
  exact hb why h

/-- A file whose root carries the flag is refused for a syntax error at the line of the first fault
in its tree, tokens included, or of the root if there is no fault. No other file is told to have a
syntax error. -/
theorem syntaxError_reported (s : Source) (root : Tree) :
    (root.isFaulty = true → ∃ site, root.ReportedAt site ∧
      told s root = .error (.complaint (.parsing s.filename "go"
        ("syntax error at line " ++ toString (s.row site.start + 1))))) ∧
    (root.isFaulty = false → ∀ path language text,
      told s root ≠ .error (.complaint (.parsing path language ("syntax error" ++ text)))) := by
  refine ⟨fun hr => ⟨root.faultSite, root.reportedAt_faultSite, ?_⟩, fun hr path language text => ?_⟩
  · exact told_eq_error.2 ⟨_, declarations_of_isFaulty hr, rfl⟩
  · intro h
    obtain ⟨why, hd, hw⟩ := told_eq_error.1 h
    cases within_of_declarations hr hd with
    | lacks what => cases hw
    | @refused n why inside due =>
        have hreason := (Complaint.parsing.inj (Failure.complaint.inj hw)).2.2
        rw [String.append_assoc] at hreason
        exact due.message_ne _ _ hreason

/-- The file of `package p`, `func f( {`, `}` and `)`. The parenthesis of the parameters is missing,
and the one at the end is an error. -/
def brokenFile (faulty : Bool) : Tree :=
  let part (k : Kind) (slot : Option Slot) (start stop : Nat) (below : List Tree) : Tree :=
    .node ⟨k, start, stop, true, false, false, slot⟩ below
  .node ⟨.other "source_file", 0, 24, true, false, faulty, none⟩
    [part (.part .packageClause) none 0 9 [part (.expr .packageIdentifier) none 8 9 []],
      part .functionDeclaration none 10 21
        [part (.expr .identifier) (some .name) 15 16 [],
          part (.part .parameterList) (some .parameters) 16 17
            [.node ⟨.other ")", 17, 17, false, true, false, none⟩ []],
          part (.stmt .block) (some .body) 18 21 []],
      part .error none 22 23 []]

def brokenSource : Source :=
  ⟨"p.go", "package p\nfunc f( \x7b\n\x7d\n)\n".toUTF8.toList⟩

/-- The missing parenthesis is the first fault, though the error stands higher up in the tree.
Without the flag the function is read, and the error is told to be where it should not be. -/
theorem syntaxError_reported_brokenFile :
    ((brokenFile true).isFaulty = true ∧
      told brokenSource (brokenFile true) =
        .error (.complaint (.parsing "p.go" "go" "syntax error at line 2"))) ∧
    (brokenFile false).isFaulty = false ∧
      told brokenSource (brokenFile false) =
        .error (.complaint (.parsing "p.go" "go" "unexpected top-level ERROR at line 4")) ∧
      ∀ path language text, told brokenSource (brokenFile false) ≠
        .error (.complaint (.parsing path language ("syntax error" ++ text))) := by
  obtain ⟨site, hsite, h⟩ := (syntaxError_reported brokenSource (brokenFile true)).1 rfl
  rw [Tree.reportedAt_iff] at hsite
  subst hsite
  refine ⟨⟨rfl, h.trans ?_⟩, rfl, ?_, (syntaxError_reported brokenSource (brokenFile false)).2 rfl⟩
  · with_unfolding_all rfl
  · with_unfolding_all rfl

end GoFile
end GoMetrics
