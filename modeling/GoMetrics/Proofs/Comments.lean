import GoMetrics.Proofs.Alike.File

/-!
Comments are invisible. A tree with all comments taken out says the same as the tree itself, and so
declares the same or is refused for the same reason, at the same line. It matters how parsers hand
comments over: a comment in a slot would be taken for what belongs there.
-/

namespace GoMetrics

namespace Tree

mutual
/-- The tree without its comments; every other node is as it was. -/
def withoutComments : Tree → Tree
  | .node h cs => .node h (withoutCommentsAll cs)
def withoutCommentsAll : List Tree → List Tree
  | [] => []
  | t :: ts =>
    if t.kind = .comment then withoutCommentsAll ts
    else t.withoutComments :: withoutCommentsAll ts
end

@[simp] theorem head_withoutComments (t : Tree) : t.withoutComments.head = t.head := by
  cases t
  rw [withoutComments]
  rfl

theorem isIdle_of_kind_ne {t : Tree} (h : t.kind ≠ .comment) : t.isIdle = false := by
  simp [isIdle, h]

mutual
/-- What is left is every node but the comments, in the same order. -/
theorem preorder_withoutComments : (t : Tree) → t.kind ≠ .comment →
    (∀ c ∈ t.preorder, c.kind = .comment → c.children = []) →
      t.withoutComments.preorder.map head =
        (t.preorder.filter fun c => c.kind != .comment).map head
  | .node h cs, hk, hc => by
      rw [preorder, List.forall_mem_cons] at hc
      have hp : ((node h cs).kind != .comment) = true := bne_iff_ne.2 hk
      rw [withoutComments, preorder, preorder, List.filter_cons, if_pos hp, List.map_cons,
        List.map_cons, preorderAll_withoutComments cs hc.2]
      rfl
theorem preorderAll_withoutComments : (ts : List Tree) →
    (∀ c ∈ preorderAll ts, c.kind = .comment → c.children = []) →
      (preorderAll (withoutCommentsAll ts)).map head =
        ((preorderAll ts).filter fun c => c.kind != .comment).map head
  | [], _ => rfl
  | t :: ts, hc => by
      rw [preorderAll, List.forall_mem_append] at hc
      rw [withoutCommentsAll, preorderAll, List.filter_append, List.map_append,
        ← preorderAll_withoutComments ts hc.2]
      by_cases hk : t.kind = .comment
      · have hl := hc.1 t (self_mem_preorder t) hk
        rw [if_pos hk, preorder_eq, hl]
        simp [hk]
      · rw [if_neg hk, preorderAll, List.map_append, preorder_withoutComments t hk hc.1]
end

mutual
theorem alike_withoutComments : (t : Tree) →
    (∀ c ∈ t.preorder, c.kind = .comment → c.isIdle = true) → Alike 0 t t.withoutComments
  | .node h cs, hc => by
      rw [preorder, List.forall_mem_cons] at hc
      rw [withoutComments]
      exact .node (h := h) (alike_withoutCommentsAll cs hc.2)
theorem alike_withoutCommentsAll : (ts : List Tree) →
    (∀ c ∈ preorderAll ts, c.kind = .comment → c.isIdle = true) →
      List.Forall₂ (Alike 0) (live ts) (live (withoutCommentsAll ts))
  | [], _ => .nil
  | t :: ts, hc => by
      rw [preorderAll, List.forall_mem_append] at hc
      have ih := alike_withoutCommentsAll ts hc.2
      rw [withoutCommentsAll, live_cons]
      by_cases hk : t.kind = .comment
      · rw [if_pos hk, if_pos (hc.1 t (self_mem_preorder t) hk)]
        exact ih
      · have hk' : t.withoutComments.kind ≠ .comment := by rwa [kind, head_withoutComments]
        rw [if_neg hk, live_cons, isIdle_of_kind_ne hk, isIdle_of_kind_ne hk']
        exact .cons (alike_withoutComments t hc.1) ih
end

end Tree

namespace GoFile

open GoMetrics.Tree Lexical

theorem relocate_down_zero (n : Node Bool) : relocate (Position.down 0) n = n := by
  have hp : ∀ p : Position, p.down 0 = p := fun p => by simp [Position.down]
  cases n with
  | funcDecl => rw [relocate, hp, hp]
  | _ => rfl

/-- Taking all comments out of a file changes neither its declarations, with their positions and
their resolved names, nor the reason why it is refused. -/
theorem declarations_withoutComments (s : Source) (root : Tree)
    (h : ∀ t ∈ root.preorder, t.kind = .comment →
      t.isNamed = true ∧ t.isMissing = false ∧ t.slot = none ∧ t.children = []) :
    declarations s root.withoutComments = declarations s root := by
  have hi : ∀ t ∈ root.preorder, t.kind = .comment → t.isIdle = true :=
    fun t ht hk => isIdle_iff.2 ⟨hk, h t ht hk⟩
  have hm := matches_declarations (Source.Within.refl s) (alike_withoutComments root hi)
  refine Matches.eq (P := fun _ => True) (hm.mono fun ds ds' _ hd => ⟨?_, trivial⟩)
  rw [hd.1, List.map_congr_left fun n _ => relocate_down_zero n, List.map_id']

/-- The file of `func f(){x:=/**/x+g//
};var g=x`, with a comment inside an expression and one behind a statement. -/
def commentedFile : Tree :=
  written (.other "source_file") none 0 31
    [written .functionDeclaration none 0 23
      [letter (some .name) 5, written (.part .parameterList) (some .parameters) 6 8 [],
        written (.stmt .block) (some .body) 8 23
          [written (.stmt .shortVarDeclaration) none 9 19
            [letter (some .left) 9, written .comment none 12 16 [],
              written (.expr .binaryExpression) (some .right) 16 19
                [letter (some .left) 16, written (.other "+") (some .operator) 17 18 [],
                  letter (some .right) 18]],
            written .comment none 19 21 []]],
      written (.decl .varDeclaration) none 24 31
        [written (.part .varSpec) none 28 31 [letter (some .name) 28, letter (some .value) 30]]]

def commentedSource : Source :=
  ⟨"p.go", "func f()\x7bx:=/**/x+g//\n\x7d;var g=x".toUTF8.toList⟩

theorem declarations_withoutComments_commentedFile :
    ∃ decls, declarations commentedSource commentedFile = .ok decls ∧
      declarations commentedSource commentedFile.withoutComments = .ok decls ∧
      commentedFile.preorder.countP (·.kind == .comment) = 2 ∧
      commentedFile.withoutComments.preorder.countP (·.kind == .comment) = 0 := by
  obtain ⟨decls, hd⟩ := Except.exists_eq_ok
    (x := declarations commentedSource commentedFile) (by decide +kernel)
  have h := declarations_withoutComments commentedSource commentedFile (by decide +kernel)
  exact ⟨decls, hd, h.trans hd, by decide +kernel, by decide +kernel⟩

end GoFile
end GoMetrics
