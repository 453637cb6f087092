import GoMetrics.Proofs.Alike.File

/-!
Files further down. When whole lines are put in front of a source and its tree is moved by as many
bytes, everything that is read keeps its text, its column and its place among the rest. So the file
declares the same, or is refused for the same reason, and only line numbers grow. A function keeps
its symbols, its decisions and its lines.
-/

namespace GoMetrics

namespace Source

/-- The source behind some bytes. -/
def behind (s : Source) (p : List UInt8) : Source :=
  { s with bytes := p ++ s.bytes }

variable (s : Source) (p : List UInt8)

theorem slice_behind (a b : Nat) :
    (s.behind p).slice (a + p.length) (b + p.length) = s.slice a b := by
  rw [slice, slice, Nat.add_sub_add_right, behind, Nat.add_comm a, List.drop_length_add_append]

theorem take_behind (a : Nat) :
    (s.behind p).bytes.take (a + p.length) = p ++ s.bytes.take a := by
  rw [behind, Nat.add_comm a, List.take_length_add_append]

theorem row_behind (a : Nat) : (s.behind p).row (a + p.length) = s.row a + p.count newline := by
  rw [row, take_behind, List.count_append, row, Nat.add_comm]

/-- A line that begins in the source begins there also behind whole lines: none of them reaches
into it. -/
theorem lineStart_behind (hp : p = [] ∨ p.getLast? = some newline) (a : Nat) :
    (s.behind p).lineStart (a + p.length) = s.lineStart a + p.length := by
  have hend : p.reverse.takeWhile (· != newline) = [] := by
    obtain rfl | hl := hp
    · rfl
    · obtain ⟨q, rfl⟩ := List.getLast?_eq_some_iff.1 hl
      simp
  have hw : ((p ++ s.bytes.take a).reverse.takeWhile (· != newline)).length =
      ((s.bytes.take a).reverse.takeWhile (· != newline)).length := by
    rw [List.reverse_append, List.takeWhile_append, hend, List.append_nil]
    split <;> simp_all
  have hle := (List.takeWhile_prefix (· != newline)
    (l := (s.bytes.take a).reverse)).length_le
  rw [List.length_reverse] at hle
  simp only [lineStart]
  rw [take_behind, hw, List.length_append]
  omega

theorem column_behind (hp : p = [] ∨ p.getLast? = some newline) (a : Nat) :
    (s.behind p).column (a + p.length) = s.column a := by
  rw [column, lineStart_behind s p hp, column, Nat.add_sub_add_right]

theorem within_behind (hp : p = [] ∨ p.getLast? = some newline) :
    s.Within (s.behind p) p.length (p.count newline) where
  filename := rfl
  text a b := by rw [text, slice_behind, text]
  row := s.row_behind p
  column := s.column_behind p hp

end Source

namespace Tree

mutual
/-- The tree with every node `d` bytes later. -/
def later (d : Nat) : Tree → Tree
  | .node h cs => .node (h.later d) (laterAll d cs)
def laterAll (d : Nat) : List Tree → List Tree
  | [] => []
  | t :: ts => t.later d :: laterAll d ts
end

theorem isIdle_later (d : Nat) (t : Tree) : (t.later d).isIdle = t.isIdle := by
  cases t with
  | node h cs => cases cs <;> rfl

mutual
theorem alike_later (d : Nat) : (t : Tree) → Alike d t (t.later d)
  | .node _ cs => .node (alike_laterAll d cs)
theorem alike_laterAll (d : Nat) :
    (ts : List Tree) → List.Forall₂ (Alike d) (live ts) (live (laterAll d ts))
  | [] => .nil
  | t :: ts => by
      rw [laterAll, live_cons, live_cons, isIdle_later]
      split
      · exact alike_laterAll d ts
      · exact .cons (alike_later d t) (alike_laterAll d ts)
end

end Tree

/-! Functions at another place -/

open Lexical

variable (g : Position → Position)

theorem Node.cyclomatic_relocate (n : Node Bool) : (relocate g n).cyclomatic = n.cyclomatic := by
  have hd : (relocate g n).decides = n.decides := by cases n <;> rfl
  have hc : (relocate g n).children = n.children := by cases n <;> rfl
  rw [cyclomatic, cyclomatic, walk_eq, walk_eq n, hc, List.countP_cons, List.countP_cons, hd]

theorem Node.classify_relocate (n : Node Bool) : (relocate g n).classify = n.classify := by
  cases n with
  | funcDecl => rw [relocate, classify, classify, symbols, symbols]
  | _ => rfl

/-- A function with its first and its last place moved. -/
def Func.relocate (f : Func) : Func :=
  { f with pos := g f.pos, stop := g f.stop }

theorem Func.node_relocate (f : Func) : (f.relocate g).node = Lexical.relocate g f.node :=
  rfl

theorem Node.func?_relocate (n : Node Bool) :
    (Lexical.relocate g n).func? = n.func?.map (Func.relocate g) := by
  cases n <;> rfl

theorem Func.lines_down (k : Nat) (f : Func) : (f.relocate (Position.down k)).lines = f.lines := by
  simp only [lines, relocate, Position.down]
  omega

/-- The same fault, `k` lines further down. -/
def Fault.down (k : Nat) : Fault → Fault
  | .refused why line => .refused why (line + k)
  | .lacks what => .lacks what

/-- Outcomes that match are equal but for the lines. -/
theorem Matches.eq_down {k : Nat} {α β : Type} {f : α → β} {x : Except Fault α}
    {y : Except Fault β} (h : Matches k (fun a b => b = f a) x y) :
    y = (x.map f).mapError (Fault.down k) := by
  cases h with
  | ok h =>
      rw [h]
      rfl
  | refused | lacks => rfl

namespace GoFile

open Source

/-- A file behind whole lines declares the same, that many lines further down and in the same
columns, or is refused for the same reason that many lines further down. No function is counted or
measured differently for it. -/
theorem declarations_behind (s : Source) (root : Tree) (p : List UInt8)
    (hp : p = [] ∨ p.getLast? = some newline) :
    declarations (s.behind p) (root.later p.length) =
        ((declarations s root).map
          (List.map (relocate (Position.down (p.count newline))))).mapError
            (Fault.down (p.count newline)) ∧
      ∀ ds ds', declarations s root = .ok ds →
        declarations (s.behind p) (root.later p.length) = .ok ds' →
          List.Forall₂ (fun f f' : Func => f'.node.classify = f.node.classify ∧
              f'.node.cyclomatic = f.node.cyclomatic ∧ f'.lines = f.lines)
            (ds.filterMap Node.func?) (ds'.filterMap Node.func?) := by
  have hm := matches_declarations (s.within_behind p hp) (Tree.alike_later p.length root)
  have he := (hm.mono fun _ _ _ hd => hd.1).eq_down
  refine ⟨he, fun ds ds' hds hds' => ?_⟩
  rw [hds, hds'] at he
  have hd : ds' = ds.map (relocate (Position.down (p.count newline))) := Except.ok.inj he
  have hf : ds'.filterMap Node.func? =
      (ds.filterMap Node.func?).map (Func.relocate (Position.down (p.count newline))) := by
    rw [hd, List.filterMap_map, List.map_filterMap]
    exact List.filterMap_congr fun n _ => Node.func?_relocate _ n
  rw [hf, List.forall₂_map_right_iff, List.forall₂_same]
  intro f _
  rw [Func.node_relocate]
  exact ⟨Node.classify_relocate _ _, Node.cyclomatic_relocate _ _, Func.lines_down _ f⟩

/-- A comment and an empty line. -/
def twoLines : List UInt8 :=
  "//\n\n".toUTF8.toList

/-- The function of `letterFile` is on the first line; behind two lines it is on the third. -/
theorem declarations_behind_twoLines :
    ∃ ds, declarations letterSource letterFile = .ok ds ∧
      declarations (letterSource.behind twoLines) (letterFile.later twoLines.length) =
        .ok (ds.map (relocate (Position.down (twoLines.count newline)))) ∧
      (ds.filterMap Node.func?).map Func.pos = [⟨"p.go", 1, 1⟩] ∧
      ((ds.map (relocate (Position.down (twoLines.count newline)))).filterMap Node.func?).map
        Func.pos = [⟨"p.go", 3, 1⟩] := by
  have hpos : ∀ {x : Except Fault (List (Node Bool))} {ds : List (Node Bool)}, x = .ok ds →
      x.toOption.map (fun ds => (ds.filterMap Node.func?).map Func.pos) =
        some ((ds.filterMap Node.func?).map Func.pos) := by
    rintro _ ds rfl
    rfl
  obtain ⟨ds, hd⟩ := Except.exists_eq_ok
    (x := declarations letterSource letterFile) (by decide +kernel)
  have h := (declarations_behind letterSource letterFile twoLines (.inr (by decide +kernel))).1
  rw [hd] at h
  refine ⟨ds, hd, h, Option.some.inj ((hpos hd).symm.trans ?_),
    Option.some.inj ((hpos h).symm.trans ?_)⟩
  · decide +kernel
  · decide +kernel

end GoFile
end GoMetrics
