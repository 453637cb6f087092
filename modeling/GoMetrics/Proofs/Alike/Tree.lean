import Mathlib.Data.List.Forall2
import GoMetrics.Proofs.Faults
import GoMetrics.Syntax.Draft.Expr

/-!
Trees that say the same. One of them may stand further down in a longer source than the other, and
either may have comments that the other lacks. Whatever a reading looks at in a tree, it finds the
same thing in the other: kinds and texts, the parts in their order, the children in a slot, tokens,
labels, and which of two parts comes first.
-/

namespace GoMetrics

/-- What stands at an offset of one source stands `d` bytes later in the other, `k` lines further
down and in the same column. -/
structure Source.Within (s s' : Source) (d k : Nat) : Prop where
  filename : s'.filename = s.filename
  text : ∀ a b, s'.text (a + d) (b + d) = s.text a b
  row : ∀ a, s'.row (a + d) = s.row a + k
  column : ∀ a, s'.column (a + d) = s.column a

theorem Source.Within.refl (s : Source) : s.Within s 0 0 :=
  ⟨rfl, fun _ _ => rfl, fun _ => rfl, fun _ => rfl⟩

/-- The same head, `d` bytes later. -/
def Head.later (h : Head) (d : Nat) : Head :=
  { h with start := h.start + d, stop := h.stop + d }

namespace Tree

/-- A comment as parsers hand it over: a leaf that is really there, and in no slot. -/
def isIdle (t : Tree) : Bool :=
  t.kind == .comment && t.isNamed && !t.isMissing && t.slot.isNone && t.children.isEmpty

def live (ts : List Tree) : List Tree :=
  ts.filter fun t => !t.isIdle

/-- Trees that say the same, the second `d` bytes later. Idle comments are left out of account. -/
inductive Alike (d : Nat) : Tree → Tree → Prop
  | node {h : Head} {cs cs' : List Tree} (children : List.Forall₂ (Alike d) (live cs) (live cs')) :
      Alike d (.node h cs) (.node (h.later d) cs')

mutual
theorem Alike.refl : (t : Tree) → Alike 0 t t
  | .node h cs => .node (h := h) (alike_live_refl cs)
theorem alike_live_refl : (ts : List Tree) → List.Forall₂ (Alike 0) (live ts) (live ts)
  | [] => .nil
  | t :: ts => by
      rw [live, List.filter_cons]
      split
      · exact .cons (Alike.refl t) (alike_live_refl ts)
      · exact alike_live_refl ts
end

variable {d k : Nat} {t t' : Tree}

theorem isIdle_iff : t.isIdle = true ↔
    t.kind = .comment ∧ t.isNamed = true ∧ t.isMissing = false ∧ t.slot = none ∧
      t.children = [] := by
  simp only [isIdle, Bool.and_eq_true, beq_iff_eq, Bool.not_eq_true', Option.isNone_iff_eq_none,
    List.isEmpty_iff, and_assoc]

theorem live_cons (t : Tree) (ts : List Tree) :
    live (t :: ts) = if t.isIdle then live ts else t :: live ts := by
  rw [live, List.filter_cons]
  cases t.isIdle <;> rfl

namespace Alike

theorem head (h : Alike d t t') : t'.head = t.head.later d := by
  cases h
  rfl

theorem live (h : Alike d t t') : List.Forall₂ (Alike d) (live t.children) (live t'.children) := by
  cases h with
  | node children => exact children

theorem kind (h : Alike d t t') : t'.kind = t.kind := by
  rw [Tree.kind, h.head]
  rfl

theorem start (h : Alike d t t') : t'.start = t.start + d := by
  rw [Tree.start, h.head]
  rfl

theorem stop (h : Alike d t t') : t'.stop = t.stop + d := by
  rw [Tree.stop, h.head]
  rfl

theorem isNamed (h : Alike d t t') : t'.isNamed = t.isNamed := by
  rw [Tree.isNamed, h.head]
  rfl

theorem isMissing (h : Alike d t t') : t'.isMissing = t.isMissing := by
  rw [Tree.isMissing, h.head]
  rfl

theorem isFaulty (h : Alike d t t') : t'.isFaulty = t.isFaulty := by
  rw [Tree.isFaulty, h.head]
  rfl

theorem slot (h : Alike d t t') : t'.slot = t.slot := by
  rw [Tree.slot, h.head]
  rfl

theorem textOf {s s' : Source} (hs : s.Within s' d k) (h : Alike d t t') :
    s'.textOf t' = s.textOf t := by
  rw [Source.textOf, h.start, h.stop, hs.text, Source.textOf]

theorem lineOf {s s' : Source} (hs : s.Within s' d k) (h : Alike d t t') :
    s'.lineOf t' = s.lineOf t + k := by
  rw [Source.lineOf, Source.line, h.start, hs.row, Source.lineOf, Source.line, Nat.add_right_comm]

end Alike

/-! Lists of partners -/

section Partners

variable {α β γ : Type} {R : α → β → Prop} {xs : List α} {ys : List β}

theorem rel_head? (h : List.Forall₂ R xs ys) : Option.Rel R xs.head? ys.head? := by
  cases h with
  | nil => exact .none
  | cons h _ => exact .some h

theorem rel_getLast? (h : List.Forall₂ R xs ys) : Option.Rel R xs.getLast? ys.getLast? := by
  rw [← List.head?_reverse, ← List.head?_reverse]
  exact rel_head? (List.rel_reverse h)

theorem rel_filter {p : α → Bool} {q : β → Bool} (h : List.Forall₂ R xs ys)
    (hp : ∀ a b, R a b → p a = q b) : List.Forall₂ R (xs.filter p) (ys.filter q) :=
  List.rel_filter (fun a b hr => by simp only [hp a b hr]) h

theorem rel_find? {p : α → Bool} {q : β → Bool} (h : List.Forall₂ R xs ys)
    (hp : ∀ a b, R a b → p a = q b) : Option.Rel R (xs.find? p) (ys.find? q) := by
  rw [← List.head?_filter, ← List.head?_filter]
  exact rel_head? (rel_filter h hp)

theorem isSome_eq_of_rel {o : Option α} {o' : Option β} (h : Option.Rel R o o') :
    o'.isSome = o.isSome := by
  cases h <;> rfl

theorem map_eq_of_rel {f : α → γ} {g : β → γ} {o : Option α} {o' : Option β}
    (h : Option.Rel R o o') (hf : ∀ a b, R a b → f a = g b) : o.map f = o'.map g := by
  cases h with
  | none => rfl
  | some h => exact congrArg some (hf _ _ h)

theorem map_eq_of_forall₂ {f : α → γ} {g : β → γ} (h : List.Forall₂ R xs ys)
    (hf : ∀ a b, R a b → f a = g b) : xs.map f = ys.map g := by
  induction h with
  | nil => rfl
  | cons h _ ih => rw [List.map_cons, List.map_cons, hf _ _ h, ih]

end Partners

/-! Children -/

/-- A question about a child that does not ask for its place, and that an idle comment answers with
no. -/
structure Question where
  ask : Kind → (named missing : Bool) → Option Slot → Bool
  idle : ask .comment true false none = false

namespace Question

def of (q : Question) (t : Tree) : Bool :=
  q.ask t.kind t.isNamed t.isMissing t.slot

theorem of_idle (q : Question) (h : t.isIdle = true) : q.of t = false := by
  obtain ⟨hk, hn, hm, hs, -⟩ := isIdle_iff.1 h
  rw [of, hk, hn, hm, hs, q.idle]

theorem of_alike (q : Question) (h : Alike d t t') : q.of t = q.of t' := by
  rw [of, of, h.kind, h.isNamed, h.isMissing, h.slot]

theorem filter_live (q : Question) (ts : List Tree) : (live ts).filter q.of = ts.filter q.of := by
  rw [live, List.filter_filter]
  refine List.filter_congr fun c _ => ?_
  cases hc : c.isIdle with
  | true => simp [q.of_idle hc]
  | false => simp

end Question

/-- Trees below two others, alike. -/
def Alike.Below (d : Nat) (c : Tree.Below t) (c' : Tree.Below t') : Prop :=
  Alike d c.1 c'.1

theorem map_val_filter_kids (p : Tree → Bool) (t : Tree) :
    (t.kids.filter fun c => p c.1).map (·.val) = t.children.filter p := by
  rw [← map_val_kids t, List.filter_map]
  rfl

namespace Alike

theorem filter_children (h : Alike d t t') (q : Question) :
    List.Forall₂ (Alike d) (t.children.filter q.of) (t'.children.filter q.of) := by
  rw [← q.filter_live t.children, ← q.filter_live t'.children]
  exact rel_filter h.live fun c c' hc => q.of_alike hc

theorem filter_kids (h : Alike d t t') (q : Question) :
    List.Forall₂ (Below d) (t.kids.filter fun c => q.of c.1)
      (t'.kids.filter fun c => q.of c.1) := by
  have hf := h.filter_children q
  rw [← map_val_filter_kids, ← map_val_filter_kids, List.forall₂_map_left_iff,
    List.forall₂_map_right_iff] at hf
  exact hf

theorem find?_children (h : Alike d t t') (q : Question) :
    Option.Rel (Alike d) (t.children.find? q.of) (t'.children.find? q.of) := by
  rw [← List.head?_filter, ← List.head?_filter]
  exact rel_head? (h.filter_children q)

theorem parts (h : Alike d t t') : List.Forall₂ (Below d) t.parts t'.parts :=
  h.filter_kids ⟨fun k named _ _ => named && k != .comment, rfl⟩

theorem allAt (h : Alike d t t') (p : Slot) : List.Forall₂ (Below d) (t.allAt p) (t'.allAt p) :=
  h.filter_kids ⟨fun _ _ _ slot => slot == some p, rfl⟩

theorem at? (h : Alike d t t') (p : Slot) : Option.Rel (Below d) (t.at? p) (t'.at? p) := by
  rw [Tree.at?, Tree.at?, ← List.head?_filter, ← List.head?_filter]
  exact rel_head? (h.allAt p)

theorem hasToken (h : Alike d t t') (text : String) : t'.hasToken text = t.hasToken text := by
  have hf := h.find?_children
    ⟨fun k named missing _ => k == .other text && !named && !missing, rfl⟩
  rw [Tree.hasToken, Tree.hasToken, ← List.isSome_find?, ← List.isSome_find?]
  exact isSome_eq_of_rel hf

theorem chanDir (h : Alike d t t') : Draft.chanDir t' = Draft.chanDir t := by
  have hf := h.filter_children ⟨fun _ named _ _ => !named, rfl⟩
  have hk : (t.children.filter fun c => !c.isNamed).map Tree.kind =
      (t'.children.filter fun c => !c.isNamed).map Tree.kind :=
    map_eq_of_forall₂ hf fun c c' hc => hc.kind.symm
  rw [Draft.chanDir, Draft.chanDir, hk]

theorem specs (h : Alike d t t') : List.Forall₂ (Below d) t.specs t'.specs := by
  refine List.rel_flatMap h.parts fun c c' hc => ?_
  rw [Alike.kind hc]
  split
  · rw [List.forall₂_map_left_iff, List.forall₂_map_right_iff]
    exact Alike.parts hc
  · exact .cons hc .nil

theorem group (h : Alike d t t') : Alike d t.group t'.group := by
  have hf := rel_find? (p := fun c => c.1.kind.isSpecList) (q := fun c => c.1.kind.isSpecList)
    h.parts fun c c' hc => by rw [Alike.kind hc]
  unfold Tree.group
  generalize t.parts.find? _ = o, t'.parts.find? _ = o' at hf
  cases hf with
  | none => exact h
  | some hc => exact hc

/-! Descending -/

/-- What carries over from the live children to the node carries over to the whole tree. -/
theorem live_induction {P : Tree → Tree → Prop}
    (step : ∀ {t t' : Tree}, Alike d t t' →
      List.Forall₂ (fun c c' => Alike d c c' ∧ P c c') (Tree.live t.children)
        (Tree.live t'.children) → P t t')
    {t t' : Tree} (h : Alike d t t') : P t t' := by
  have hc : ∀ c ∈ Tree.live t.children, ∀ c', Alike d c c' → P c c' := by
    intro c hc c' h'
    have := size_lt_of_mem (List.mem_of_mem_filter hc)
    exact live_induction step h'
  refine step h ?_
  exact ((List.forall₂_and_left _ _).2 ⟨fun c hc => hc, h.live⟩).imp fun c c' hp =>
    ⟨hp.2, hc c hp.1 c' hp.2⟩
termination_by t.size

end Alike

/-! Labels -/

theorem labels?_of_isIdle (s : Source) (h : t.isIdle = true) : s.labels? t = some [] := by
  obtain ⟨hk, -, -, -, hc⟩ := isIdle_iff.1 h
  cases t with
  | node head cs =>
      change head.kind = .comment at hk
      change cs = [] at hc
      rw [Source.labels?, hk, hc]
      rfl

theorem labelsAll?_live (s : Source) (ts : List Tree) :
    s.labelsAll? (live ts) = s.labelsAll? ts := by
  induction ts with
  | nil => rfl
  | cons t ts ih =>
      rw [live_cons]
      split
      · rw [ih, Source.labelsAll?, labels?_of_isIdle s ‹_›]
        cases s.labelsAll? ts <;> simp
      · rw [Source.labelsAll?, Source.labelsAll?, ih]

theorem labelsAll?_eq {s s' : Source} {ts ts' : List Tree}
    (h : List.Forall₂ (fun c c' => Alike d c c' ∧ s'.labels? c' = s.labels? c) ts ts') :
    s'.labelsAll? ts' = s.labelsAll? ts := by
  induction h with
  | nil => rfl
  | cons hc _ ih => rw [Source.labelsAll?, Source.labelsAll?, hc.1.isNamed, hc.1.kind, hc.2, ih]

theorem labels?_eq (s : Source) (t : Tree) :
    s.labels? t = do
      let own ← if t.kind.isLabeled then
          (t.children.find? (·.slot == some .label)).map fun c => [s.textOf c]
        else some []
      return own ++ (← s.labelsAll? (live t.children)) := by
  cases t with
  | node head cs =>
      rw [Source.labels?, labelsAll?_live]
      rfl

theorem Alike.labels? {s s' : Source} (hs : s.Within s' d k) (h : Alike d t t') :
    s'.labels? t' = s.labels? t := by
  refine h.live_induction (P := fun t t' => s'.labels? t' = s.labels? t) ?_
  intro t t' h ih
  have hlab : (t'.children.find? (·.slot == some .label)).map (fun c => [s'.textOf c]) =
      (t.children.find? (·.slot == some .label)).map fun c => [s.textOf c] :=
    (map_eq_of_rel (h.find?_children ⟨fun _ _ _ slot => slot == some .label, rfl⟩)
      fun c c' hc => by rw [hc.textOf hs]).symm
  rw [labels?_eq, labels?_eq, h.kind, hlab, labelsAll?_eq ih]

/-! Where a syntax error is reported -/

/-- The faults of a tree, in order. -/
def faults (t : Tree) : List Tree :=
  t.preorder.filter isFault

theorem faults_of_isIdle (h : t.isIdle = true) : t.faults = [] := by
  obtain ⟨hk, -, hm, -, hc⟩ := isIdle_iff.1 h
  rw [faults, preorder_eq, hc]
  simp [isFault, hk, hm]

theorem flatMap_faults_live (ts : List Tree) : (live ts).flatMap faults = ts.flatMap faults := by
  induction ts with
  | nil => rfl
  | cons t ts ih =>
      rw [live_cons, List.flatMap_cons]
      split
      · rw [ih, faults_of_isIdle ‹_›, List.nil_append]
      · rw [List.flatMap_cons, ih]

theorem faults_eq (t : Tree) :
    t.faults = [t].filter isFault ++ (live t.children).flatMap faults := by
  rw [flatMap_faults_live, faults, preorder_eq, ← List.singleton_append, List.filter_append,
    List.filter_flatMap]
  rfl

theorem Alike.faults (h : Alike d t t') : List.Forall₂ (Alike d) t.faults t'.faults := by
  refine h.live_induction (P := fun t t' => List.Forall₂ (Alike d) t.faults t'.faults) ?_
  intro t t' h ih
  rw [faults_eq, faults_eq]
  refine List.rel_append (rel_filter (.cons h .nil) fun c c' hc => ?_)
    (List.rel_flatMap ih fun c c' hc => hc.2)
  rw [isFault, isFault, hc.kind, hc.isMissing]

theorem Alike.faultSite (h : Alike d t t') : Alike d t.faultSite t'.faultSite := by
  have hf := rel_head? h.faults
  rw [Tree.faults, Tree.faults, List.head?_filter, List.head?_filter] at hf
  rw [faultSite_eq, faultSite_eq]
  generalize t.preorder.find? isFault = o, t'.preorder.find? isFault = o' at hf
  cases hf with
  | none => exact h
  | some hc => exact hc

end Tree
end GoMetrics
