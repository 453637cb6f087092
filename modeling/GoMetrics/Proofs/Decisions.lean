import Mathlib.Algebra.BigOperators.Ring.List
import Mathlib.Algebra.Ring.Nat
import GoMetrics.Proofs.FilePass
import GoMetrics.Proofs.Lexical.Picks

/-!
Decisions of a function, counted in its parse tree and in the finished construct. If every part of
every node that is read is selected once, and decisions stand where a reading looks for them, then
none is lost on the way and none is counted twice.
-/

namespace GoMetrics.Lexical

open Draft Binding

variable (s : Source)

/-- The decisions at or below a node. -/
def decisions (t : Tree) : Nat :=
  t.preorder.countP (decides s)

/-- Modes that look at what kind of node they have. -/
def Mode.looks : Mode → Bool
  | .expr | .stmt | .clause | .commClause => true
  | _ => false

/-- Every part of a node is selected once; what is read for its text holds no decision. -/
structure Picked (m : Mode) (t : Tree) : Prop where
  once : readsText m t.kind = false →
    (((picks s m t).map (·.part.1)).filter isPart).Perm (t.children.filter isPart)
  text : readsText m t.kind = true → decisions s t = 0

/-- Decisions stand where they are looked for. -/
structure InPlace (m : Mode) (t : Tree) : Prop where
  /-- No decision hides in a comment or a token. -/
  extras : ∀ c ∈ t.children, isPart c = false → decisions s c = 0
  /-- No decision stands for a block, a list, a parameter or a field. -/
  looks : decides s t = true → (m.on t.kind).looks = true
  /-- No decision stands where a range loop has no room. -/
  room : ∀ declares, m.on t.kind = .loopTargets declares →
    ∀ c ∈ t.parts.drop 2, decisions s c.1 = 0

/-- Every part of every node of a function is selected once. -/
def Covered (t : Tree) : Prop :=
  ∀ p ∈ passed s .func t, Picked s p.1 p.2

def Regular (t : Tree) : Prop :=
  ∀ p ∈ passed s .func t, InPlace s p.1 p.2

mutual
def decTree : (t u : Tree) → Decidable (t = u)
  | .node h cs, .node h' cs' =>
    match decEq h h', decTrees cs cs' with
    | isTrue a, isTrue b => isTrue (a ▸ b ▸ rfl)
    | isFalse a, _ => isFalse fun e => a (Tree.node.inj e).1
    | _, isFalse b => isFalse fun e => b (Tree.node.inj e).2
def decTrees : (ts us : List Tree) → Decidable (ts = us)
  | [], [] => isTrue rfl
  | [], _ :: _ => isFalse nofun
  | _ :: _, [] => isFalse nofun
  | t :: ts, u :: us =>
    match decTree t u, decTrees ts us with
    | isTrue a, isTrue b => isTrue (a ▸ b ▸ rfl)
    | isFalse a, _ => isFalse fun e => a (List.cons.inj e).1
    | _, isFalse b => isFalse fun e => b (List.cons.inj e).2
end

instance : DecidableEq Tree := decTree

instance (m : Mode) (t : Tree) : Decidable (Picked s m t) :=
  decidable_of_iff (_ ∧ _) ⟨fun h => ⟨h.1, h.2⟩, fun h => ⟨h.once, h.text⟩⟩

instance (m : Mode) (t : Tree) : Decidable (InPlace s m t) :=
  decidable_of_iff (_ ∧ _ ∧ _)
    ⟨fun h => ⟨h.1, h.2.1, h.2.2⟩, fun h => ⟨h.extras, h.looks, h.room⟩⟩

instance (t : Tree) : Decidable (Covered s t) :=
  inferInstanceAs (Decidable (∀ p ∈ passed s .func t, Picked s p.1 p.2))

instance (t : Tree) : Decidable (Regular s t) :=
  inferInstanceAs (Decidable (∀ p ∈ passed s .func t, InPlace s p.1 p.2))

variable {s} {t : Tree}

/-! Counting in the tree -/

theorem decisions_eq (t : Tree) :
    decisions s t = (if decides s t then 1 else 0) + (t.children.map (decisions s)).sum := by
  have hall : ∀ ts, (Tree.preorderAll ts).countP (decides s) = (ts.map (decisions s)).sum := by
    intro ts
    induction ts with
    | nil => rfl
    | cons t ts ih =>
        rw [Tree.preorderAll, List.countP_append, ih, List.map_cons, List.sum_cons, decisions]
  obtain ⟨head, cs⟩ := t
  rw [decisions, Tree.preorder, List.countP_cons, hall, Nat.add_comm]
  rfl

theorem decisions_eq_zero_iff :
    decisions s t = 0 ↔ decides s t = false ∧ ∀ c ∈ t.children, decisions s c = 0 := by
  rw [decisions_eq, Nat.add_eq_zero_iff, List.sum_eq_zero_iff_forall_eq_nat]
  cases decides s t <;> simp

/-! Counting in what is read -/

/-- The decisions that a reading of a node finds. -/
def weight (s : Source) (m : Mode) (t : Tree) : Nat :=
  (sites s m t nowhere).count .decision

theorem count_leaf (m : Mode) (t : Tree) (v : Context) :
    (leaf s m t v).count .decision =
      if (m.on t.kind).looks = true ∧ decides s t = true then 1 else 0 := by
  have own : ∀ b : Bool, (if b then [Site.decision] else []).count .decision =
      if b = true then 1 else 0 := by
    intro b
    cases b <;> rfl
  cases hm : m.on t.kind with
  | text role => cases role <;> simp [leaf, hm, Mode.looks, Site.ofRole]
  | expr =>
      -- Labels and blanks are measured as identifiers, and are no decisions.
      rw [leaf, hm]
      by_cases hl : t.kind = .expr .labelName
      · simp [hl, decides]
      · by_cases hb : t.kind = .expr .blankIdentifier
        · simp [hb, decides]
        · simp [own, Mode.looks]
  | stmt | clause | commClause => simp [leaf, hm, own, Mode.looks]
  | _ => simp [leaf, hm, Mode.looks]

def Pick.weight (s : Source) (p : Pick t) : Nat :=
  Lexical.weight s p.mode p.part.1

/-- The number of decisions does not depend on the names in force. -/
theorem count_sites (m : Mode) (t : Tree) (v : Context) :
    (sites s m t v).count .decision = weight s m t := by
  have hc : ∀ v' : Context, ((visits s m t v').map fun c => (c.sites s).count .decision) =
      ((visits s m t v').map Visit.pick).map (Pick.weight s) := by
    intro v'
    rw [List.map_map]
    exact List.map_congr_left fun c _ => count_sites c.mode c.part.1 c.seen
  rw [weight, sites_eq, sites_eq, List.count_append, List.count_append, List.count_flatMap,
    List.count_flatMap, count_leaf, count_leaf]
  change _ + ((visits s m t v).map fun c => (c.sites s).count .decision).sum =
    _ + ((visits s m t nowhere).map fun c => (c.sites s).count .decision).sum
  rw [hc v, hc nowhere, map_pick_visits]
termination_by t.size
decreasing_by exact c.part.2

theorem weight_eq_visits (m : Mode) (t : Tree) (v : Context) :
    weight s m t = (if (m.on t.kind).looks = true ∧ decides s t = true then 1 else 0) +
      (((visits s m t v).map Visit.pick).map (Pick.weight s)).sum := by
  rw [← count_sites m t v, sites_eq, List.count_append, count_leaf, List.count_flatMap,
    List.map_map]
  congr 2
  exact List.map_congr_left fun c _ => count_sites c.mode c.part.1 c.seen

/-- A loop reads its header through: the header is one of its parts all the same. -/
theorem sum_loopVisits (t : Tree) (v : Context) :
    (((loopVisits s t v).map Visit.pick).map (Pick.weight s)).sum =
      (((header? t).toList.map (Pick.mk .header) ++
        (t.at? .body).toList.map (Pick.mk .block)).map (Pick.weight s)).sum := by
  unfold loopVisits
  cases hh : header? t with
  | none => simp only [map_pick_one, Option.toList_none, List.map_nil, List.nil_append]
  | some header =>
      by_cases hr : header.1.kind = .part .rangeClause
      · have hm : Mode.header.on header.1.kind = .header := by
          rw [hr]
          rfl
        have hw : weight s .header header.1 =
            (((header.1.at? .right).toList.map (Pick.mk .expr)).map (Pick.weight s)).sum +
              (((header.1.at? .left).toList.map
                (Pick.mk (.loopTargets (header.1.hasToken ":=")))).map (Pick.weight s)).sum := by
          rw [weight_eq_visits .header header.1 nowhere, visits, hm]
          simp only [hr, Mode.looks, Bool.false_eq_true, false_and, if_false, Nat.zero_add,
            List.map_append, map_pick_one, List.sum_append_nat]
        have htrans : ∀ m (o : Option (Tree.Below header.1)),
            (((o.map header.trans).toList.map (Pick.mk m)).map (Pick.weight s)).sum =
              ((o.toList.map (Pick.mk m)).map (Pick.weight s)).sum := by
          intro m o
          cases o <;> rfl
        simp only [hr, if_true, List.map_append, map_pick_one, List.sum_append_nat, htrans,
          Option.toList_some, List.map_cons, List.map_nil, List.sum_cons, List.sum_nil, Pick.weight,
          hw]
        omega
      · simp only [hr, if_false, List.map_append, map_pick_one, List.sum_append_nat,
          Nat.add_comm]

theorem weight_eq (m : Mode) (t : Tree) :
    weight s m t = (if (m.on t.kind).looks = true ∧ decides s t = true then 1 else 0) +
      ((kept s m t).map (Pick.weight s)).sum := by
  rw [weight_eq_visits m t nowhere]
  congr 1
  unfold kept
  split
  · rename_i hm hk
    rw [visits, hm]
    simp only [stmtVisits, hk]
    exact sum_loopVisits t _
  · rfl

/-- Where there is no decision, none is found. -/
theorem weight_eq_zero (m : Mode) (t : Tree) (h : decisions s t = 0) : weight s m t = 0 := by
  obtain ⟨hd, hc⟩ := decisions_eq_zero_iff.1 h
  have hk : ((kept s m t).map (Pick.weight s)).sum = 0 := by
    rw [List.sum_eq_zero_iff_forall_eq_nat, List.forall_mem_map]
    exact fun p hp => weight_eq_zero p.mode p.part.1 (hc _ (near_kept m t p hp))
  rw [weight_eq, hk, hd]
  simp
termination_by t.size
decreasing_by exact p.part.2

/-! Agreement -/

theorem sum_filter_isPart {ts : List Tree} (h : ∀ c ∈ ts, isPart c = false → decisions s c = 0) :
    ((ts.filter isPart).map (decisions s)).sum = (ts.map (decisions s)).sum := by
  induction ts with
  | nil => rfl
  | cons c ts ih =>
      rw [List.forall_mem_cons] at h
      cases hc : isPart c with
      | true => simp [hc, ih h.2]
      | false => simp [hc, ih h.2, h.1 hc]

/-- What is dropped is read for its text, or had no room. -/
theorem mode_of_mem_dropped {m : Mode} {p : Pick t} (h : p ∈ dropped m t) :
    (∃ role, p.mode = .text role) ∨
      ∃ declares, m.on t.kind = .loopTargets declares ∧ p.part ∈ t.parts.drop 2 := by
  have text : ∀ {role} {cs : List (Tree.Below t)}, p ∈ cs.map (Pick.mk (.text role)) →
      ∃ role, p.mode = .text role := by
    intro role cs hp
    obtain ⟨_, _, rfl⟩ := List.mem_map.1 hp
    exact ⟨role, rfl⟩
  unfold dropped at h
  split at h
  all_goals first
    | exact .inl (text h)
    | cases h
    | skip
  rename_i declares hm
  obtain ⟨c, hc, rfl⟩ := List.mem_map.1 h
  exact .inr ⟨declares, hm, hc⟩

/-- The parts that are selected hold all the decisions below a node. -/
theorem sum_picks {m : Mode} (hp : Picked s m t) (hi : InPlace s m t)
    (ht : readsText m t.kind = false) :
    ((picks s m t).map fun p => decisions s p.part.1).sum = (t.children.map (decisions s)).sum := by
  have hnear : ∀ c ∈ (picks s m t).map (·.part.1), isPart c = false → decisions s c = 0 := by
    intro c hc
    obtain ⟨p, hp, rfl⟩ := List.mem_map.1 hc
    exact hi.extras _ (near_append.2 ⟨near_kept m t, near_dropped m t⟩ p hp)
  calc ((picks s m t).map fun p => decisions s p.part.1).sum
      = (((picks s m t).map (·.part.1)).map (decisions s)).sum := by rw [List.map_map]; rfl
    _ = ((((picks s m t).map (·.part.1)).filter isPart).map (decisions s)).sum :=
        (sum_filter_isPart hnear).symm
    _ = ((t.children.filter isPart).map (decisions s)).sum := ((hp.once ht).map _).sum_nat
    _ = (t.children.map (decisions s)).sum := sum_filter_isPart hi.extras

/-- What is dropped holds no decision. -/
theorem sum_dropped {m : Mode} (h : ∀ p ∈ passed s m t, Picked s p.1 p.2)
    (hi : InPlace s m t) : ((dropped m t).map fun p => decisions s p.part.1).sum = 0 := by
  rw [List.sum_eq_zero_iff_forall_eq_nat, List.forall_mem_map]
  intro p hp
  obtain ⟨role, hr⟩ | ⟨declares, hl, hc⟩ := mode_of_mem_dropped hp
  · have hmem := mem_passed_of_mem_picks (s := s) (List.mem_append_right _ hp)
      (self_mem_passed p.mode p.part.1)
    exact (h _ hmem).text (by rw [hr]; rfl)
  · exact hi.room declares hl p.part hc

/-- A reading finds all the decisions of a tree, each of them once. -/
theorem weight_eq_decisions {m : Mode} {t : Tree} (h : ∀ p ∈ passed s m t, Picked s p.1 p.2)
    (h' : ∀ p ∈ passed s m t, InPlace s p.1 p.2) : weight s m t = decisions s t := by
  have hp := h _ (self_mem_passed m t)
  have hi := h' _ (self_mem_passed m t)
  cases ht : readsText m t.kind with
  | true => rw [hp.text ht, weight_eq_zero m t (hp.text ht)]
  | false =>
      have hkept : (kept s m t).map (Pick.weight s) =
          (kept s m t).map fun p => decisions s p.part.1 := by
        refine List.map_congr_left fun p hmem => ?_
        have hm : p ∈ picks s m t := List.mem_append_left _ hmem
        exact weight_eq_decisions (fun q hq => h q (mem_passed_of_mem_picks hm hq))
          fun q hq => h' q (mem_passed_of_mem_picks hm hq)
      have hown : (if (m.on t.kind).looks = true ∧ decides s t = true then 1 else 0) =
          if decides s t = true then 1 else 0 := by
        cases hd : decides s t with
        | true => simp [hi.looks hd]
        | false => simp
      have hsum := sum_picks hp hi ht
      rw [picks, List.map_append, List.sum_append_nat, sum_dropped h hi, Nat.add_zero] at hsum
      rw [weight_eq, hown, hkept, hsum, decisions_eq]
termination_by t.size
decreasing_by exact p.part.2

/-! Complexity -/

theorem count_ownMarks (ns : List (Node Bool)) :
    (ns.flatMap Node.ownMarks).count none = ns.countP Node.decides := by
  induction ns with
  | nil => rfl
  | cons n ns ih =>
      have hn : n.ownMarks.count none = if n.decides then 1 else 0 := by
        cases n <;> try rfl
        rename_i op _
        cases ho : Operator.isLogical op <;> simp [Node.ownMarks, Node.decides, ho]
      rw [List.flatMap_cons, List.count_append, ih, hn, List.countP_cons, Nat.add_comm]

theorem count_judged (file : List String) (xs : List Site) :
    (xs.map (Site.judged file)).count none = xs.count .decision := by
  induction xs with
  | nil => rfl
  | cons x xs ih => cases x <;> simp [Site.judged, ih]

/-- The complexity of a function is one more than the decisions in its tree, provided that each
part is selected once and decisions stand where they are looked for. -/
theorem cyclomatic_eq_decisions {root : Tree} {front back : List Tree} {decls : List (Node Bool)}
    (h : GoFile.declarations s root = .ok decls) (hp : fileParts root = front ++ t :: back)
    (hk : t.kind = .functionDeclaration ∨ t.kind = .methodDeclaration)
    (hc : Covered s t) (hr : Regular s t) :
    ∃ ds d ds', decls = ds ++ d :: ds' ∧
      alone s (fileScope s root) (namesAbove s front) t = .ok (some d) ∧
      d.cyclomatic = 1 + decisions s t := by
  obtain ⟨ds, n, ds', _, hn, _, rfl⟩ := declarations_cut hp hk h
  refine ⟨_, _, _, rfl, by rw [alone, hn]; rfl, ?_⟩
  have hm : topMode t = .func := by
    unfold topMode
    obtain hk | hk := hk <;> rw [hk]
  have hf : ∀ x ∈ fileNames s t, x ∈ fileScope s root := by
    intro x hx
    rw [fileScope, hp]
    exact List.mem_flatMap.2 ⟨t, by simp, hx⟩
  let v : Context := ⟨⟨[], namesAbove s front, true⟩, []⟩
  have hs : Shows (fileScope s root) (fresh (fileScope s root) (namesAbove s front))
      v.toVisible := Shows.ofFile _ _
  have hmarks := (run_top hn hf hs rfl rfl).2
  have hshape := (shape_out false (isCompound_of_decl hn)
    (fresh (fileScope s root) (namesAbove s front))).1
  rw [Option.toList_some, outAll_cons, outAll_nil, List.flatMap_singleton, hm] at hmarks
  rw [Node.cyclomatic, ← count_ownMarks, Nat.add_comm]
  congr 1
  rw [Node.marks, Node.gather, if_pos hshape] at hmarks
  rw [hmarks, count_judged, count_sites, weight_eq_decisions hc hr]

def loopSource : Source :=
  ⟨"p.go", "func f(){for a,b,c[x&&y]=range z{}}".toUTF8.toList⟩

/-- The target `c[x&&y]`. -/
def testedTarget : Tree :=
  written (.expr .indexExpression) none 17 24
    [letter (some .operand) 17,
      written (.expr .binaryExpression) (some .index) 19 23
        [letter (some .left) 19,
          .node ⟨.other "&&", 20, 22, false, false, false, some .operator⟩ [],
          letter (some .right) 22]]

/-- A function with the given body. -/
def funcOf (body : Tree) : Tree :=
  written .functionDeclaration none 0 35
    [letter (some .name) 5, written (.part .parameterList) (some .parameters) 6 8 [], body]

def fileOf (t : Tree) : Tree :=
  written (.other "source_file") none 0 35 [t]

/-- A body that loops over a range with the given targets. -/
def loopBody (targets : List Tree) : Tree :=
  written (.stmt .block) (some .body) 8 35
    [written (.stmt .forStatement) none 9 34
      [written (.part .rangeClause) none 13 32
        [written (.part .expressionList) (some .left) 13 24 targets, letter (some .right) 31],
        written (.stmt .block) (some .body) 32 34 []]]

/-- The loop and the operator in its second target. -/
theorem cyclomatic_eq_decisions_loopBody :
    ∃ ds d ds', GoFile.declarations loopSource
        (fileOf (funcOf (loopBody [letter none 13, testedTarget]))) = .ok (ds ++ d :: ds') ∧
      d.cyclomatic = 3 := by
  let t := funcOf (loopBody [letter none 13, testedTarget])
  have hp : fileParts (fileOf t) = [] ++ t :: [] := rfl
  obtain ⟨decls, h⟩ := Except.exists_eq_ok
    (x := GoFile.declarations loopSource (fileOf t)) (by decide +kernel)
  obtain ⟨ds, d, ds', rfl, _, hd⟩ :=
    cyclomatic_eq_decisions h hp (.inl rfl) (by decide +kernel) (by decide +kernel)
  have hc : decisions loopSource t = 2 := by decide +kernel
  exact ⟨ds, d, ds', h, by rw [hd, hc]⟩

/-- A body with a decision that is not found, though each part of the function is selected once. -/
def Loses (body : Tree) : Prop :=
  Covered loopSource (funcOf body) ∧
    (GoFile.declarations loopSource (fileOf (funcOf body))).toOption.map
      (·.map Node.cyclomatic) = some [decisions loopSource (funcOf body)]

/-- A range loop with a third target, a body that is a branch itself, and a branch in a comment. -/
theorem loses_decisions :
    Loses (loopBody [letter none 13, letter none 15, testedTarget]) ∧
      Loses (written (.stmt .ifStatement) (some .body) 8 35 []) ∧
      Loses (written (.stmt .block) (some .body) 8 35
        [written .comment none 9 34 [written (.stmt .ifStatement) none 9 34 []]]) := by
  refine ⟨⟨?_, ?_⟩, ⟨?_, ?_⟩, ⟨?_, ?_⟩⟩ <;> decide +kernel

end GoMetrics.Lexical
