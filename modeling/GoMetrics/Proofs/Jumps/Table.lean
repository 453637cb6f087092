import GoMetrics.Proofs.Alike.Tree
import GoMetrics.Proofs.Draft.Exprs
import GoMetrics.Proofs.Lexical.Picks
import GoMetrics.Proofs.Walk

/-!
Jumps with labels. A label belongs to a function: to the innermost one around the jump. `jumps`
lists the jumps of a tree, each with its function, along the table of visits, and `Gathers` says
that drafts have the jumps of certain visits. What the lemmas here pass on from the parts of a
construct to the construct does not depend on scopes, so that nearly all constructs are alike.
-/

namespace GoMetrics

namespace Tree

/-- Whether a node is named and no function literal. -/
def isOpen (t : Tree) : Bool :=
  t.isNamed && t.kind != .expr .funcLiteral

/-- The nodes of a body that belong to its function: what is come to through named children without
entering a function literal. -/
def owned (t : Tree) : List Tree :=
  t :: (t.kids.filter fun c => c.1.isOpen).flatMap fun c => owned c.1
termination_by t.size
decreasing_by exact c.2

/-- The label that a node declares. -/
def labelText? (s : Source) (t : Tree) : Option String :=
  if t.kind.isLabeled then (t.at? .label).map fun c => s.textOf c.1 else none

/-- The labels that a function declares. -/
def ownLabels (s : Source) (t : Tree) : List String :=
  (t.at? .body).toList.flatMap fun body => body.1.owned.filterMap (labelText? s)

theorem owned_eq (t : Tree) : t.owned = t :: (t.children.filter isOpen).flatMap owned := by
  rw [owned, ← map_val_filter_kids, List.flatMap_map]

theorem labelText?_eq (s : Source) (t : Tree) :
    t.labelText? s = if t.kind.isLabeled then
      (t.children.find? (·.slot == some .label)).map s.textOf else none := by
  rw [labelText?, ← map_val_kids, List.find?_map, Option.map_map]
  rfl

theorem labels_of_labelsAll? {s : Source} {ts : List Tree} {ls : List String}
    (ih : ∀ c ∈ ts, ∀ ls, s.labels? c = some ls → c.owned.filterMap (labelText? s) = ls)
    (h : s.labelsAll? ts = some ls) :
    ((ts.filter isOpen).flatMap owned).filterMap (labelText? s) = ls := by
  induction ts generalizing ls with
  | nil =>
      cases h
      rfl
  | cons c ts ihs =>
      rw [List.forall_mem_cons] at ih
      rw [Source.labelsAll?] at h
      change (if c.isOpen = true then _ else _) = _ at h
      rw [List.filter_cons]
      split at h
      · obtain ⟨first, hf, h⟩ := Option.bind_eq_some_iff.1 h
        obtain ⟨rest, hr, h⟩ := Option.bind_eq_some_iff.1 h
        cases h
        rw [if_pos ‹_›, List.flatMap_cons, List.filterMap_append, ih.1 first hf, ihs ih.2 hr]
      · obtain ⟨_, hf, h⟩ := Option.bind_eq_some_iff.1 h
        obtain ⟨rest, hr, h⟩ := Option.bind_eq_some_iff.1 h
        cases hf
        cases h
        rw [if_neg ‹_›, ihs ih.2 hr]
        rfl

/-- Where no label is lacking, the labels of a body are those that its nodes declare. -/
theorem labels_of_labels? {s : Source} (t : Tree) (ls : List String) (h : s.labels? t = some ls) :
    t.owned.filterMap (labelText? s) = ls := by
  have ih : ∀ c ∈ t.children, ∀ ls, s.labels? c = some ls →
      c.owned.filterMap (labelText? s) = ls := by
    intro c hc
    have := size_lt_of_mem hc
    exact labels_of_labels? c
  have hown : ∀ {o : Option (List String)}, o >>= (fun own => do
      return own ++ (← s.labelsAll? t.children)) = some ls →
      (∀ own, o = some own → [t].filterMap (labelText? s) = own) →
        t.owned.filterMap (labelText? s) = ls := by
    intro o h hown
    obtain ⟨own, ho, h⟩ := Option.bind_eq_some_iff.1 h
    obtain ⟨rest, hr, h⟩ := Option.bind_eq_some_iff.1 h
    cases h
    rw [owned_eq, ← List.singleton_append, List.filterMap_append, hown own ho,
      labels_of_labelsAll? ih hr]
  rw [labels?_eq, labelsAll?_live] at h
  dsimp only at h
  split at h
  all_goals
    refine hown h fun own ho => ?_
    rw [List.filterMap_cons, labelText?_eq]
  · obtain ⟨c, hc, rfl⟩ := Option.map_eq_some_iff.1 ho
    rw [if_pos ‹_›, hc]
    rfl
  · cases ho
    rw [if_neg ‹_›]
    rfl
termination_by t.size

end Tree

namespace Node

variable {ι : Type}

/-- The label of a jump. -/
def label? : Node ι → Option (Node ι)
  | .branch _ label => label
  | _ => none

/-- The labels of the jumps in a construct, in the order of a walk. -/
def labels (n : Node ι) : List (Node ι) :=
  n.gather fun c => c.label?.toList

theorem labels_eq {n : Node ι} (h : n.isConstruct = true) :
    n.labels = n.label?.toList ++ n.places.flatMap labels :=
  gather_eq _ n h

/-- Whether a construct has the jumps of its places and no other. -/
def isStill : Node ι → Bool
  | .branch .. | .position .. | .file .. | .package .. => false
  | _ => true

theorem labels_of_isStill {n : Node ι} (h : n.isStill = true) :
    n.labels = n.places.flatMap labels := by
  cases n <;> first | exact labels_eq rfl | cases h

theorem labels_branch (tok : String) (label : Option (Node ι)) :
    (branch tok label).labels = label.toList ++ label.toList.flatMap labels :=
  labels_eq rfl

theorem labels_ident (x : String) (i : ι) : (ident x i).labels = [] :=
  labels_of_isStill rfl

end Node

namespace Lexical

open Draft

/-- A jump with a label. -/
structure Jump where
  label : Tree
  /-- The function around it. -/
  function : Option Tree

/-- The labels in force in a function; outside all functions there are none. -/
def labelsIn (s : Source) (f : Option Tree) : List String :=
  f.elim [] (Tree.ownLabels s)

/-- The label of a jump as a draft. -/
def Jump.draft (s : Source) (j : Jump) : Node Role :=
  .ident (s.textOf j.label) (.settled ((labelsIn s j.function).contains (s.textOf j.label)))

/-- Whether a node is read as a function. Where a block is expected, whatever stands there is read
as a block. -/
def opens (m : Mode) (t : Tree) : Bool :=
  match m.on t.kind, t.kind with
  | .func, _ | .expr, .expr .funcLiteral => true
  | _, _ => false

/-- The label that a node jumps to. -/
def jumpsTo? (m : Mode) (t : Tree) : Option Tree :=
  match m.on t.kind, t.kind with
  | .stmt, .stmt .breakStatement | .stmt, .stmt .continueStatement | .stmt, .stmt .gotoStatement
  | .stmt, .stmt .fallthroughStatement =>
    (t.parts.find? (·.1.kind == .expr .labelName)).map (·.1)
  | _, _ => none

/-- The jumps with labels in a tree, in the order of the finished construct. -/
def jumps (s : Source) (m : Mode) (t : Tree) (f : Option Tree) : List Jump :=
  (jumpsTo? m t).toList.map (Jump.mk · f) ++ (visits s m t nowhere).flatMap fun c =>
    jumps s c.mode c.part.1 (if opens m t then some t else f)
termination_by t.size
decreasing_by exact c.part.2

def Pick.jumps (s : Source) (f : Option Tree) {t : Tree} (p : Pick t) : List Jump :=
  Lexical.jumps s p.mode p.part.1 f

variable {s : Source} {f : Option Tree} {t : Tree}

theorem labelsIn_of_bodyLabels {own : List String} (h : bodyLabels s t = .ok own) :
    own = labelsIn s (some t) := by
  change own = t.ownLabels s
  unfold Tree.ownLabels
  obtain ⟨hb, rfl⟩ | ⟨body, hb, hl⟩ := bodyLabels_eq_ok.1 h
  · rw [hb]
    rfl
  · rw [hb, Option.toList_some, List.flatMap_singleton, Tree.labels_of_labels? _ _ hl]

theorem jumps_eq (m : Mode) (t : Tree) (f : Option Tree) :
    jumps s m t f = (jumpsTo? m t).toList.map (Jump.mk · f) ++ ((visits s m t nowhere).map Visit.pick).flatMap
      (Pick.jumps s (if opens m t then some t else f)) := by
  rw [jumps, List.flatMap_map]
  rfl

theorem jumps_congr {m m' : Mode} (h : m.on t.kind = m'.on t.kind) :
    jumps s m t f = jumps s m' t f := by
  rw [jumps_eq, jumps_eq]
  unfold jumpsTo? opens visits
  rw [h]

theorem jumps_text (role : Role) : jumps s (.text role) t f = [] := by
  rw [jumps_eq]
  rfl

theorem jumps_labelName (h : t.kind = .expr .labelName) : jumps s .expr t f = [] := by
  rw [jumps_eq, jumpsTo?, visits, exprVisits, h]
  rfl

/-- Drafts that have the jumps of the parts `ps` in the function `f`. -/
def Gathers (s : Source) (f : Option Tree) (ns : List (Node Role)) (ps : List (Pick t)) : Prop :=
  ns.flatMap Node.labels = (ps.flatMap (Pick.jumps s f)).map (Jump.draft s)

/-- Drafts that have the jumps of a tree. -/
def GathersAt (s : Source) (f : Option Tree) (m : Mode) (t : Tree) (ns : List (Node Role)) : Prop :=
  ns.flatMap Node.labels = (jumps s m t f).map (Jump.draft s)

theorem GathersAt.congr {m m' : Mode} {ns : List (Node Role)} (h : GathersAt s f m' t ns)
    (hm : m.on t.kind = m'.on t.kind) : GathersAt s f m t ns :=
  h.trans (congrArg (List.map (Jump.draft s)) (jumps_congr hm).symm)

theorem GathersAt.still {m : Mode} {n : Node Role} (hn : n.isStill = true)
    (h : GathersAt s f m t n.places) : GathersAt s f m t [n] := by
  rw [GathersAt, List.flatMap_singleton, Node.labels_of_isStill hn, h]

/-- A construct around a single other one. -/
theorem GathersAt.wrap {m : Mode} {n x : Node Role} (h : GathersAt s f m t [x])
    (hn : n.isStill = true) (hp : n.places = [x] := by rfl) : GathersAt s f m t [n] :=
  .still hn (hp ▸ h)

namespace Gathers

variable {m : Mode} {ps qs : List (Pick t)} {ms ns : List (Node Role)}

theorem nil : Gathers s f (t := t) [] [] :=
  rfl

theorem append (hm : Gathers s f ms ps) (hn : Gathers s f ns qs) :
    Gathers s f (ms ++ ns) (ps ++ qs) := by
  rw [Gathers, List.flatMap_append, List.flatMap_append, List.map_append, hm, hn]

/-- Trees that are each read as any number of drafts. -/
theorem flatten {cs : List (Tree.Below t)} {nss : List (List (Node Role))}
    (h : List.Forall₂ (fun c ns => GathersAt s f m c.1 ns) cs nss) :
    Gathers s f nss.flatten (cs.map (Pick.mk m)) := by
  induction h with
  | nil => exact nil
  | @cons c ns cs nss hc _ ih =>
      have hc : Gathers s f ns [Pick.mk m c] := by
        rw [Gathers, List.flatMap_singleton]
        exact hc
      exact hc.append ih

theorem each {cs : List (Tree.Below t)}
    (h : List.Forall₂ (fun c n => GathersAt s f m c.1 [n]) cs ns) :
    Gathers s f ns (cs.map (Pick.mk m)) := by
  have hf : List.Forall₂ (fun c ns => GathersAt s f m c.1 ns) cs (ns.map fun n => [n]) :=
    List.forall₂_map_right_iff.2 h
  have hn : (ns.map fun n => [n]).flatten = ns := by
    rw [← List.flatMap_def, List.flatMap_singleton']
  rw [← hn]
  exact flatten hf

theorem one {o : Option (Tree.Below t)} {c : Tree.Below t} (hc : o = some c)
    (h : GathersAt s f m c.1 ns) : Gathers s f ns (o.toList.map (Pick.mk m)) := by
  subst hc
  have hf := flatten (.cons h .nil)
  rwa [List.flatten_cons, List.flatten_nil, List.append_nil] at hf

/-- Names have no jumps. -/
theorem names {role : Role} (hn : ∀ n ∈ ns, n.labels = []) (cs : List (Tree.Below t)) :
    Gathers s f ns (cs.map (Pick.mk (.text role))) := by
  have hj : (cs.map (Pick.mk (.text role))).flatMap (Pick.jumps s f) = [] := by
    simp [Pick.jumps, jumps_text, List.flatMap_map]
  rw [Gathers, hj, List.flatMap_eq_nil_iff.2 hn]
  rfl

theorem still {n : Node Role} (hn : n.isStill = true) (h : Gathers s f n.places ps) :
    Gathers s f [n] ps := by
  rw [Gathers, List.flatMap_singleton, Node.labels_of_isStill hn, h]

/-- A field is read like its names and its type. -/
theorem field {names : List (Node Role)} {type : Node Role} (hn : Gathers s f names ps)
    (ht : Gathers s f [type] qs) : Gathers s f [.field names (some type)] (ps ++ qs) :=
  still rfl (hn.append ht)

/-- A node that is no jump is read like its parts in the function that it opens, if it opens one. -/
theorem readsIn {g : Option Tree} (h : Gathers s g ns ps) (hj : jumpsTo? m t = none)
    (hg : (if opens m t then some t else f) = g)
    (hv : (visits s m t nowhere).map Visit.pick = ps) : GathersAt s f m t ns := by
  rw [GathersAt, jumps_eq, hj, hg, hv]
  exact h

/-- A node that is neither a jump nor a function is read like its parts. -/
theorem reads (h : Gathers s f ns ps) (hj : jumpsTo? m t = none) (ho : opens m t = false)
    (hv : (visits s m t nowhere).map Visit.pick = ps) : GathersAt s f m t ns :=
  h.readsIn hj (by rw [ho, if_neg Bool.false_ne_true]) hv

end Gathers
end Lexical
end GoMetrics
