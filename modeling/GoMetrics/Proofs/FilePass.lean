import Mathlib.Data.List.Infix
import Mathlib.Data.List.ReduceOption
import GoMetrics.Proofs.Lexical.Visibility

/-!
Reading a file one top-level node at a time. The pass over a file carries an environment from node
to node. What a node leaves behind is known in advance: no scope and no label, and of the names only
those that it puts above what follows. So each node can be read alone, from an environment that is
made up of the names of the file and of the names above the node.
-/

namespace GoMetrics.Lexical

open Draft Binding

variable {s : Source}

/-- The file-level names that the nodes before a place declare. -/
def namesAbove (s : Source) (before : List Tree) : List String :=
  ((before.flatMap (topDeclared s)).filter (· != "init")).foldl (fun above x => above.insert x) []

/-- A fresh environment at file level. -/
def fresh (file above : List String) : Env :=
  ⟨Scope.root.declareAll file, above⟩

/-- A top-level node read by itself, without what was read before it. -/
def alone (s : Source) (file above : List String) (t : Tree) :
    Except Fault (Option (Node Bool)) :=
  Option.map (out false · (fresh file above)) <$> decl s t

/-! The environment between two nodes -/

/-- Declaring a name of the file only puts it above. -/
theorem declares_fresh {file : List String} (above : List String) {names : List String}
    (h : ∀ x ∈ names, x ∈ file) :
    (fresh file above).declares names =
      fresh file ((names.filter (· != "init")).foldl (fun above x => above.insert x) above) := by
  induction names generalizing above with
  | nil => rfl
  | cons x xs ih =>
      rw [List.forall_mem_cons] at h
      have hx : (fresh file above).declare x = (fresh file above).reach x :=
        (Shows.ofFile file above).declare_eq_reach rfl h.1
      have hr : (fresh file above).scope.isRoot = true := Scope.isRoot_declareAll Scope.root file
      change ((fresh file above).declare x).declares xs = _
      rw [hx, Env.reach, hr]
      by_cases hi : x = "init"
      · simpa [hi] using ih above h.2
      · simp only [List.filter_cons, bne_iff_ne.2 hi]
        exact ih (above.insert x) h.2

theorem declares_fresh_namesAbove {file : List String} (before : List Tree) {t : Tree}
    (h : ∀ x ∈ fileNames s t, x ∈ file) :
    (fresh file (namesAbove s before)).declares (topDeclared s t) =
      fresh file (namesAbove s (before ++ [t])) := by
  rw [declares_fresh _ fun x hx => h x (mem_fileNames_of_topDeclared hx)]
  simp [namesAbove]

/-- One step of the pass: a node is read as it would be alone, and the next node finds a fresh
environment again. -/
theorem step_top {file : List String} (before : List Tree) {t : Tree} {d : Option (Node Role)}
    (h : decl s t = .ok d) (hf : ∀ x ∈ fileNames s t, x ∈ file) :
    alone s file (namesAbove s before) t =
        .ok (d.map (out false · (fresh file (namesAbove s before)))) ∧
      afterAll d.toList (fresh file (namesAbove s before)) =
        fresh file (namesAbove s (before ++ [t])) := by
  refine ⟨by rw [alone, h]; rfl, ?_⟩
  have hs := Shows.ofFile file (namesAbove s before)
  rw [← declares_fresh_namesAbove before hf]
  exact (run_top (v := ⟨⟨[], namesAbove s before, true⟩, []⟩) h hf hs rfl rfl).1

/-! The whole pass -/

/-- Each node with the nodes before it. -/
def withBefore (ts : List Tree) : List (Tree × List Tree) :=
  ts.zip ts.inits

theorem withBefore_cons (t : Tree) (ts : List Tree) :
    withBefore (t :: ts) = (t, []) :: (withBefore ts).map fun p => (p.1, t :: p.2) := by
  simp only [withBefore, List.inits_cons, List.zip_cons_cons, List.zip_map_right]
  rfl

theorem withBefore_append (ts us : List Tree) :
    withBefore (ts ++ us) = withBefore ts ++ (withBefore us).map fun p => (p.1, ts ++ p.2) := by
  induction ts with
  | nil => exact (List.map_id _).symm
  | cons t ts ih =>
      rw [List.cons_append, withBefore_cons, withBefore_cons, ih, List.map_append, List.map_map]
      rfl

theorem mapM_withBefore_cons {α : Type} (f : Tree × List Tree → Except Fault α) (t : Tree)
    (ts : List Tree) :
    (withBefore (t :: ts)).mapM f = (do
      let a ← f (t, [])
      let as ← (withBefore ts).mapM fun p => f (p.1, t :: p.2)
      return a :: as) := by
  rw [withBefore_cons, List.mapM_cons, List.mapM_map]
  rfl

/-- The nodes of a file read one by one give what the pass gives, and fail where it fails. -/
theorem mapM_alone {file : List String} (before : List Tree) {ts : List Tree}
    (hf : ∀ x ∈ ts.flatMap (fileNames s), x ∈ file) :
    List.reduceOption <$> (withBefore ts).mapM
        (fun p => alone s file (namesAbove s (before ++ p.2)) p.1) =
      (fun ds => outAll ds.reduceOption (fresh file (namesAbove s before))) <$>
        ts.mapM (decl s) := by
  induction ts generalizing before with
  | nil => rfl
  | cons t ts ih =>
      simp only [List.flatMap_cons, List.mem_append] at hf
      have ih := ih (before ++ [t]) fun x hx => hf x (.inr hx)
      rw [mapM_withBefore_cons, List.mapM_cons]
      cases hd : decl s t with
      | error why =>
          have ha : alone s file (namesAbove s (before ++ [])) t = .error why := by
            rw [alone, hd]
            rfl
          rw [ha]
          rfl
      | ok d =>
          obtain ⟨ha, he⟩ := step_top before hd fun x hx => hf x (.inl hx)
          simp only [List.append_nil, ha, List.append_assoc, List.singleton_append] at ih ⊢
          let e := fresh file (namesAbove s before)
          have hl : ∀ x : Except Fault (List (Option (Node Bool))),
              List.reduceOption <$> (do
                let as ← x
                return d.map (out false · e) :: as) =
                (outAll d.toList e ++ ·) <$> List.reduceOption <$> x := by
            intro x
            cases x <;> cases d <;> rfl
          have hr : ∀ x : Except Fault (List (Option (Node Role))),
              (fun ds => outAll ds.reduceOption e) <$> (do
                let ds ← x
                return d :: ds) =
                (outAll d.toList e ++ ·) <$>
                  (fun ds => outAll ds.reduceOption (fresh file (namesAbove s (before ++ [t])))) <$>
                    x := by
            intro x
            cases x with
            | error why => rfl
            | ok ds =>
                refine congrArg Except.ok ?_
                change outAll (d :: ds).reduceOption e = _
                rw [reduceOption_cons, outAll_append, he]
          exact (hl _).trans ((congrArg _ ih).trans (hr _).symm)

theorem fileNames_eq_ok {t : Tree}
    (h : t.kind = .functionDeclaration → (t.at? .name).isSome = true) :
    Draft.fileNames s t = .ok (fileNames s t) := by
  obtain ⟨xs, hxs⟩ : ∃ xs, Draft.fileNames s t = .ok xs := by
    unfold Draft.fileNames
    split
    · obtain ⟨c, hc⟩ := Option.isSome_iff_exists.1 (h ‹_›)
      have ht : slotText s t .name = .ok (s.textOf c.1) := slotText_eq_ok.2 ⟨c, hc, rfl⟩
      rw [ht]
      exact ⟨_, rfl⟩
    · exact ⟨_, rfl⟩
    · exact ⟨_, rfl⟩
  rw [hxs, fileNames_of_ok hxs]

/-- A file without a syntax error fails only where one of its nodes does. -/
theorem declarations_eq {root : Tree} (hr : root.isFaulty = false)
    (hn : ∀ t ∈ fileParts root, t.kind = .functionDeclaration → (t.at? .name).isSome = true) :
    GoFile.declarations s root =
      (fun ds => outAll ds.reduceOption (fresh (fileScope s root) (namesAbove s []))) <$>
        (fileParts root).mapM (decl s) := by
  have hnames : (root.parts.mapM fun t => Draft.fileNames s t.1) =
      .ok (root.parts.map fun t => fileNames s t.1) := by
    rw [Except.mapM_eq_ok, List.forall₂_map_right_iff, List.forall₂_same]
    exact fun c hc => fileNames_eq_ok (hn c.1 (List.mem_map_of_mem hc))
  have hscope : (root.parts.map fun t => fileNames s t.1).flatten = fileScope s root := by
    rw [fileScope, fileParts, List.flatMap_map, List.flatMap_def]
  rw [fileParts, List.mapM_map, GoFile.declarations, Draft.file, hr, hnames, ← hscope]
  change _ = _ <$> root.parts.mapM fun t => decl s t.1
  cases hd : root.parts.mapM fun t => decl s t.1 with
  | error why => rfl
  | ok ds => rfl

/-! Edits -/

/-- A declaration with its lines and columns moved. -/
def relocate {ι : Type} (g : Position → Position) : Node ι → Node ι
  | .funcDecl name r tps type pos stop body recv =>
      .funcDecl name r tps type (g pos) (g stop) body recv
  | n => n

theorem binds_relocate (g : Position → Position) (n : Node Role) (top sig : Bool) :
    (relocate g n).binds top sig = n.binds top sig := by
  cases n with
  | funcDecl name r tps type pos stop body recv => rw [relocate, Node.binds, Node.binds]
  | _ => rfl

theorem resolve_relocate (g : Position → Position) (sig : Bool) (n : Node Role) (e : Env) :
    out sig (relocate g n) e = relocate g (out sig n e) ∧
      after sig (relocate g n) e = after sig n e := by
  cases n with
  | ident x role => cases role <;> exact ⟨rfl, rfl⟩
  | funcType => cases sig <;> exact ⟨rfl, rfl⟩
  | funcDecl _ _ _ _ _ _ _ recv => cases recv <;> exact ⟨rfl, rfl⟩
  | _ => exact ⟨rfl, rfl⟩

theorem resolveAll_relocate (g : Position → Position) (ns : List (Node Role)) (e : Env) :
    outAll (ns.map (relocate g)) e = (outAll ns e).map (relocate g) ∧
      afterAll (ns.map (relocate g)) e = afterAll ns e := by
  induction ns generalizing e with
  | nil => exact ⟨rfl, rfl⟩
  | cons n ns ih =>
      obtain ⟨ho, ha⟩ := resolve_relocate g false n e
      simp only [List.map_cons, outAll_cons, afterAll_cons, ho, ha, ih, true_and]

/-- A node that reads the same in two sources, but for the positions. -/
structure Moved (g : Position → Position) (s s' : Source) (t t' : Tree) : Prop where
  decl : decl s' t' = Option.map (relocate g) <$> decl s t
  names : fileNames s' t' = fileNames s t

/-- What is not touched has not moved. -/
theorem Moved.refl (s : Source) (t : Tree) : Moved id s s t t where
  decl := by
    have hi : ∀ n : Node Role, relocate id n = n := by
      intro n
      cases n <;> rfl
    cases hd : Draft.decl s t with
    | error why => rfl
    | ok d => cases d <;> simp [Functor.map, Except.map, hi]
  names := rfl

/-- Two functions, or two methods, of one name; the rest may differ. -/
structure Edited (s s' : Source) (t t' : Tree) : Prop where
  isFunc : t.kind = .functionDeclaration ∨ t.kind = .methodDeclaration
  kind : t'.kind = t.kind
  name : (t'.at? .name).toList.map (fun c => s'.textOf c.1) =
    (t.at? .name).toList.map fun c => s.textOf c.1

theorem Edited.names {s s' : Source} {t t' : Tree} (h : Edited s s' t t') :
    fileNames s' t' = fileNames s t ∧ topDeclared s' t' = topDeclared s t := by
  obtain hk | hk := h.isFunc
  · have hf : fileNames s' t' = fileNames s t := by
      simp only [fileNames, h.kind, hk, h.name]
    refine ⟨hf, ?_⟩
    simp only [topDeclared, h.kind, hk, hf]
  · exact ⟨by simp only [fileNames, h.kind, hk], by simp only [topDeclared, h.kind, hk]⟩

/-- A function or a method is read as one declaration. -/
theorem decl_of_isFunc {t : Tree} {d : Option (Node Role)}
    (hk : t.kind = .functionDeclaration ∨ t.kind = .methodDeclaration)
    (h : decl s t = .ok d) : ∃ n, d = some n := by
  have hf : decl s t = some <$> Draft.funcDecl s (readers s t) := by
    unfold decl
    obtain hk | hk := hk <;> rw [hk]
  rw [hf, Except.map_eq_ok] at h
  obtain ⟨n, _, rfl⟩ := h
  exact ⟨n, rfl⟩

/-- Moved nodes have moved drafts. -/
theorem drafts_of_moved {g : Position → Position} {s s' : Source} {ts ts' : List Tree}
    {ds ds' : List (Option (Node Role))} (hm : List.Forall₂ (Moved g s s') ts ts')
    (hd : List.Forall₂ (fun t d => decl s t = .ok d) ts ds)
    (hd' : List.Forall₂ (fun t d => decl s' t = .ok d) ts' ds') :
    ds'.reduceOption = ds.reduceOption.map (relocate g) := by
  induction hm generalizing ds ds' with
  | nil =>
      cases hd
      cases hd'
      rfl
  | @cons t t' ts ts' ht _ ih =>
      obtain ⟨d, ds, h, hds, rfl⟩ := List.forall₂_cons_left_iff.1 hd
      obtain ⟨d', ds', h', hds', rfl⟩ := List.forall₂_cons_left_iff.1 hd'
      have he : d' = d.map (relocate g) := by
        have hg := ht.decl
        rw [h, h'] at hg
        exact Except.ok.inj hg
      rw [reduceOption_cons, reduceOption_cons, ih hds hds', List.map_append, he]
      cases d <;> rfl

theorem flatMap_topDeclared_of_moved {g : Position → Position} {s s' : Source}
    {ts ts' : List Tree} {ds : List (Option (Node Role))}
    (hm : List.Forall₂ (Moved g s s') ts ts')
    (hd : List.Forall₂ (fun t d => decl s t = .ok d) ts ds) :
    ts'.flatMap (topDeclared s') = ts.flatMap (topDeclared s) := by
  induction hm generalizing ds with
  | nil => rfl
  | @cons t t' ts ts' ht _ ih =>
      obtain ⟨d, ds, h, hds, rfl⟩ := List.forall₂_cons_left_iff.1 hd
      have h' : Draft.decl s' t' = .ok (d.map (relocate g)) := by
        rw [ht.decl, h]
        rfl
      have he : topDeclared s' t' = topDeclared s t := by
        rw [← (top_of_decl h).1, ← (top_of_decl h').1]
        cases d with
        | none => rfl
        | some n => simp [binds_relocate]
      rw [List.flatMap_cons, List.flatMap_cons, he, ih hds]

theorem flatMap_fileNames_of_moved {g : Position → Position} {s s' : Source} {ts ts' : List Tree}
    (hm : List.Forall₂ (Moved g s s') ts ts') :
    ts'.flatMap (fileNames s') = ts.flatMap (fileNames s) := by
  induction hm with
  | nil => rfl
  | cons ht _ ih => rw [List.flatMap_cons, List.flatMap_cons, ht.names, ih]

/-- The environment behind some nodes of a file. -/
theorem afterAll_fresh {file : List String} (before : List Tree) {ts : List Tree}
    {ds : List (Option (Node Role))} (h : List.Forall₂ (fun t d => decl s t = .ok d) ts ds)
    (hf : ∀ x ∈ ts.flatMap (fileNames s), x ∈ file) :
    afterAll ds.reduceOption (fresh file (namesAbove s before)) =
      fresh file (namesAbove s (before ++ ts)) := by
  induction h generalizing before with
  | nil =>
      rw [List.append_nil]
      rfl
  | @cons t d ts ds hd _ ih =>
      simp only [List.flatMap_cons, List.mem_append] at hf
      rw [reduceOption_cons, afterAll_append,
        (step_top before hd fun x hx => hf x (.inl hx)).2, ih _ fun x hx => hf x (.inr hx),
        List.append_assoc, List.singleton_append]

/-- A file that can be read, cut at one of its functions. -/
theorem declarations_cut {root t : Tree} {front back : List Tree} {decls : List (Node Bool)}
    (hp : fileParts root = front ++ t :: back)
    (hk : t.kind = .functionDeclaration ∨ t.kind = .methodDeclaration)
    (h : GoFile.declarations s root = .ok decls) :
    ∃ ds n ds', List.Forall₂ (fun t d => decl s t = .ok d) front ds ∧ decl s t = .ok (some n) ∧
      List.Forall₂ (fun t d => decl s t = .ok d) back ds' ∧
      let file := fileScope s root
      decls = outAll ds.reduceOption (fresh file []) ++
        out false n (fresh file (namesAbove s front)) ::
          outAll ds'.reduceOption (fresh file (namesAbove s (front ++ [t]))) := by
  obtain ⟨all, hall, _, rfl⟩ := declarations_eq_ok h
  have hf : ∀ x ∈ (fileParts root).flatMap (fileNames s), x ∈ fileScope s root := fun _ hx => hx
  rw [hp] at hall hf
  simp only [List.flatMap_append, List.flatMap_cons, List.mem_append] at hf
  obtain ⟨ds, rest, rfl, hds, hrest⟩ := Except.forall₂_append_left hall
  obtain ⟨d, ds', hd, hds', rfl⟩ := List.forall₂_cons_left_iff.1 hrest
  obtain ⟨n, rfl⟩ := decl_of_isFunc hk hd
  refine ⟨ds, n, ds', hds, hd, hds', ?_⟩
  have ha : afterAll ds.reduceOption (.ofFile (fileScope s root)) =
      fresh (fileScope s root) (namesAbove s front) :=
    afterAll_fresh [] hds fun x hx => hf x (.inl hx)
  have hs := (step_top front hd fun x hx => hf x (.inr (.inl hx))).2
  rw [List.reduceOption_append, outAll_append, ha, reduceOption_cons, outAll_append, hs]
  rfl

/-- An edit of one function leaves every other declaration as it is. -/
theorem declarations_of_edit {g : Position → Position} {s s' : Source} {root root' t t' : Tree}
    {front back front' back' : List Tree} {decls decls' : List (Node Bool)}
    (hp : fileParts root = front ++ t :: back) (hp' : fileParts root' = front' ++ t' :: back')
    (hfront : List.Forall₂ (Moved g s s') front front') (ht : Edited s s' t t')
    (hback : List.Forall₂ (Moved g s s') back back')
    (h : GoFile.declarations s root = .ok decls)
    (h' : GoFile.declarations s' root' = .ok decls') :
    ∃ ds d d' ds',
      decls = ds ++ d :: ds' ∧ decls' = ds.map (relocate g) ++ d' :: ds'.map (relocate g) ∧
        alone s (fileScope s root) (namesAbove s front) t = .ok (some d) ∧
        alone s' (fileScope s root) (namesAbove s front) t' = .ok (some d') := by
  obtain ⟨ds, n, rest, hds, hn, hrest, rfl⟩ := declarations_cut hp ht.isFunc h
  obtain ⟨ds', n', rest', hds', hn', hrest', rfl⟩ :=
    declarations_cut hp' (ht.kind ▸ ht.isFunc) h'
  have hfile : fileScope s' root' = fileScope s root := by
    simp only [fileScope, hp, hp', List.flatMap_append, List.flatMap_cons, ht.names.1,
      flatMap_fileNames_of_moved hfront, flatMap_fileNames_of_moved hback]
  have habove : namesAbove s' front' = namesAbove s front := by
    rw [namesAbove, namesAbove, flatMap_topDeclared_of_moved hfront hds]
  have hbehind : namesAbove s' (front' ++ [t']) = namesAbove s (front ++ [t]) := by
    simp only [namesAbove, List.flatMap_append, List.flatMap_singleton, ht.names.2,
      flatMap_topDeclared_of_moved hfront hds]
  refine ⟨_, _, out false n' (fresh (fileScope s root) (namesAbove s front)), _, rfl, ?_, ?_, ?_⟩
  · simp only [hfile, habove, hbehind, drafts_of_moved hfront hds hds',
      drafts_of_moved hback hrest hrest', resolveAll_relocate]
  · rw [alone, hn]
    rfl
  · rw [alone, hn']
    rfl

/-- The pass over a file is a map over its top-level nodes: each is read from a fresh environment
that holds the names of the file and the names above the node, clauses for the package and its
imports give nothing, and the first failure is the failure of the file. So an edit of one function
changes no other declaration. -/
theorem declarations_pointwise {root : Tree} (hr : root.isFaulty = false)
    (hn : ∀ t ∈ fileParts root, t.kind = .functionDeclaration → (t.at? .name).isSome = true) :
    GoFile.declarations s root =
        List.reduceOption <$> (withBefore (fileParts root)).mapM
          (fun p => alone s (fileScope s root) (namesAbove s p.2) p.1) ∧
      (∀ why, GoFile.declarations s root = .error why ↔
        ∃ front t back, fileParts root = front ++ t :: back ∧
          (∀ u ∈ front, ∃ d, decl s u = .ok d) ∧ decl s t = .error why) ∧
      (∀ t, t.kind = .part .packageClause ∨ t.kind = .part .importDeclaration →
        ∀ file above, alone s file above t = .ok none) ∧
      ∀ (g : Position → Position) (s' : Source) (root' : Tree) (front back front' back' : List Tree)
        (t t' : Tree) (decls decls' : List (Node Bool)),
        fileParts root = front ++ t :: back → fileParts root' = front' ++ t' :: back' →
        List.Forall₂ (Moved g s s') front front' → Edited s s' t t' →
        List.Forall₂ (Moved g s s') back back' →
        GoFile.declarations s root = .ok decls → GoFile.declarations s' root' = .ok decls' →
        ∃ ds d d' ds',
          decls = ds ++ d :: ds' ∧ decls' = ds.map (relocate g) ++ d' :: ds'.map (relocate g) ∧
            alone s (fileScope s root) (namesAbove s front) t = .ok (some d) ∧
            alone s' (fileScope s root) (namesAbove s front) t' = .ok (some d') := by
  refine ⟨?_, fun why => ?_, fun t hk file above => ?_, ?_⟩
  · rw [declarations_eq hr hn]
    exact (mapM_alone (s := s) [] fun _ hx => hx).symm
  · rw [declarations_eq hr hn, Except.map_eq_error, Except.mapM_eq_error]
  · have hd : decl s t = .ok none := by
      unfold decl
      obtain hk | hk := hk <;> rw [hk]
    rw [alone, hd]
    rfl
  · intro g s' root' front back front' back' t t' decls decls' hp hp' hfront ht hback h h'
    exact declarations_of_edit hp hp' hfront ht hback h h'

/-- The function of `letterFile` with an empty body. -/
def emptiedFunc : Tree :=
  written .functionDeclaration none 0 16
    [letter (some .name) 5, written (.part .parameterList) (some .parameters) 6 8 [],
      written (.stmt .block) (some .body) 8 16 []]

def emptiedFile : Tree :=
  written (.other "source_file") none 0 24 (emptiedFunc :: letterFile.children.drop 1)

theorem declarations_pointwise_letterFile :
    GoFile.declarations letterSource letterFile =
        List.reduceOption <$> (withBefore (fileParts letterFile)).mapM (fun p =>
          alone letterSource (fileScope letterSource letterFile) (namesAbove letterSource p.2)
            p.1) ∧
      ∃ ds d d' ds', GoFile.declarations letterSource letterFile = .ok (ds ++ d :: ds') ∧
        GoFile.declarations letterSource emptiedFile =
          .ok (ds.map (relocate id) ++ d' :: ds'.map (relocate id)) := by
  have hp := @declarations_pointwise letterSource letterFile (by decide) (by decide)
  obtain ⟨decls, h⟩ := Except.exists_eq_ok
    (x := GoFile.declarations letterSource letterFile) (by decide +kernel)
  obtain ⟨decls', h'⟩ := Except.exists_eq_ok
    (x := GoFile.declarations letterSource emptiedFile) (by decide +kernel)
  obtain ⟨ds, d, d', ds', hd, hd', _⟩ := hp.2.2.2 id letterSource emptiedFile [] _ [] _ letterFunc
    emptiedFunc decls decls' (by rfl) (by rfl) .nil ⟨.inl rfl, rfl, by decide +kernel⟩
    (.cons (Moved.refl _ _) .nil) h h'
  exact ⟨hp.1, ds, d, d', ds', hd ▸ h, hd' ▸ h'⟩

end GoMetrics.Lexical
