import GoMetrics.Proofs.Draft.Success
import GoMetrics.Proofs.Lexical.Basic

/-!
Drafts against the table of visits. `Gives` says that drafts read in turn bind certain names and are
measured like certain visits, and `Reads` that they are what a tree says in a mode. Both pass from
the parts of a construct to the construct; the lemmas here say how parts are put together.
-/

namespace GoMetrics.Lexical

variable (s : Source) (ls : List String)

/-- Drafts that bind the names `adds` and are measured like the visits `vs`, where `ls` are the
labels of the function around. -/
structure Gives {t : Tree} (ns : List (Node Role)) (adds : List String)
    (vs : Context → List (Visit t)) : Prop where
  binds : ∀ top, ns.flatMap (Node.binds top false) = adds
  sites : ∀ v : Context, v.labels = ls →
    Node.sitesAll ns v.toVisible = (vs v).flatMap (Visit.sites s)

/-- Drafts that are what a tree says. -/
structure Reads (m : Mode) (t : Tree) (ns : List (Node Role)) : Prop where
  binds : ∀ top, ns.flatMap (Node.binds top false) = declared s m t
  sites : ∀ v : Context, v.labels = ls → Node.sitesAll ns v.toVisible = sites s m t v

variable {s ls} {t : Tree}

theorem Reads.congr {m m' : Mode} {ns : List (Node Role)} (hr : Reads s ls m' t ns)
    (h : m.on t.kind = m'.on t.kind) : Reads s ls m t ns := by
  have hd : declared s m t = declared s m' t := by
    rw [declared, declared, h]
  have hs : ∀ v, Lexical.sites s m t v = Lexical.sites s m' t v := by
    intro v
    rw [sites_eq, sites_eq, leaf, leaf, visits, visits, h]
  exact ⟨fun top => (hr.binds top).trans hd.symm, fun v hv => (hr.sites v hv).trans (hs v).symm⟩

namespace Gives

theorem nil : Gives s ls (t := t) [] [] fun _ => [] :=
  ⟨fun _ => rfl, fun _ _ => rfl⟩

theorem past {ns : List (Node Role)} {adds : List String} {vs : Context → List (Visit t)}
    (h : Gives s ls ns adds vs) (v : Context) :
    Node.past ns v.toVisible = (v.declare adds).toVisible := by
  rw [Node.past, h.binds, Context.toVisible_declare]

/-- What is read later sees what was declared before. -/
theorem append {ms ns : List (Node Role)} {xs ys : List String} {vs ws : Context → List (Visit t)}
    (hm : Gives s ls ms xs vs) (hn : Gives s ls ns ys ws) :
    Gives s ls (ms ++ ns) (xs ++ ys) fun v => vs v ++ ws (v.declare xs) := by
  constructor
  · intro top
    rw [List.flatMap_append, hm.binds, hn.binds]
  · intro v hv
    rw [Node.sitesAll_append, hm.sites v hv, hm.past, hn.sites (v.declare xs) hv,
      List.flatMap_append]

/-- After drafts that bind nothing, the same names are in force as before. -/
theorem append_quiet {ms ns : List (Node Role)} {ys : List String}
    {vs ws : Context → List (Visit t)} (hm : Gives s ls ms [] vs) (hn : Gives s ls ns ys ws) :
    Gives s ls (ms ++ ns) ys fun v => vs v ++ ws v := by
  simpa using hm.append hn

/-- Trees that are read in turn, each as any number of drafts. -/
theorem flatten {m : Mode} {cs : List (Tree.Below t)} {nss : List (List (Node Role))}
    (h : List.Forall₂ (fun c ns => Reads s ls m c.1 ns) cs nss) :
    Gives s ls nss.flatten (cs.flatMap fun c => declared s m c.1) (inTurn s m cs) := by
  induction h with
  | nil => exact nil
  | @cons c ns cs nss hc _ ih =>
      have h₁ : Gives s ls (t := t) ns (declared s m c.1) fun v => [⟨m, c, v⟩] :=
        ⟨hc.binds, fun v hv => by
          rw [hc.sites v hv, List.flatMap_cons, List.flatMap_nil, List.append_nil]
          rfl⟩
      exact h₁.append ih

/-- Trees that are read in turn, each as one draft. -/
theorem inTurn {m : Mode} {cs : List (Tree.Below t)} {ns : List (Node Role)}
    (h : List.Forall₂ (fun c n => Reads s ls m c.1 [n]) cs ns) :
    Gives s ls ns (cs.flatMap fun c => declared s m c.1) (inTurn s m cs) := by
  have hf : List.Forall₂ (fun c ns => Reads s ls m c.1 ns) cs (ns.map fun n => [n]) :=
    List.forall₂_map_right_iff.2 h
  have hn : (ns.map fun n => [n]).flatten = ns := by
    rw [← List.flatMap_def, List.flatMap_singleton']
  rw [← hn]
  exact flatten hf

end Gives

/-- Parts that declare nothing can be read in any order. -/
theorem inTurn_eq_each {m : Mode} {cs : List (Tree.Below t)}
    (h : ∀ c ∈ cs, declared s m c.1 = []) (v : Context) : inTurn s m cs v = each m cs v := by
  induction cs with
  | nil => rfl
  | cons c cs ih =>
      rw [inTurn, h c List.mem_cons_self, Context.declare_nil,
        ih fun d hd => h d (List.mem_cons_of_mem c hd)]
      rfl

theorem Gives.each {m : Mode} {cs : List (Tree.Below t)} {ns : List (Node Role)}
    (hd : ∀ c : Tree.Below t, declared s m c.1 = [])
    (h : List.Forall₂ (fun c n => Reads s ls m c.1 [n]) cs ns) :
    Gives s ls ns [] (each m cs) := by
  have hi := Gives.inTurn h
  have hn : (cs.flatMap fun c => declared s m c.1) = [] := by
    simp [hd]
  have hv : Lexical.inTurn s m cs = Lexical.each m cs := funext (inTurn_eq_each fun c _ => hd c)
  rwa [hn, hv] at hi

/-! From drafts to the construct that they are parts of -/

/-- A plain construct that is no decision adds nothing to its parts. -/
theorem sitesAll_of_isPlain {n : Node Role} (hp : n.isPlain = true) (hd : n.decides = false)
    (v : Visible) : Node.sitesAll [n] v = Node.sitesAll n.places v := by
  have ho : n.ownSites v = [] := by
    rw [Node.ownSites_of_isCompound (Node.isCompound_of_isPlain hp), hd]
    rfl
  rw [Node.sitesAll_singleton, Node.sites_eq, ho, Node.stands_of_isPlain false hp]
  rfl

theorem binds_singleton_of_isPlain {n : Node Role} (hp : n.isPlain = true) (top : Bool) :
    [n].flatMap (Node.binds top false) = n.places.flatMap (Node.binds top false) := by
  rw [List.flatMap_singleton, Node.binds_of_isPlain top false hp]

theorem Gives.plain_cons {n : Node Role} {ns : List (Node Role)} {adds : List String}
    {vs : Context → List (Visit t)} (hp : n.isPlain = true) (hd : n.decides = false)
    (h : Gives s ls (n.places ++ ns) adds vs) : Gives s ls (n :: ns) adds vs := by
  rw [← List.singleton_append]
  constructor
  · intro top
    rw [← h.binds top, List.flatMap_append, List.flatMap_append, binds_singleton_of_isPlain hp]
  · intro v hv
    rw [← h.sites v hv, Node.sitesAll_append, Node.sitesAll_append, sitesAll_of_isPlain hp hd,
      Node.past, Node.past, binds_singleton_of_isPlain hp]

theorem Gives.plain {n : Node Role} {adds : List String} {vs : Context → List (Visit t)}
    (hp : n.isPlain = true) (hd : n.decides = false) (h : Gives s ls n.places adds vs) :
    Gives s ls [n] adds vs :=
  plain_cons hp hd ((List.append_nil n.places).symm ▸ h)

theorem Reads.plain {m : Mode} {n : Node Role} (hp : n.isPlain = true) (hd : n.decides = false)
    (h : Reads s ls m t n.places) : Reads s ls m t [n] := by
  constructor
  · intro top
    rw [binds_singleton_of_isPlain hp, h.binds]
  · intro v hv
    rw [sitesAll_of_isPlain hp hd, h.sites v hv]

/-- The part in a slot, read as any number of drafts. -/
theorem Gives.one {m : Mode} {o : Option (Tree.Below t)} {c : Tree.Below t}
    {ns : List (Node Role)} (hc : o = some c) (h : Reads s ls m c.1 ns) :
    Gives s ls ns (gains s m o) (one m o) := by
  subst hc
  have hf := Gives.flatten (.cons h .nil)
  rwa [List.flatten_cons, List.flatten_nil, List.append_nil] at hf

theorem Gives.none {m : Mode} {o : Option (Tree.Below t)} (hc : o = none) :
    Gives s ls [] (gains s m o) (Lexical.one m o) := by
  subst hc
  exact nil

theorem gains_eq_nil {m : Mode} (o : Option (Tree.Below t))
    (h : ∀ c : Tree.Below t, declared s m c.1 = []) : gains s m o = [] := by
  simp [gains, h]

/-- A node that is no site by itself is read like its parts. -/
theorem Gives.reads {m : Mode} {ns : List (Node Role)} {adds : List String}
    {vs : Context → List (Visit t)} (h : Gives s ls ns adds vs) (hd : declared s m t = adds)
    (hl : ∀ v, leaf s m t v = []) (hv : ∀ v, visits s m t v = vs v) : Reads s ls m t ns := by
  constructor
  · intro top
    rw [h.binds, hd]
  · intro v hls
    rw [h.sites v hls, Lexical.sites_eq, hl, hv, List.nil_append]

/-- A node that is read as one construct. -/
theorem Reads.of_stands {m : Mode} {n : Node Role}
    (hb : ∀ top, n.binds top false = declared s m t)
    (hl : ∀ v : Context, v.labels = ls → leaf s m t v = n.ownSites v.toVisible)
    (hv : ∀ v : Context, v.labels = ls →
      (n.stands false v.toVisible).flatMap Node.Stand.sites =
        (visits s m t v).flatMap (Visit.sites s)) : Reads s ls m t [n] := by
  constructor
  · intro top
    rw [List.flatMap_singleton, hb]
  · intro v hls
    rw [Node.sitesAll_singleton, Node.sites_eq, Lexical.sites_eq, hl v hls, hv v hls]

/-! Constructs that are not plain -/

theorem binds_field (top : Bool) (names : List (Node Role)) (type : Node Role) :
    (Node.field names (some type)).binds top false =
      type.binds top false ++ names.flatMap (Node.binds top false) := by
  rw [Node.binds_eq_flatMap_turns _ _ rfl]
  rfl

theorem sites_field (names : List (Node Role)) (type : Node Role) (v : Visible) :
    (Node.field names (some type)).sites false v =
      Node.sitesAll names (Node.past [type] v) ++ Node.sitesAll [type] v := by
  rw [Node.sites_eq, Node.stands, List.flatMap_append]
  rfl

/-- A type is read before the names that have it. -/
theorem Gives.field {names : List (Node Role)} {type : Node Role} {adds : List String}
    {vs ws : Context → List (Visit t)} (hn : Gives s ls names adds vs)
    (ht : Gives s ls [type] [] ws) :
    Gives s ls [.field names (some type)] adds fun v => vs v ++ ws v := by
  constructor
  · intro top
    have hq := ht.binds top
    rw [List.flatMap_singleton] at hq
    rw [List.flatMap_singleton, binds_field, hq, hn.binds, List.nil_append]
  · intro v hv
    rw [Node.sitesAll_singleton, sites_field, ht.past, Context.declare_nil, hn.sites v hv,
      ht.sites v hv, List.flatMap_append]

/-- A type without a name is read like the type. -/
theorem Reads.field {m : Mode} {type : Node Role} (h : Reads s ls m t [type]) :
    Reads s ls m t [.field [] (some type)] := by
  constructor
  · intro top
    rw [← h.binds top, List.flatMap_singleton, List.flatMap_singleton, binds_field,
      List.flatMap_nil, List.append_nil]
  · intro v hv
    rw [Node.sitesAll_singleton, sites_field, h.sites v hv]
    rfl

theorem Gives.arrayType {elt : Node Role} {len : Option (Node Role)} {l r : Bool}
    {vs ws : Context → List (Visit t)} (he : Gives s ls [elt] [] vs)
    (hl : Gives s ls len.toList [] ws) :
    Gives s ls [.arrayType elt len l r] [] fun v => vs v ++ ws v := by
  constructor
  · intro top
    rw [List.flatMap_singleton, Node.binds_eq_flatMap_turns _ _ rfl, Node.turns,
      List.flatMap_append, hl.binds, he.binds, List.nil_append]
  · intro v hv
    have hs : Node.sitesAll [.arrayType elt len l r] v.toVisible =
        Node.sitesAll [elt] (Node.past len.toList v.toVisible) ++
          Node.sitesAll len.toList v.toVisible := by
      rw [Node.sitesAll_singleton, Node.sitesAll_singleton, Node.sites_eq]
      rfl
    rw [hs, hl.past, Context.declare_nil, he.sites v hv, hl.sites v hv, List.flatMap_append]

/-- The right-hand side is read before the names on the left are in force. -/
theorem Gives.assign {lhs rhs : List (Node Role)} {tok : String} {adds : List String}
    {vs ws : Context → List (Visit t)} (hl : Gives s ls lhs adds vs) (hr : Gives s ls rhs [] ws) :
    Gives s ls [.assign lhs tok rhs] adds fun v => vs v ++ ws v := by
  constructor
  · intro top
    rw [List.flatMap_singleton, Node.binds_eq_flatMap_turns _ _ rfl, Node.turns,
      List.flatMap_append, hr.binds, hl.binds, List.nil_append]
  · intro v hv
    have hs : Node.sitesAll [.assign lhs tok rhs] v.toVisible =
        Node.sitesAll lhs (Node.past rhs v.toVisible) ++ Node.sitesAll rhs v.toVisible := by
      rw [Node.sitesAll_singleton, Node.sites_eq, Node.stands, List.flatMap_append]
      rfl
    rw [hs, hr.past, Context.declare_nil, hl.sites v hv, hr.sites v hv, List.flatMap_append]

theorem Gives.valueSpec {names values : List (Node Role)} {type : Option (Node Role)}
    {adds : List String} {vs ws : Context → List (Visit t)} (hn : Gives s ls names adds vs)
    (hv : Gives s ls (type.toList ++ values) [] ws) :
    Gives s ls [.valueSpec names type values] adds fun v => vs v ++ ws v := by
  constructor
  · intro top
    rw [List.flatMap_singleton, Node.binds_eq_flatMap_turns _ _ rfl, Node.turns,
      List.flatMap_append, hv.binds, hn.binds, List.nil_append]
  · intro v hls
    have hs : Node.sitesAll [.valueSpec names type values] v.toVisible =
        Node.sitesAll names (Node.past (type.toList ++ values) v.toVisible) ++
          Node.sitesAll (type.toList ++ values) v.toVisible := by
      rw [Node.sitesAll_singleton, Node.sites_eq, Node.stands, List.flatMap_append]
      rfl
    rw [hs, hv.past, Context.declare_nil, hn.sites v hls, hv.sites v hls, List.flatMap_append]

theorem Gives.block {stmts : List (Node Role)} {l r : Bool} {adds : List String}
    {vs : Context → List (Visit t)} (h : Gives s ls stmts adds vs) :
    Gives s ls [.block stmts l r] [] fun v => vs v.inside := by
  constructor
  · intro top
    rw [List.flatMap_singleton, Node.binds_eq_flatMap_turns _ _ rfl]
    rfl
  · intro v hv
    rw [← h.sites v.inside hv, Node.sitesAll_singleton, Node.sites_eq]
    rfl

theorem Gives.funcType {params results : List (Node Role)} {keyword : Bool} {adds : List String}
    {vs : Context → List (Visit t)} (h : Gives s ls (params ++ results) adds vs) :
    Gives s ls [.funcType params results keyword] [] fun v => vs v.inside := by
  constructor
  · intro top
    rw [List.flatMap_singleton, Node.binds, if_neg Bool.false_ne_true]
  · intro v hv
    rw [← h.sites v.inside hv, Node.sitesAll_singleton, Node.sites_eq]
    rfl

/-! Constructs with a scope of their own: what is read at them -/

/-- A branch: what its first statement declares is in force in all of it. -/
theorem Gives.ifStmt {cond body : Node Role} {init orElse : Option (Node Role)}
    {xs ys : List String} {vi vc vo : Context → List (Visit t)} (hi : Gives s ls init.toList xs vi)
    (hc : Gives s ls [cond, body] [] vc) (ho : Gives s ls orElse.toList ys vo) {v : Context}
    (hv : v.labels = ls) :
    ((Node.ifStmt cond body init orElse).stands false v.toVisible).flatMap Node.Stand.sites =
      (vc (v.inside.declare xs) ++ vi v.inside ++ vo (v.inside.declare xs)).flatMap
        (Visit.sites s) := by
  have hs : ((Node.ifStmt cond body init orElse).stands false v.toVisible).flatMap
      Node.Stand.sites =
      Node.sitesAll [cond, body] (Node.past init.toList v.inside.toVisible) ++
        Node.sitesAll init.toList v.inside.toVisible ++
        Node.sitesAll orElse.toList
          (Node.past [cond, body] (Node.past init.toList v.inside.toVisible)) := by
    simp only [Node.stands, List.flatMap_append]
    rfl
  rw [hs, hi.past, hc.past, Context.declare_nil, hc.sites (v.inside.declare xs) hv,
    hi.sites v.inside hv, ho.sites (v.inside.declare xs) hv, List.flatMap_append,
    List.flatMap_append]

/-- A header and then a body: the body sees what the header declares. -/
theorem Gives.header {n : Node Role} {ms ns : List (Node Role)} {xs ys : List String}
    {vm vn : Context → List (Visit t)} {v : Context}
    (hs : (n.stands false v.toVisible).flatMap Node.Stand.sites =
      Node.sitesAll ns (Node.past ms v.inside.toVisible) ++ Node.sitesAll ms v.inside.toVisible)
    (hm : Gives s ls ms xs vm) (hn : Gives s ls ns ys vn) (hv : v.labels = ls) :
    (n.stands false v.toVisible).flatMap Node.Stand.sites =
      (vn (v.inside.declare xs) ++ vm v.inside).flatMap (Visit.sites s) := by
  rw [hs, hm.past, hn.sites (v.inside.declare xs) hv, hm.sites v.inside hv, List.flatMap_append]

/-- A loop over a range: the body sees the targets, those without a place included. -/
theorem Gives.range {x body : Node Role} {key value : Option (Node Role)} {tok : String}
    {surplus : List (Node Role)} {xs ys zs : List String}
    {vx vb vt : Context → List (Visit t)} (hx : Gives s ls [x] [] vx)
    (ht : Gives s ls (key.toList ++ value.toList) ys vt)
    (hs : ∀ top, surplus.flatMap (Node.binds top false) = zs) (hb : Gives s ls [body] xs vb)
    {v : Context} (hv : v.labels = ls) :
    ((Node.range x body key value tok surplus).stands false v.toVisible).flatMap
        Node.Stand.sites =
      (vx v.inside ++ vb (v.inside.declare (ys ++ zs)) ++ vt v.inside).flatMap
        (Visit.sites s) := by
  have hp : ((Node.range x body key value tok surplus).stands false v.toVisible).flatMap
      Node.Stand.sites =
      Node.sitesAll [x] v.inside.toVisible ++
        Node.sitesAll [body] (Node.past ([x] ++ (key.toList ++ value.toList) ++ surplus)
          v.inside.toVisible) ++
        Node.sitesAll (key.toList ++ value.toList) (Node.past [x] v.inside.toVisible) := by
    simp only [Node.stands, List.flatMap_cons, Node.sitesAll_singleton, List.append_assoc]
    rfl
  have hall : Node.past ([x] ++ (key.toList ++ value.toList) ++ surplus) v.inside.toVisible =
      (v.inside.declare (ys ++ zs)).toVisible := by
    rw [Node.past_append, (hx.append_quiet ht).past, Node.past, hs, Context.declare_append]
    rfl
  rw [hp, hx.past, hall, Context.declare_nil, hx.sites v.inside hv,
    hb.sites (v.inside.declare (ys ++ zs)) hv, ht.sites v.inside hv, List.flatMap_append,
    List.flatMap_append]

/-- Behind the signature of a function with a body its names are in force. -/
theorem binds_signature (top : Bool) (params results : List (Node Role)) (keyword : Bool) :
    (Node.funcType params results keyword).binds top true =
      (params ++ results).flatMap (Node.binds top false) := by
  rw [Node.binds, if_pos rfl]

theorem sites_signature (params results : List (Node Role)) (keyword : Bool) (v : Visible) :
    (Node.funcType params results keyword).sites true v =
      Node.sitesAll (params ++ results) v := by
  rw [Node.sites_eq]
  rfl

end GoMetrics.Lexical
