import GoMetrics.Proofs.BlankIdentifier
import GoMetrics.Proofs.FilePass
import GoMetrics.Proofs.Lexical.Inside

/-!
Keys of composite literals. A key that is a plain name may be the name of a field, so that it is
looked up more narrowly than a name in an expression: among the names declared inside the
declaration that it lies in, and among the file-level names that come before it. The file-level
names before a key are the same throughout a function or a spec, so that a file is taken apart into
these.
-/

namespace GoMetrics

/-- A plain name, or the name of a field. -/
def Tree.plainKey? (t : Tree) : Option Tree :=
  if t.kind = .expr .identifier ∨ t.kind = .expr .fieldIdentifier then some t else none

/-- The key of a keyed element, if it is a plain name or the name of a field. -/
def Tree.key? (t : Tree) : Option Tree :=
  t.parts.head?.bind fun c =>
    if c.1.kind = .part .literalElement then c.1.parts.head?.bind fun d => d.1.plainKey?
    else c.1.plainKey?

namespace Lexical

variable {s : Source} {t : Tree} {m : Mode} {v : Context}

/-- A key of a composite literal, with the names in force where it stands. -/
structure Key where
  node : Tree
  seen : Visible

/-- The keys of keyed elements that are names, in the order of the finished construct. -/
def keys (s : Source) (m : Mode) (t : Tree) (v : Context) : List Key :=
  (if m.on t.kind = .keyed then t.key?.toList.map (Key.mk · v.toVisible) else []) ++
    (visits s m t v).flatMap fun c => keys s c.mode c.part.1 c.seen
termination_by t.size
decreasing_by exact c.part.2

/-- The names in force at file level behind declarations of the given names. -/
def atTop (names : List String) : Context :=
  (⟨⟨[], [], true⟩, []⟩ : Context).declare names

/-- A part of a file in which the same file-level names come before everything. -/
inductive Passage
  /-- A function, behind the given top-level nodes. -/
  | func (before : List Tree) (t : Tree)
  /-- A spec of a declaration, behind the given top-level nodes and specs of its declaration. -/
  | spec (before done : List Tree) (t : Tree)

namespace Passage

/-- The passages of a top-level node. -/
def ofTop (before : List Tree) (t : Tree) : List Passage :=
  match t.kind with
  | .functionDeclaration | .methodDeclaration => [.func before t]
  | .decl _ => (withBefore (t.specs.map (·.1))).map fun p => .spec before p.2 p.1
  | _ => []

/-- The passages of a file. -/
def ofFile (root : Tree) : List Passage :=
  (withBefore (fileParts root)).flatMap fun p => ofTop p.2 p.1

/-- The file-level names that come before what stands in a passage. The name of a type comes before
the type itself. -/
def inOrder (s : Source) : Passage → List String
  | .func before _ => before.flatMap (topDeclared s)
  | .spec before done t =>
    before.flatMap (topDeclared s) ++ done.flatMap (declared s .spec) ++
      match t.kind with
      | .part .typeSpec | .part .typeAlias => declared s .spec t
      | _ => []

/-- The keys in a passage. -/
def keys (s : Source) : Passage → List Key
  | .func before t => Lexical.keys s .func t (atTop (before.flatMap (topDeclared s)))
  | .spec before done t =>
    Lexical.keys s .spec t
      (atTop (before.flatMap (topDeclared s) ++ done.flatMap (declared s .spec)))

end Passage

/-- The keys of a file, each with the passage that it lies in. -/
def fileKeys (s : Source) (root : Tree) : List (Passage × Key) :=
  (Passage.ofFile root).flatMap fun p => (p.keys s).map (p, ·)

/-! Keys are where the sites of keys are -/

/-- How a node is read depends on what its mode makes of it. -/
theorem sites_congr {m' : Mode} (h : m.on t.kind = m'.on t.kind) :
    sites s m t v = sites s m' t v := by
  rw [sites_eq, sites_eq]
  unfold leaf visits
  rw [h]

theorem keys_congr {m' : Mode} (h : m.on t.kind = m'.on t.kind) :
    keys s m t v = keys s m' t v := by
  rw [keys, keys.eq_def s m' t v]
  unfold visits
  rw [h]

/-- Modes in which a node is read as a key, or as what a key consists of. -/
def Mode.isKey : Mode → Bool
  | .key | .bareKey | .text .key => true
  | _ => false

theorem Mode.isKey_atExpr (k : Kind) : (atExpr k).isKey = false := by
  unfold atExpr
  split <;> rfl

theorem Mode.isKey_atTarget (k : Kind) : (atTarget k).isKey = false := by
  unfold atTarget
  split
  · rfl
  · rfl
  · exact isKey_atExpr k

theorem Mode.isKey_atStmt (k : Kind) : (atStmt k).isKey = false := by
  unfold atStmt
  split
  · exact isKey_atExpr _
  · rfl

theorem Mode.isKey_on (h : m.isKey = false) (k : Kind) : (m.on k).isKey = false := by
  have expr := isKey_atExpr k
  have target := isKey_atTarget k
  have stmt := isKey_atStmt k
  cases m with
  | key | bareKey => cases h
  | expr => exact expr
  | target => exact target
  | stmt => exact stmt
  | exprs | arg | member | result | header =>
      rw [on]
      split
      · rfl
      · exact expr
  | element =>
      rw [on]
      split
      · rfl
      split
      · rfl
      · exact expr
  | targets =>
      rw [on]
      split
      · rfl
      · exact target
  | loopTargets declares =>
      rw [on]
      split
      · rfl
      split
      · exact target
      · exact expr
  | stmts =>
      rw [on]
      split
      · rfl
      · exact stmt
  | specs =>
      rw [on]
      split <;> rfl
  | _ => exact h

/-- Parts that are not read as keys. -/
def Keyless (vs : List (Visit t)) : Prop :=
  AllSeen (fun m _ => m.isKey = false) vs

@[simp]
theorem keyless_nil : Keyless ([] : List (Visit t)) :=
  allSeen_nil

@[simp]
theorem keyless_append {vs ws : List (Visit t)} : Keyless (vs ++ ws) ↔ Keyless vs ∧ Keyless ws :=
  allSeen_append

@[simp]
theorem keyless_each (cs : List (Tree.Below t)) (h : m.isKey = false) : Keyless (each m cs v) :=
  allSeen_each cs h

@[simp]
theorem keyless_one (o : Option (Tree.Below t)) (h : m.isKey = false) : Keyless (one m o v) :=
  allSeen_one o h

@[simp]
theorem keyless_loopTargets (define : Bool) (o : Option (Tree.Below t)) :
    Keyless (one (.loopTargets define) o v) :=
  keyless_one o rfl

@[simp]
theorem keyless_inTurn (cs : List (Tree.Below t)) (h : m.isKey = false) :
    Keyless (inTurn s m cs v) :=
  allSeen_inTurn cs h fun _ _ h => h

@[simp]
theorem keyless_signature : Keyless (signature s t v) := by
  simp (disch := decide) [signature]

theorem keyless_exprVisits : Keyless (exprVisits s t v) := by
  unfold exprVisits
  split <;> simp (disch := decide)

theorem keyless_loopVisits : Keyless (loopVisits s t v) := by
  unfold loopVisits
  split
  · dsimp only
    split <;> simp (disch := decide)
  · simp (disch := decide)

theorem keyless_stmtVisits : Keyless (stmtVisits s t v) := by
  unfold stmtVisits
  split <;> simp (disch := first | decide | split <;> decide) [keyless_loopVisits]

theorem keyless_specVisits : Keyless (specVisits s t v) := by
  unfold specVisits
  split <;> simp (disch := decide)

theorem keyless_clauseVisits : Keyless (clauseVisits s t v) := by
  unfold clauseVisits
  split <;> simp (disch := decide)

theorem keyless_funcVisits : Keyless (funcVisits s t v) := by
  unfold funcVisits
  simp (disch := first | decide | split <;> decide)

/-- Only a keyed element has a part that is read as a key. -/
theorem isKey_visits (h : m.on t.kind ≠ .keyed) (h' : (m.on t.kind).isKey = false) :
    Keyless (visits s m t v) := by
  unfold visits
  generalize m.on t.kind = k at h h'
  cases k with
  | keyed => exact absurd rfl h
  | key => exact absurd h' (by decide)
  | header =>
      dsimp only
      split <;> simp (disch := decide)
  | loopTargets define => cases define <;> simp (disch := decide)
  | expr => exact keyless_exprVisits
  | stmt => exact keyless_stmtVisits
  | clause => exact keyless_clauseVisits
  | spec => exact keyless_specVisits
  | func => exact keyless_funcVisits
  | _ => simp (disch := decide)

/-- The key at a site. -/
def Site.key? : Site → Option (String × Visible)
  | .key x v => some (x, v)
  | _ => none

def Key.name (s : Source) (k : Key) : String :=
  s.textOf k.node

/-- A key as it stands at its site. -/
def Key.shown (s : Source) (k : Key) : String × Visible :=
  (k.name s, k.seen)

theorem key?_leaf (h : (m.on t.kind).isKey = false) : (leaf s m t v).filterMap Site.key? = [] := by
  have hd : (if decides s t = true then [Site.decision] else []).filterMap Site.key? = [] := by
    split <;> rfl
  unfold leaf
  split
  · rename_i role hm
    rw [hm] at h
    cases role <;> first | rfl | cases h
  all_goals first | rfl | exact hd

/-- What a key comes to, once nothing is wrapped around it. -/
theorem key?_sites_atKey (h : m.on t.kind = Mode.atKey t.kind)
    (ih : (sites s .expr t v).filterMap Site.key? = (keys s .expr t v).map (Key.shown s)) :
    (sites s m t v).filterMap Site.key? =
      t.plainKey?.toList.map (fun k => (s.textOf k, v.toVisible)) ++
        (keys s m t v).map (Key.shown s) := by
  by_cases hk : t.kind = .expr .identifier ∨ t.kind = .expr .fieldIdentifier
  · have hm : m.on t.kind = .text .key := by
      rw [h]
      obtain hk | hk := hk <;> rw [hk] <;> rfl
    have hv : visits s m t v = [] := by
      unfold visits
      rw [hm]
    rw [sites_eq, keys, hv, leaf, hm, Tree.plainKey?, if_pos hk]
    rfl
  · rw [not_or] at hk
    have hm : m.on t.kind = Mode.expr.on t.kind := h.trans (Mode.on_bareKey hk.1 hk.2)
    rw [sites_congr hm, keys_congr hm, ih, Tree.plainKey?, if_neg (not_or.2 hk)]
    rfl

theorem key?_sites_key
    (ih : ∀ d : Tree, d.size ≤ t.size →
      (sites s .expr d v).filterMap Site.key? = (keys s .expr d v).map (Key.shown s)) :
    (sites s .key t v).filterMap Site.key? =
      (if t.kind = .part .literalElement then t.parts.head?.bind fun d => d.1.plainKey?
        else t.plainKey?).toList.map (fun k => (s.textOf k, v.toVisible)) ++
        (keys s .key t v).map (Key.shown s) := by
  by_cases hk : t.kind = .part .literalElement
  · have hm : Mode.key.on t.kind = .key := if_pos hk
    have hv : visits s .key t v = one .bareKey t.parts.head? v := by
      unfold visits
      rw [hm]
    have hl : leaf s .key t v = [] := by
      unfold leaf
      rw [hm]
    rw [sites_eq, keys, hv, hl, hm, if_pos hk]
    cases t.parts.head? with
    | none => rfl
    | some d =>
        have hd := key?_sites_atKey (m := .bareKey) rfl (ih d.1 (Nat.le_of_lt d.2))
        simpa [one, each, Visit.sites] using hd
  · rw [if_neg hk]
    exact key?_sites_atKey (if_neg hk) (ih t (Nat.le_refl _))

/-- The sites of keys are where the keys of keyed elements stand. -/
theorem key?_sites (m : Mode) (t : Tree) (v : Context) (h : m.isKey = false) :
    (sites s m t v).filterMap Site.key? = (keys s m t v).map (Key.shown s) := by
  have hm := Mode.isKey_on h t.kind
  rw [sites_eq, keys, List.filterMap_append, key?_leaf hm, List.filterMap_flatMap, List.map_append,
    List.map_flatMap]
  by_cases hk : m.on t.kind = .keyed
  · have hv : visits s m t v = one .key t.parts.head? v ++ one .element t.parts.getLast? v := by
      unfold visits
      rw [hk]
    have hlast : ((one .element t.parts.getLast? v).flatMap fun c =>
        (c.sites s).filterMap Site.key?) =
        (one .element t.parts.getLast? v).flatMap fun c =>
          (keys s c.mode c.part.1 c.seen).map (Key.shown s) := by
      cases t.parts.getLast? with
      | none => rfl
      | some c => exact congrArg (· ++ []) (key?_sites .element c.1 v rfl)
    have hhead : ((one .key t.parts.head? v).flatMap fun c =>
        (c.sites s).filterMap Site.key?) =
        t.key?.toList.map (fun k => (s.textOf k, v.toVisible)) ++
          (one .key t.parts.head? v).flatMap fun c =>
            (keys s c.mode c.part.1 c.seen).map (Key.shown s) := by
      rw [Tree.key?]
      cases t.parts.head? with
      | none => rfl
      | some c =>
          have hc := key?_sites_key (t := c.1) (v := v) fun d _ => key?_sites .expr d v rfl
          simpa [one, each, Visit.sites] using hc
    rw [hv, List.flatMap_append, List.flatMap_append, hlast, hhead, if_pos hk, List.map_map,
      List.append_assoc]
    rfl
  · rw [if_neg hk, List.map_nil]
    congr 1
    refine List.flatMap_congr fun c hc => ?_
    exact key?_sites c.mode c.part.1 c.seen (isKey_visits hk hm c hc)
termination_by t.size
decreasing_by
  · exact c.2
  · have := c.2
    omega
  · exact c.part.2

/-! The names above a key -/

/-- Inside a declaration, and in its expressions and types, the file-level names above a key are
those above the whole. -/
theorem above_of_mem_keys (m : Mode) (t : Tree) (v : Context)
    (h : m.isExpr = true ∨ v.top = false) : ∀ k ∈ keys s m t v, k.seen.above = v.above := by
  intro k hk
  rw [keys, List.mem_append, List.mem_flatMap] at hk
  obtain hk | ⟨c, hc, hk⟩ := hk
  · split at hk
    · obtain ⟨_, _, rfl⟩ := List.mem_map.1 hk
      rfl
    · cases hk
  · have hi : v.Inside c.seen → k.seen.above = v.above := fun hv =>
      (above_of_mem_keys c.mode c.part.1 c.seen (.inr hv.top) k hk).trans hv.above
    obtain hm | ht := h
    · obtain ⟨hm', hv⟩ | hv := expr_visits hm v c hc
      · rw [← hv]
        exact above_of_mem_keys c.mode c.part.1 c.seen (.inl hm') k hk
      · exact hi hv
    · exact hi (inside_visits (.refl ht) c hc)
termination_by t.size
decreasing_by all_goals exact c.part.2

theorem keys_text (role : Role) : keys s (.text role) t v = [] := by
  rw [keys]
  rfl

/-- Names that are declared, expressions that stand where `w` describes, and what is inside. -/
def Context.Leads (w : Context) (m : Mode) (u : Context) : Prop :=
  (∃ role, m = .text role) ∨ (m.isExpr = true ∧ u = w) ∨ w.Inside u

theorem above_of_mem_leads {w : Context} (hk : m.on t.kind ≠ .keyed)
    (h : AllSeen w.Leads (visits s m t v)) : ∀ k ∈ keys s m t v, k.seen.above = w.above := by
  intro k hm
  rw [keys, if_neg hk, List.nil_append] at hm
  obtain ⟨c, hc, hm⟩ := List.mem_flatMap.1 hm
  obtain ⟨role, hr⟩ | ⟨he, hw⟩ | hi := h c hc
  · rw [hr, keys_text] at hm
    cases hm
  · rw [← hw]
    exact above_of_mem_keys c.mode c.part.1 c.seen (.inl he) k hm
  · exact (above_of_mem_keys c.mode c.part.1 c.seen (.inr hi.top) k hm).trans hi.above

theorem leads_func : AllSeen v.Leads (visits s .func t v) := by
  have inside : ∀ {m u}, v.Inside u → ∀ cs : List (Tree.Below t), AllSeen v.Leads (each m cs u) :=
    fun hu cs => allSeen_each cs (.inr (.inr hu))
  have name : ∀ role (cs : List (Tree.Below t)), AllSeen v.Leads (each (.text role) cs v) :=
    fun role cs => allSeen_each cs (.inl ⟨role, rfl⟩)
  change AllSeen v.Leads (funcVisits s t v)
  simp only [funcVisits, signature, pastSignature, one, allSeen_append, name, inside,
    Context.Inside.declare_iff, Context.Inside.enter, and_self]

theorem leads_spec :
    AllSeen (match t.kind with
      | .part .typeSpec | .part .typeAlias => v.declare (declared s .spec t)
      | _ => v).Leads (visits s .spec t v) := by
  have name : ∀ {w : Context} (cs : List (Tree.Below t)),
      AllSeen w.Leads (each (.text .binds) cs v) := fun cs => allSeen_each cs (.inl ⟨_, rfl⟩)
  have type : ∀ {w u : Context}, w.Inside u → ∀ cs : List (Tree.Below t),
      AllSeen w.Leads (each .expr cs u) := fun hu cs => allSeen_each cs (.inr (.inr hu))
  have value : ∀ m, m.isExpr = true → ∀ cs : List (Tree.Below t),
      AllSeen v.Leads (each m cs v) := fun _ hm cs => allSeen_each cs (.inr (.inl ⟨hm, rfl⟩))
  change AllSeen _ (specVisits s t v)
  unfold specVisits
  generalize t.kind = k
  split
  all_goals simp only [one, allSeen_append, name, type, value .expr rfl, value .exprs rfl,
    Context.Inside.declare_iff, Context.Inside.inside, and_self]

/-- What comes before a passage is above everything in it. -/
theorem Passage.above_of_mem_keys (p : Passage) :
    ∀ k ∈ p.keys s, k.seen.above = (p.inOrder s).filter (· != "init") := by
  cases p with
  | func before t => exact above_of_mem_leads Mode.noConfusion leads_func
  | spec before done t =>
      intro k hk
      rw [above_of_mem_leads (m := .spec) Mode.noConfusion leads_spec k hk, inOrder]
      split <;> simp [atTop, Context.declare, Visible.declare]

/-! A file and its passages -/

theorem topSites_eq (ts : List Tree) (v : Context) :
    topSites s ts v = (withBefore ts).flatMap fun p =>
      sites s (topMode p.1) p.1 (v.declare (p.2.flatMap (topDeclared s))) := by
  induction ts generalizing v with
  | nil => rfl
  | cons t ts ih =>
      simp [topSites, withBefore_cons, ih, List.flatMap_map]

theorem sites_inTurn (m : Mode) (cs : List (Tree.Below t)) (v : Context) :
    (inTurn s m cs v).flatMap (Visit.sites s) = (withBefore (cs.map (·.1))).flatMap fun p =>
      sites s m p.1 (v.declare (p.2.flatMap (declared s m))) := by
  induction cs generalizing v with
  | nil => rfl
  | cons c cs ih =>
      simp [inTurn, withBefore_cons, ih, List.flatMap_map, Visit.sites]

/-- The specs that a part of a declaration stands for: those of a list, or the part itself. -/
def specsOf (t : Tree) : List Tree :=
  if t.kind.isSpecList then t.parts.map (·.1) else [t]

theorem map_val_specs (t : Tree) :
    t.specs.map (·.1) = (t.parts.map (·.1)).flatMap specsOf := by
  rw [Tree.specs, List.map_flatMap, List.flatMap_map]
  refine List.flatMap_congr fun c _ => ?_
  by_cases h : c.1.kind.isSpecList = true <;> simp [specsOf, h, Tree.Below.trans]

theorem declared_specs (t : Tree) :
    declared s .specs t = (specsOf t).flatMap (declared s .spec) := by
  by_cases h : t.kind.isSpecList = true
  · have hm : Mode.specs.on t.kind = .specs := if_pos h
    rw [declared, hm, specsOf, if_pos h, List.flatMap_map]
  · have hm : Mode.specs.on t.kind = Mode.spec.on t.kind := if_neg h
    rw [specsOf, if_neg h, List.flatMap_singleton, declared, hm, ← declared]

theorem sites_specs (t : Tree) (v : Context) :
    sites s .specs t v = (withBefore (specsOf t)).flatMap fun p =>
      sites s .spec p.1 (v.declare (p.2.flatMap (declared s .spec))) := by
  by_cases h : t.kind.isSpecList = true
  · have hm : Mode.specs.on t.kind = .specs := if_pos h
    have hv : visits s .specs t v = inTurn s .spec t.parts v := by
      unfold visits
      rw [hm]
    have hl : leaf s .specs t v = [] := by
      unfold leaf
      rw [hm]
    rw [sites_eq, hl, hv, sites_inTurn, specsOf, if_pos h]
    rfl
  · have hm : Mode.specs.on t.kind = Mode.spec.on t.kind := if_neg h
    rw [specsOf, if_neg h, sites_congr hm]
    simp [withBefore]

/-- The specs of a declaration in turn, grouped or not. -/
theorem sites_specs_inTurn (ts : List Tree) (v : Context) :
    ((withBefore ts).flatMap fun p =>
      sites s .specs p.1 (v.declare (p.2.flatMap (declared s .specs)))) =
      (withBefore (ts.flatMap specsOf)).flatMap fun p =>
        sites s .spec p.1 (v.declare (p.2.flatMap (declared s .spec))) := by
  induction ts generalizing v with
  | nil => rfl
  | cons t ts ih =>
      simp [withBefore_cons, withBefore_append, List.flatMap_map, ← ih, sites_specs,
        declared_specs]

/-- The sites of keys in a top-level node that is read are those of its passages. -/
theorem key?_sites_top (before : List Tree) {d : Option (Node Role)}
    (h : Draft.decl s t = .ok d) :
    (sites s (topMode t) t (atTop (before.flatMap (topDeclared s)))).filterMap Site.key? =
      (Passage.ofTop before t).flatMap fun p => (p.keys s).map (Key.shown s) := by
  have clause : (t.kind = .part .packageClause ∨ t.kind = .part .importDeclaration) →
      (sites s (topMode t) t (atTop (before.flatMap (topDeclared s)))).filterMap Site.key? =
        (Passage.ofTop before t).flatMap fun p => (p.keys s).map (Key.shown s) := by
    rintro (hk | hk) <;> simp [Passage.ofTop, topMode, hk, sites_eq, leaf, visits, Mode.on,
      Mode.atStmt, decides, stmtVisits]
  unfold Draft.decl at h
  split at h
  · rename_i hk
    simp [Passage.ofTop, topMode, hk, key?_sites .func t _ rfl, Passage.keys]
  · rename_i hk
    simp [Passage.ofTop, topMode, hk, key?_sites .func t _ rfl, Passage.keys]
  · rename_i k hk
    have hm : Mode.stmt.on t.kind = .stmt := by
      rw [hk]
      rfl
    have hv : ∀ v, visits s .stmt t v = inTurn s .specs t.parts v := by
      intro v
      unfold visits stmtVisits
      rw [hm, hk]
    have hl : ∀ v, leaf s .stmt t v = [] := by
      intro v
      unfold leaf
      rw [hm]
      simp [hk, decides]
    have ht : topMode t = .stmt := by
      rw [topMode, hk]
    have hp : Passage.ofTop before t =
        (withBefore (t.specs.map (·.1))).map fun p => .spec before p.2 p.1 := by
      rw [Passage.ofTop, hk]
    rw [hp, ht, sites_eq, hl, hv, List.nil_append, sites_inTurn, sites_specs_inTurn,
      ← map_val_specs, List.filterMap_flatMap, List.flatMap_map]
    refine List.flatMap_congr fun p _ => ?_
    rw [key?_sites .spec p.1 _ rfl, atTop, ← Context.declare_append]
    rfl
  · exact clause (.inl ‹_›)
  · exact clause (.inr ‹_›)
  · cases h

/-- The keys of a file that is read are where its sites of keys are. -/
theorem key?_fileSites {root : Tree} {ds : List (Option (Node Role))}
    (h : List.Forall₂ (fun t d => Draft.decl s t = .ok d) (fileParts root) ds) :
    (fileSites s root).filterMap Site.key? = (fileKeys s root).map fun q => q.2.shown s := by
  have hd : ∀ p ∈ withBefore (fileParts root), ∃ d, Draft.decl s p.1 = .ok d := by
    intro p hp
    obtain ⟨d, -, hd⟩ := Except.exists_of_forall₂ h (List.of_mem_zip hp).1
    exact ⟨d, hd⟩
  rw [fileSites, topSites_eq, List.filterMap_flatMap, fileKeys, Passage.ofFile, List.flatMap_assoc,
    List.map_flatMap]
  refine List.flatMap_congr fun p hp => ?_
  obtain ⟨d, hd⟩ := hd p hp
  refine (key?_sites_top p.2 hd).trans ?_
  simp [List.map_flatMap, Function.comp_def]

/-- What becomes of a key. But for the blank name, it is resolved exactly if a construct around it
declares its name, or a declaration of the file before it does. -/
structure Key.IsAnswered (s : Source) (root : Tree) (p : Passage) (k : Key) (a : Answer) : Prop where
  name : a.name = k.name s
  resolved : a.name ≠ blank →
    (a.resolved = true ↔ a.name ∈ k.seen.locals ∨ (a.name ≠ "init" ∧ a.name ∈ p.inOrder s))
  /-- A plain name in its place would be resolved as well. -/
  use : a.name ≠ blank → a.resolved = true →
    (Site.use a.name k.seen).judged (fileScope s root) = some (a.name, true)

/-- What is said at the site of a key. -/
def Key.answer (s : Source) (k : Key) : Answer :=
  ⟨k.name s, .key, (k.name s ≠ blank ∧ k.name s ∈ k.seen.locals) ∨ k.name s ∈ k.seen.above⟩

theorem mem_of_mem_withBefore {ts : List Tree} {p : Tree × List Tree} (h : p ∈ withBefore ts) :
    p.1 ∈ ts ∧ ∀ u ∈ p.2, u ∈ ts := by
  obtain ⟨ht, hb⟩ := List.of_mem_zip h
  exact ⟨ht, ((List.mem_inits _ _).1 hb).subset⟩

theorem mem_fileNames_of_mem_specs {k : DeclKind} (hk : t.kind = .decl k) {c : Tree}
    (hc : c ∈ t.specs.map (·.1)) {x : String} (hx : x ∈ declared s .spec c) :
    x ∈ fileNames s t := by
  obtain ⟨d, hd, rfl⟩ := List.mem_map.1 hc
  simp only [fileNames, hk, List.mem_flatMap]
  exact ⟨d, hd, mem_names_of_declared_spec hx⟩

/-- What comes before a passage belongs to the names of the file. -/
theorem mem_fileScope_of_mem_inOrder {root : Tree} {p : Passage} (hp : p ∈ Passage.ofFile root)
    {x : String} (hx : x ∈ p.inOrder s) : x ∈ fileScope s root := by
  obtain ⟨⟨t, before⟩, ht, hp⟩ := List.mem_flatMap.1 hp
  obtain ⟨ht, hb⟩ := mem_of_mem_withBefore ht
  have above : x ∈ before.flatMap (topDeclared s) → x ∈ fileScope s root := by
    intro hx
    obtain ⟨u, hu, hx⟩ := List.mem_flatMap.1 hx
    exact List.mem_flatMap.2 ⟨u, hb u hu, mem_fileNames_of_topDeclared hx⟩
  unfold Passage.ofTop at hp
  split at hp
  · rw [List.mem_singleton.1 hp] at hx
    exact above hx
  · rw [List.mem_singleton.1 hp] at hx
    exact above hx
  · rename_i k hk
    obtain ⟨⟨c, done⟩, hc, rfl⟩ := List.mem_map.1 hp
    obtain ⟨hc, hd⟩ := mem_of_mem_withBefore hc
    have spec : ∀ d ∈ t.specs.map (·.1), x ∈ declared s .spec d → x ∈ fileScope s root :=
      fun d hd hx => List.mem_flatMap.2 ⟨t, ht, mem_fileNames_of_mem_specs hk hd hx⟩
    rw [Passage.inOrder, List.mem_append, List.mem_append] at hx
    obtain (hx | hx) | hx := hx
    · exact above hx
    · obtain ⟨d, hm, hx⟩ := List.mem_flatMap.1 hx
      exact spec d (hd d hm) hx
    · split at hx
      · exact spec c hc hx
      · exact spec c hc hx
      · cases hx
  · cases hp

theorem isAnswered_answer {root : Tree} {p : Passage} (hp : p ∈ Passage.ofFile root) {k : Key}
    (hk : k ∈ p.keys s) : k.IsAnswered s root p (k.answer s) := by
  have ha := p.above_of_mem_keys k hk
  have hr : (k.answer s).name ≠ blank → ((k.answer s).resolved = true ↔
      (k.answer s).name ∈ k.seen.locals ∨
        ((k.answer s).name ≠ "init" ∧ (k.answer s).name ∈ p.inOrder s)) := by
    intro hb
    have hb : k.name s ≠ blank := hb
    simp [Key.answer, ha, hb, and_comm]
  refine ⟨rfl, hr, fun hb h => ?_⟩
  have hs : (k.answer s).name ∈ fileScope s root ∨ (k.answer s).name ∈ k.seen.locals := by
    obtain h | h := (hr hb).1 h
    · exact .inr h
    · exact .inl (mem_fileScope_of_mem_inOrder hp h.2)
  simp only [Site.judged, decide_eq_true (And.intro hb hs)]

end Lexical

open Draft Binding Lexical Node

variable {s : Source}

/-- In a file that is read, the keys that are names stand in the order of the finished construct
with what becomes of them. -/
theorem keys_resolved {root : Tree} {decls : List (Node Bool)}
    (h : GoFile.declarations s root = .ok decls) :
    ∃ drafts, Draft.file s root = .ok (fileScope s root, drafts) ∧
      (answersAll drafts decls).map (fun a => (a.name, a.resolved)) =
        decls.flatMap Node.identifiers ∧
      List.Forall₂ (fun q a => q.2.IsAnswered s root q.1 a) (fileKeys s root)
        ((answersAll drafts decls).filter (·.role = .key)) := by
  obtain ⟨ds, hds, -, -⟩ := declarations_eq_ok h
  obtain ⟨drafts, hfile, hcover, hs⟩ := answers_file h
  refine ⟨drafts, hfile, hcover, ?_⟩
  have keys : (answersAll drafts decls).filter (·.role = .key) =
      (fileKeys s root).map fun q => q.2.answer s := by
    calc (answersAll drafts decls).filter (·.role = .key)
        = ((fileSites s root).filterMap Site.key?).map fun q =>
            ⟨q.1, .key, (q.1 ≠ blank ∧ q.1 ∈ q.2.locals) ∨ q.1 ∈ q.2.above⟩ := by
          rw [hs, List.filter_filterMap, List.map_filterMap]
          congr 1
          funext site
          cases site <;> rfl
      _ = (fileKeys s root).map fun q => q.2.answer s := by
          rw [key?_fileSites hds, List.map_map]
          rfl
  rw [keys, List.forall₂_map_right_iff, List.forall₂_same]
  intro q hq
  obtain ⟨p, hp, hq⟩ := List.mem_flatMap.1 hq
  obtain ⟨k, hk, rfl⟩ := List.mem_map.1 hq
  exact isAnswered_answer hp hk

/-- A literal of type `T` whose keys are `n` letters, such as `T{a:1,b:2}`. -/
def lettered (slot : Option Slot) (start n : Nat) : Tree :=
  written (.expr .compositeLiteral) slot start (start + 2 + 4 * n)
    [written (.expr .typeIdentifier) (some .type) start (start + 1) [],
      written (.expr .literalValue) (some .body) (start + 1) (start + 2 + 4 * n)
        ((List.range n).map fun i =>
          let place := start + 2 + 4 * i
          written (.part .keyedElement) none place (place + 3)
            [written (.part .literalElement) (some .key) place (place + 1) [letter none place],
              written (.part .literalElement) (some .value) (place + 2) (place + 3)
                [written (.expr .intLiteral) none (place + 2) (place + 3) []]])]

/-- The file of `var a = 1
func f(b t){T{a:1,b:2,c:3,f:4}}
var c = T{c:5,f:6}`. -/
def keyedFile : Tree :=
  written (.other "source_file") none 0 60
    [varOf 0 9 (written (.expr .intLiteral) none 8 9 []),
      written .functionDeclaration none 10 41
        [letter (some .name) 15,
          written (.part .parameterList) (some .parameters) 16 21
            [written (.other "parameter_declaration") none 17 20
              [letter (some .name) 17, written (.expr .typeIdentifier) (some .type) 19 20 []]],
          written (.stmt .block) (some .body) 21 41
            [written (.stmt .expressionStatement) none 22 40 [lettered none 22 4]]],
      varOf 42 60 (lettered none 50 2)]

def keyedSource : Source :=
  ⟨"p.go", "var a = 1\nfunc f(b t)\x7bT\x7ba:1,b:2,c:3,f:4\x7d\x7d\nvar c = T\x7bc:5,f:6\x7d".toUTF8.toList⟩

/-- A variable above is found, and a parameter; what the file declares below is not, nor the
function and the variable in themselves. Behind the function its name is found. -/
theorem keys_resolved_keyedFile :
    ∃ drafts decls, GoFile.declarations keyedSource keyedFile = .ok decls ∧
      List.Forall₂ (fun q a => q.2.IsAnswered keyedSource keyedFile q.1 a)
        (fileKeys keyedSource keyedFile)
        ((answersAll drafts decls).filter (·.role = .key)) ∧
      ((answersAll drafts decls).filter (·.role = .key)).map (fun a => (a.name, a.resolved)) =
        [("a", true), ("b", true), ("c", false), ("f", false), ("c", false), ("f", true)] := by
  obtain ⟨decls, h⟩ := Except.exists_eq_ok
    (x := GoFile.declarations keyedSource keyedFile) (by decide +kernel)
  obtain ⟨drafts, hfile, -, hk⟩ := keys_resolved h
  obtain ⟨drafts', hfile', -, hs⟩ := answers_file h
  obtain rfl : drafts = drafts' := by
    rw [hfile] at hfile'
    injection hfile' with he
    exact (Prod.mk.inj he).2
  refine ⟨drafts, decls, h, hk, ?_⟩
  rw [hs]
  decide +kernel

end GoMetrics
