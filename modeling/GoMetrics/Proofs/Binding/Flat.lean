import GoMetrics.Metrics.Cyclomatic
import GoMetrics.Proofs.Binding.Visible
import GoMetrics.Proofs.Walk

/-!
Resolving as a function of a flat list of names. `binds` says which names a draft leaves in force,
and `stands` which drafts are read at a draft and with which names in force; `sites` follows that
table down to the identifiers. There is no state in it: a construct with a scope of its own binds
nothing. The main result is that an environment passed through the draft does the same.
-/

namespace GoMetrics

open Lexical

namespace Node

/-- What a draft without a scope of its own reads, in the order of reading. -/
def turns : Node Role → List (Node Role)
  | .arrayType elt len _ _ => len.toList ++ [elt]
  | .field names type => type.toList ++ names
  | .assign lhs _ rhs => rhs ++ lhs
  | .valueSpec names type values => type.toList ++ values ++ names
  | .typeSpec name _ _ => [name]
  | .funcLit .. | .block .. | .ifStmt .. | .caseClause .. | .switch .. | .typeSwitch ..
  | .commClause .. | .forStmt .. | .range .. | .funcType .. | .funcDecl .. => []
  | n => n.places

theorem mem_places_of_mem_turns {c n : Node Role} (h : c ∈ n.turns) : c ∈ n.places := by
  cases n with
  | arrayType | field | assign | valueSpec | typeSpec =>
      simp only [turns, places, List.mem_append, List.mem_cons] at h ⊢
      grind
  | funcLit | block | ifStmt | caseClause | switch | typeSwitch | commClause | forStmt | range
  | funcType | funcDecl => cases h
  | _ => exact h

/-- The names that a draft leaves in force behind it. Functions are declared at file level only,
where an initialiser has no name. A signature passes its names on to the body behind it. -/
def binds (top sig : Bool) (n : Node Role) : List String :=
  match n with
  | .ident x role => if role = .binds then [x] else []
  | .funcType params results _ =>
    if sig then (params ++ results).flatMap (binds top false) else []
  | .funcDecl name _ _ _ _ _ _ recv => if top ∧ recv = none ∧ name ≠ "init" then [name] else []
  | n => n.turns.attach.flatMap fun c => binds top false c.1
termination_by n.bulk
decreasing_by
  · exact bulk_lt_of_mem_places ‹_ ∈ (funcType params results _).places›
  · exact bulk_lt_of_mem_places (mem_places_of_mem_turns c.2)

/-- Whether what a draft binds is what its turns bind. -/
def bindsInTurn : Node Role → Bool
  | .ident .. | .funcType .. | .funcDecl .. => false
  | _ => true

theorem binds_eq_flatMap_turns (top sig : Bool) {n : Node Role} (h : n.bindsInTurn = true) :
    n.binds top sig = n.turns.flatMap (binds top false) := by
  have hb : n.binds top sig = n.turns.attach.flatMap fun c => binds top false c.1 := by
    cases n with
    | ident | funcType | funcDecl => cases h
    | _ => rw [binds.eq_def]
  rw [hb, List.flatMap_subtype (g := binds top false) (fun _ _ => rfl), List.unattach_attach]

/-- What is visible behind drafts that are read in turn. -/
def past (ns : List (Node Role)) (v : Visible) : Visible :=
  v.declare (ns.flatMap (binds v.top false))

@[simp] theorem past_nil (v : Visible) : past [] v = v := by
  simp [past]

@[simp] theorem past_append (ms ns : List (Node Role)) (v : Visible) :
    past (ms ++ ns) v = past ns (past ms v) := by
  simp [past]

/-- A draft with the names in force where it stands. -/
structure Stand where
  node : Node Role
  /-- Whether it is read as the signature of a function with a body. -/
  sig : Bool
  seen : Visible

/-- Drafts that are read in turn, each with what those before it bind. -/
def inTurn : List (Node Role) → Visible → List Stand
  | [], _ => []
  | n :: ns, v => ⟨n, false, v⟩ :: inTurn ns (past [n] v)

/-- The drafts that are read at a draft, in the order of its places. -/
def stands (sig : Bool) (n : Node Role) (v : Visible) : List Stand :=
  let v₁ := v.inside
  match n with
  | .funcType params results _ => inTurn (params ++ results) (if sig then v else v₁)
  | .funcLit type body => [⟨type, true, v₁⟩, ⟨body, false, v₁.declare (type.binds false true)⟩]
  | .arrayType elt len _ _ => ⟨elt, false, past len.toList v⟩ :: inTurn len.toList v
  | .field names type => inTurn names (past type.toList v) ++ inTurn type.toList v
  | .block stmts _ _ => inTurn stmts v₁
  | .assign lhs _ rhs => inTurn lhs (past rhs v) ++ inTurn rhs v
  | .ifStmt cond body init orElse =>
    inTurn [cond, body] (past init.toList v₁) ++ inTurn init.toList v₁ ++
      inTurn orElse.toList (past [cond, body] (past init.toList v₁))
  | .caseClause exprs body _ => inTurn (exprs.getD [] ++ body) v₁
  | .switch body init tag =>
    ⟨body, false, past (init.toList ++ tag.toList) v₁⟩ :: inTurn (init.toList ++ tag.toList) v₁
  | .typeSwitch guard body init =>
    inTurn [guard, body] (past init.toList v₁) ++ inTurn init.toList v₁
  | .commClause comm body _ => inTurn (comm.toList ++ body) v₁
  | .forStmt body init cond post =>
    ⟨body, false, past (init.toList ++ cond.toList ++ post.toList) v₁⟩ ::
      inTurn (init.toList ++ cond.toList ++ post.toList) v₁
  | .range x body key value _ surplus =>
    ⟨x, false, v₁⟩ :: ⟨body, false, past (x :: (key.toList ++ value.toList ++ surplus)) v₁⟩ ::
      inTurn (key.toList ++ value.toList) (past [x] v₁)
  | .valueSpec names type values =>
    inTurn names (past (type.toList ++ values) v) ++ inTurn (type.toList ++ values) v
  | .typeSpec name tps type =>
    [⟨name, false, v⟩, ⟨type, false, (past [name] v).inside.declare tps⟩]
  | .funcDecl name info tps type _ _ body recv =>
    let v₂ := (past (recv.getD []) v₁).declare tps
    ⟨.ident name info, false, v⟩ :: ⟨type, true, v₂⟩ ::
      (inTurn body.toList (v₂.declare (type.binds false true)) ++ inTurn (recv.getD []) v₁)
  | .position .. | .file .. | .package .. => []
  | n => inTurn n.places v

/-- Constructs that read their places in turn, in the scope where they stand. -/
def isPlain : Node Role → Bool
  | .ident .. | .funcType .. | .funcLit .. | .arrayType .. | .field .. | .block .. | .assign ..
  | .ifStmt .. | .caseClause .. | .switch .. | .typeSwitch .. | .commClause .. | .forStmt ..
  | .range .. | .valueSpec .. | .typeSpec .. | .funcDecl .. | .position .. | .file ..
  | .package .. => false
  | _ => true

theorem binds_of_isPlain (top sig : Bool) {n : Node Role} (h : isPlain n = true) :
    n.binds top sig = n.places.flatMap (binds top false) := by
  cases n with
  | ident | funcType | funcLit | arrayType | field | block | assign | ifStmt | caseClause | switch
  | typeSwitch | commClause | forStmt | range | valueSpec | typeSpec | funcDecl | position | file
  | package => cases h
  | _ => exact binds_eq_flatMap_turns top sig rfl

theorem stands_of_isPlain (sig : Bool) {n : Node Role} (h : isPlain n = true) (v : Visible) :
    n.stands sig v = inTurn n.places v := by
  cases n <;> first | rfl | cases h

theorem map_node_inTurn (ns : List (Node Role)) (v : Visible) :
    (inTurn ns v).map Stand.node = ns := by
  induction ns generalizing v with
  | nil => rfl
  | cons n ns ih => rw [inTurn, List.map_cons, ih]

/-- Every draft that is read at a construct stands in one of its places, and each place is read
once. -/
theorem map_node_stands (sig : Bool) {n : Node Role} (h : n.isConstruct = true) (v : Visible) :
    (n.stands sig v).map Stand.node = n.places := by
  cases n with
  | position | file | package => cases h
  | _ => simp [stands, places, map_node_inTurn]

theorem node_mem_places {sig : Bool} {n : Node Role} {v : Visible} {c : Stand}
    (h : c ∈ n.stands sig v) : c.node ∈ n.places := by
  cases hn : n.isConstruct with
  | true =>
      rw [← map_node_stands sig hn v]
      exact List.mem_map_of_mem h
  | false =>
      cases n with
      | position | file | package => cases h
      | _ => cases hn

/-- What is measured of a draft by itself. -/
def ownSites (v : Visible) : Node Role → List Site
  | .ident x role => [.ofRole x v role]
  | n => if n.decides then [.decision] else []

/-- Constructs that are no identifiers. -/
def isCompound : Node Role → Bool
  | .ident .. | .position .. | .file .. | .package .. => false
  | _ => true

theorem isCompound_of_isPlain {n : Node Role} (h : isPlain n = true) : isCompound n = true := by
  cases n <;> first | rfl | cases h

theorem ownSites_of_isCompound {n : Node Role} (h : isCompound n = true) (v : Visible) :
    n.ownSites v = if n.decides then [.decision] else [] := by
  cases n <;> first | rfl | cases h

/-- What is measured of a draft in the order of a walk, each identifier with the names in force
there. -/
def sites (sig : Bool) (n : Node Role) (v : Visible) : List Site :=
  n.ownSites v ++ (n.stands sig v).attach.flatMap fun c => sites c.1.sig c.1.node c.1.seen
termination_by n.bulk
decreasing_by exact bulk_lt_of_mem_places (node_mem_places c.2)

def Stand.sites (c : Stand) : List Site :=
  c.node.sites c.sig c.seen

theorem sites_eq (sig : Bool) (n : Node Role) (v : Visible) :
    n.sites sig v = n.ownSites v ++ (n.stands sig v).flatMap Stand.sites := by
  rw [sites, List.flatMap_subtype (g := Stand.sites) (fun _ _ => rfl), List.unattach_attach]

/-- What is measured of several drafts that are read in turn. -/
def sitesAll (ns : List (Node Role)) (v : Visible) : List Site :=
  (inTurn ns v).flatMap Stand.sites

@[simp] theorem sitesAll_nil (v : Visible) : sitesAll [] v = [] :=
  rfl

theorem sitesAll_cons (n : Node Role) (ns : List (Node Role)) (v : Visible) :
    sitesAll (n :: ns) v = n.sites false v ++ sitesAll ns (past [n] v) :=
  rfl

@[simp] theorem sitesAll_append (ms ns : List (Node Role)) (v : Visible) :
    sitesAll (ms ++ ns) v = sitesAll ms v ++ sitesAll ns (past ms v) := by
  induction ms generalizing v with
  | nil => simp
  | cons m ms ih =>
      have hp : past (m :: ms) v = past ms (past [m] v) := past_append [m] ms v
      rw [List.cons_append, sitesAll_cons, sitesAll_cons, ih, hp, List.append_assoc]

@[simp] theorem sitesAll_singleton (n : Node Role) (v : Visible) :
    sitesAll [n] v = n.sites false v := by
  rw [sitesAll_cons, sitesAll_nil, List.append_nil]

/-- What is measured of a finished construct by itself: an identifier with its resolution, or a
decision. -/
def ownMarks : Node Bool → List (Option (String × Bool))
  | .ident x resolved => [some (x, resolved)]
  | n => if n.decides then [none] else []

/-- What is measured of a finished construct in the order of a walk. -/
def marks : Node Bool → List (Option (String × Bool)) :=
  gather ownMarks

end Node
end GoMetrics
