import GoMetrics.Proofs.Binding.Flat

/-!
An environment passed through a draft sees what the flat description of the draft says. Most
constructs read what stands in their places in turn; for the others the order of reading and the
scopes are followed one by one.
-/

namespace GoMetrics.Binding

open Lexical Node

/-! Reading in turn -/

/-- What a draft becomes. -/
def out (sig : Bool) (n : Node Role) (e : Env) : Node Bool :=
  ((resolve sig n).run e).1

/-- The environment behind a draft. -/
def after (sig : Bool) (n : Node Role) (e : Env) : Env :=
  ((resolve sig n).run e).2

def outAll (ns : List (Node Role)) (e : Env) : List (Node Bool) :=
  ((resolveAll ns).run e).1

def afterAll (ns : List (Node Role)) (e : Env) : Env :=
  ((resolveAll ns).run e).2

@[simp] theorem outAll_nil (e : Env) : outAll [] e = [] :=
  rfl

@[simp] theorem afterAll_nil (e : Env) : afterAll [] e = e :=
  rfl

@[simp] theorem outAll_cons (n : Node Role) (ns : List (Node Role)) (e : Env) :
    outAll (n :: ns) e = out false n e :: outAll ns (after false n e) :=
  rfl

@[simp] theorem afterAll_cons (n : Node Role) (ns : List (Node Role)) (e : Env) :
    afterAll (n :: ns) e = afterAll ns (after false n e) :=
  rfl

@[simp] theorem outAll_append (ms ns : List (Node Role)) (e : Env) :
    outAll (ms ++ ns) e = outAll ms e ++ outAll ns (afterAll ms e) := by
  induction ms generalizing e with
  | nil => rfl
  | cons m ms ih => simp [ih]

@[simp] theorem afterAll_append (ms ns : List (Node Role)) (e : Env) :
    afterAll (ms ++ ns) e = afterAll ns (afterAll ms e) := by
  induction ms generalizing e with
  | nil => rfl
  | cons m ms ih => simp [ih]

theorem out_of_isPlain (sig : Bool) {n : Node Role} (h : isPlain n = true) (e : Env) :
    (out sig n e).places = outAll n.places e ∧ after sig n e = afterAll n.places e := by
  cases n with
  | slice x low high max _ _ => cases low <;> cases high <;> cases max <;> exact ⟨rfl, rfl⟩
  | typeAssert _ o _ _ | compositeLit o _ _ _ | ellipsis o | branch _ o | importSpec _ o =>
      cases o <;> exact ⟨rfl, rfl⟩
  | ident | funcType | funcLit | arrayType | field | block | assign | ifStmt | caseClause | switch
  | typeSwitch | commClause | forStmt | range | valueSpec | typeSpec | funcDecl | position | file
  | package => cases h
  | _ => exact ⟨rfl, rfl⟩

/-- Resolving a compound construct keeps what it is. -/
theorem shape_out (sig : Bool) {n : Node Role} (h : isCompound n = true) (e : Env) :
    isConstruct (out sig n e) = true ∧ decides (out sig n e) = n.decides ∧
      ownMarks (out sig n e) = if decides (out sig n e) then [none] else [] := by
  cases n with
  | funcType => cases sig <;> exact ⟨rfl, rfl, rfl⟩
  | funcDecl _ _ _ _ _ _ _ recv => cases recv <;> exact ⟨rfl, rfl, rfl⟩
  | ident | position | file | package => cases h
  | _ => exact ⟨rfl, rfl, rfl⟩

theorem marks_out (file : List String) (sig : Bool) {n : Node Role} (h : isCompound n = true)
    (e : Env) (v : Visible) :
    marks (out sig n e) =
      (n.ownSites v).map (Site.judged file) ++ (out sig n e).places.flatMap marks := by
  obtain ⟨hc, hd, ho⟩ := shape_out sig h e
  rw [marks, gather_eq _ _ hc, ho, hd, ownSites_of_isCompound h]
  cases n.decides <;> rfl

theorem isConstruct_of_mem_outAll {ns : List (Node Role)} (h : ∀ n ∈ ns, isCompound n = true)
    (e : Env) : ∀ m ∈ outAll ns e, m.isConstruct = true := by
  induction ns generalizing e with
  | nil => nofun
  | cons n ns ih =>
      rw [List.forall_mem_cons] at h
      rw [outAll_cons, List.forall_mem_cons]
      exact ⟨(shape_out false h.1 e).1, ih h.2 _⟩

/-! Agreement with the flat description -/

variable (file : List String)

/-- Whatever the environment, a draft declares what it binds, and its identifiers are resolved by
the names in force where they stand. -/
def Agrees (sig : Bool) (n : Node Role) : Prop :=
  ∀ e v, Shows file e v → (v.top = true → ∀ x ∈ n.binds true sig, x ∈ file) →
    after sig n e = e.declares (n.binds v.top sig) ∧
      marks (out sig n e) = (n.sites sig v).map (Site.judged file)

/-- The same for several drafts that are read in turn. -/
def AgreesAll (ns : List (Node Role)) : Prop :=
  ∀ e v, Shows file e v → (v.top = true → ∀ x ∈ ns.flatMap (binds true false), x ∈ file) →
    afterAll ns e = e.declares (ns.flatMap (binds v.top false)) ∧
      (outAll ns e).flatMap marks = (sitesAll ns v).map (Site.judged file)

variable {file}

theorem Agrees.shows {sig : Bool} {n : Node Role} (h : Agrees file sig n) {e : Env} {v : Visible}
    (hs : Shows file e v) (hn : v.top = true → ∀ x ∈ n.binds true sig, x ∈ file) :
    Shows file (after sig n e) (v.declare (n.binds v.top sig)) := by
  rw [(h e v hs hn).1]
  exact hs.declares _ fun ht => by simpa [ht] using hn ht

theorem AgreesAll.shows {ns : List (Node Role)} (h : AgreesAll file ns) {e : Env} {v : Visible}
    (hs : Shows file e v)
    (hn : v.top = true → ∀ x ∈ ns.flatMap (binds true false), x ∈ file) :
    Shows file (afterAll ns e) (past ns v) := by
  rw [(h e v hs hn).1]
  exact hs.declares _ fun ht => by simpa [ht] using hn ht

theorem agreesAll {ns : List (Node Role)} (h : ∀ n ∈ ns, Agrees file false n) :
    AgreesAll file ns := by
  induction ns with
  | nil =>
      intro e v _ _
      exact ⟨rfl, rfl⟩
  | cons n ns ih =>
      intro e v hs hn
      simp only [List.flatMap_cons, List.mem_append] at hn
      have h₁ := h n List.mem_cons_self
      have hs₁ := h₁.shows hs fun ht x hx => hn ht x (.inl hx)
      obtain ⟨a₁, i₁⟩ := h₁ e v hs fun ht x hx => hn ht x (.inl hx)
      obtain ⟨a₂, i₂⟩ := ih (fun m hm => h m (List.mem_cons_of_mem n hm)) _ _ hs₁
        fun ht x hx => hn (by simpa using ht) x (.inr hx)
      constructor
      · rw [afterAll_cons, a₂, a₁, Visible.top_declare, List.flatMap_cons, Env.declares_append]
      · rw [outAll_cons, List.flatMap_cons, i₁, i₂]
        simp [sitesAll, inTurn, Stand.sites, past]

/-- Below file level every name can be declared. -/
theorem AgreesAll.inside {ns : List (Node Role)} (h : AgreesAll file ns) {e : Env} {v : Visible}
    (hs : Shows file e v) (hv : v.top = false) :
    Shows file (afterAll ns e) (past ns v) ∧
      (outAll ns e).flatMap marks = (sitesAll ns v).map (Site.judged file) := by
  have hn : v.top = true → ∀ x ∈ ns.flatMap (binds true false), x ∈ file := by simp [hv]
  exact ⟨h.shows hs hn, (h e v hs hn).2⟩

theorem Agrees.inside {sig : Bool} {n : Node Role} (h : Agrees file sig n) {e : Env} {v : Visible}
    (hs : Shows file e v) (hv : v.top = false) :
    Shows file (after sig n e) (v.declare (n.binds v.top sig)) ∧
      marks (out sig n e) = (n.sites sig v).map (Site.judged file) := by
  have hn : v.top = true → ∀ x ∈ n.binds true sig, x ∈ file := by simp [hv]
  exact ⟨h.shows hs hn, (h e v hs hn).2⟩

/-- It is enough to look at the places of a construct. -/
theorem agrees_of_places {sig : Bool} {n : Node Role} (hc : isCompound n = true)
    (h : ∀ e v, Shows file e v → (v.top = true → ∀ x ∈ n.binds true sig, x ∈ file) →
      after sig n e = e.declares (n.binds v.top sig) ∧
        (out sig n e).places.flatMap marks =
          ((n.stands sig v).flatMap Stand.sites).map (Site.judged file)) :
    Agrees file sig n := by
  intro e v hs hn
  obtain ⟨a, i⟩ := h e v hs hn
  rw [marks_out file sig hc e v, sites_eq, List.map_append, i]
  exact ⟨a, rfl⟩

/-- A construct with a scope of its own leaves the environment as it was. -/
theorem agrees_of_scope {sig : Bool} {n : Node Role} (hc : isCompound n = true)
    (hb : ∀ top, n.binds top sig = [])
    (ha : ∀ e, after sig n e = e)
    (h : ∀ e v, Shows file e.push v.inside →
      (out sig n e).places.flatMap marks =
        ((n.stands sig v).flatMap Stand.sites).map (Site.judged file)) :
    Agrees file sig n := by
  apply agrees_of_places hc
  intro e v hs _
  rw [ha, hb]
  exact ⟨rfl, h e v hs.push⟩

theorem agrees_of_isPlain {n : Node Role} (hp : isPlain n = true)
    (h : AgreesAll file n.places) (sig : Bool) : Agrees file sig n := by
  apply agrees_of_places (isCompound_of_isPlain hp)
  intro e v hs hn
  rw [binds_of_isPlain _ _ hp] at hn ⊢
  rw [(out_of_isPlain sig hp e).1, (out_of_isPlain sig hp e).2, stands_of_isPlain sig hp]
  exact h e v hs hn

/-- What is no construct has no identifiers, but it can hold drafts that bind names. -/
theorem agrees_of_not_isConstruct {n : Node Role} (hc : n.isConstruct = false)
    (h : AgreesAll file n.places) (sig : Bool) : Agrees file sig n := by
  intro e v hs hn
  have hb : ∀ top, n.binds top sig = n.places.flatMap (binds top false) := by
    intro top
    cases n with
    | position | file | package => exact binds_eq_flatMap_turns top sig rfl
    | _ => cases hc
  rw [hb] at hn ⊢
  have ha := (h e v hs hn).1
  rw [sites_eq]
  cases n with
  | position | file | package => exact ⟨ha, rfl⟩
  | _ => cases hc

/-- Constructs that read the last of their places first. -/
theorem agrees_of_turns {sig : Bool} {n : Node Role} {ms ns : List (Node Role)}
    (hc : isCompound n = true) (hb : n.bindsInTurn = true) (ht : n.turns = ms ++ ns)
    (hv : ∀ v, n.stands sig v = inTurn ns (past ms v) ++ inTurn ms v)
    (ha : ∀ e, after sig n e = afterAll (ms ++ ns) e)
    (ho : ∀ e, (out sig n e).places = outAll ns (afterAll ms e) ++ outAll ms e)
    (hm : AgreesAll file ms) (hn : AgreesAll file ns) : Agrees file sig n := by
  apply agrees_of_places hc
  intro e v hs hf
  rw [binds_eq_flatMap_turns _ _ hb, ht, List.flatMap_append] at hf ⊢
  simp only [List.mem_append] at hf
  have hs₁ := hm.shows hs fun ht x hx => hf ht x (.inl hx)
  obtain ⟨a₁, i₁⟩ := hm e v hs fun ht x hx => hf ht x (.inl hx)
  obtain ⟨a₂, i₂⟩ := hn _ _ hs₁ fun ht x hx => hf (by simpa [past] using ht) x (.inr hx)
  constructor
  · rw [ha, afterAll_append, a₂, a₁, Env.declares_append, past, Visible.top_declare]
  · rw [ho, hv, List.flatMap_append, List.flatMap_append, List.map_append, i₂, i₁]
    rfl

/-! Constructs with scopes -/

theorem marks_ident {e : Env} {v : Visible} (hs : Shows file e v) (sig : Bool) (x : String)
    (role : Role) :
    marks (.ident x (e.resolves x role)) =
      ((Node.ident x role).sites sig v).map (Site.judged file) := by
  rw [marks, gather_eq _ _ rfl, sites_eq]
  simp [ownMarks, ownSites, places, stands, inTurn, hs.judged_ofRole]

theorem agrees_ident (sig : Bool) (x : String) (role : Role) :
    Agrees file sig (.ident x role) := by
  intro e v hs _
  have ho : out sig (.ident x role) e = .ident x (e.resolves x role) := by
    cases role <;> rfl
  have ha : after sig (.ident x role) e = e.declares ((Node.ident x role).binds v.top sig) := by
    rw [binds]
    cases role <;> rfl
  rw [ho]
  exact ⟨ha, marks_ident hs sig x role⟩

/-- Drafts that a construct reads in turn in a scope of its own. -/
theorem agrees_of_inTurn {sig : Bool} {n : Node Role} {ns : List (Node Role)}
    (hc : isCompound n = true) (hb : ∀ top, n.binds top sig = []) (ha : ∀ e, after sig n e = e)
    (hv : ∀ v, n.stands sig v = inTurn ns v.inside)
    (ho : ∀ e, (out sig n e).places = outAll ns e.push) (h : AgreesAll file ns) :
    Agrees file sig n := by
  apply agrees_of_scope hc hb ha
  intro e v hs
  rw [ho, hv]
  exact (h.inside hs rfl).2

/-- Drafts that a construct reads in a scope of its own, the last of its places first. -/
theorem agrees_of_header {sig : Bool} {n : Node Role} {ms ns : List (Node Role)}
    (hc : isCompound n = true) (hb : ∀ top, n.binds top sig = []) (ha : ∀ e, after sig n e = e)
    (hv : ∀ v, n.stands sig v = inTurn ns (past ms v.inside) ++ inTurn ms v.inside)
    (ho : ∀ e, (out sig n e).places = outAll ns (afterAll ms e.push) ++ outAll ms e.push)
    (hm : AgreesAll file ms) (hn : AgreesAll file ns) : Agrees file sig n := by
  apply agrees_of_scope hc hb ha
  intro e v hs
  obtain ⟨hs₁, i₁⟩ := hm.inside hs rfl
  obtain ⟨-, i₂⟩ := hn.inside hs₁ rfl
  rw [ho, hv, List.flatMap_append, List.flatMap_append, List.map_append, i₂, i₁]
  rfl

theorem agrees_funcType {params results : List (Node Role)} (keyword sig : Bool)
    (h : AgreesAll file (params ++ results)) :
    Agrees file sig (.funcType params results keyword) := by
  cases sig with
  | true =>
      apply agrees_of_places rfl
      intro e v hs hn
      simp only [binds, if_true] at hn ⊢
      have ha := h e v hs hn
      rw [afterAll_append, outAll_append] at ha
      exact ha
  | false =>
      refine agrees_of_inTurn rfl (fun top => ?_) (fun e => rfl) (fun v => rfl) (fun e => ?_) h
      · rw [binds, if_neg Bool.false_ne_true]
      · rw [outAll_append]
        rfl

theorem agrees_funcLit {type body : Node Role} (ht : Agrees file true type)
    (hb : Agrees file false body) (sig : Bool) : Agrees file sig (.funcLit type body) := by
  apply agrees_of_scope rfl (fun top => binds_eq_flatMap_turns top sig rfl) (fun e => rfl)
  intro e v hs
  obtain ⟨hs₁, i₁⟩ := ht.inside hs rfl
  obtain ⟨-, i₂⟩ := hb.inside hs₁ rfl
  change marks (out true type e.push) ++
    (marks (out false body (after true type e.push)) ++ []) = _
  rw [i₁, i₂]
  simp [stands, Stand.sites]

theorem agrees_ifStmt {cond body : Node Role} {init orElse : Option (Node Role)}
    (hi : AgreesAll file init.toList) (hc : AgreesAll file [cond, body])
    (ho : AgreesAll file orElse.toList) (sig : Bool) :
    Agrees file sig (.ifStmt cond body init orElse) := by
  apply agrees_of_scope rfl (fun top => binds_eq_flatMap_turns top sig rfl) (fun e => rfl)
  intro e v hs
  obtain ⟨hs₁, i₁⟩ := hi.inside hs rfl
  obtain ⟨hs₂, i₂⟩ := hc.inside hs₁ rfl
  obtain ⟨-, i₃⟩ := ho.inside hs₂ rfl
  have hp : (out sig (.ifStmt cond body init orElse) e).places =
      outAll [cond, body] (afterAll init.toList e.push) ++ outAll init.toList e.push ++
        outAll orElse.toList (afterAll [cond, body] (afterAll init.toList e.push)) := by
    cases init <;> cases orElse <;> rfl
  rw [hp, List.flatMap_append, List.flatMap_append, i₁, i₂, i₃]
  simp [stands, sitesAll]

theorem agrees_range {x body : Node Role} {key value : Option (Node Role)} (tok : String)
    {surplus : List (Node Role)} (hx : Agrees file false x)
    (ht : AgreesAll file (key.toList ++ value.toList)) (hr : AgreesAll file surplus)
    (hb : Agrees file false body) (sig : Bool) :
    Agrees file sig (.range x body key value tok surplus) := by
  apply agrees_of_scope rfl (fun top => binds_eq_flatMap_turns top sig rfl) (fun e => rfl)
  intro e v hs
  obtain ⟨hs₁, i₁⟩ := hx.inside hs rfl
  obtain ⟨hs₂, i₂⟩ := ht.inside hs₁ rfl
  obtain ⟨hs₃, -⟩ := hr.inside hs₂ rfl
  obtain ⟨-, i₃⟩ := hb.inside hs₃ rfl
  have hp : (out sig (.range x body key value tok surplus) e).places =
      out false x e.push :: out false body (afterAll surplus (afterAll (key.toList ++ value.toList)
        (after false x e.push))) ::
        outAll (key.toList ++ value.toList) (after false x e.push) := by
    cases key <;> cases value <;> rfl
  rw [hp, List.flatMap_cons, List.flatMap_cons, i₁, i₂, i₃]
  simp [stands, sitesAll, Stand.sites, past]

theorem agrees_typeSpec {name type : Node Role} (tps : List String) (hn : Agrees file false name)
    (ht : Agrees file false type) (sig : Bool) : Agrees file sig (.typeSpec name tps type) := by
  apply agrees_of_places rfl
  intro e v hs hf
  have hb : ∀ top, (typeSpec name tps type).binds top sig = name.binds top false := by
    intro top
    rw [binds_eq_flatMap_turns _ _ rfl]
    simp [turns]
  rw [hb] at hf ⊢
  have hs₁ := hn.shows hs hf
  obtain ⟨a₁, i₁⟩ := hn e v hs hf
  obtain ⟨-, i₂⟩ := ht.inside (hs₁.push.declares tps fun h => by cases h) rfl
  refine ⟨a₁, ?_⟩
  change marks (out false name e) ++
    (marks (out false type ((after false name e).push.declareAll tps)) ++ []) = _
  rw [Env.declareAll_eq_declares rfl, i₁, i₂]
  simp [stands, Stand.sites, past]

/-- A function puts its name above what follows it, and its file has the name already. -/
theorem after_funcDecl {name : String} {role : Role} {tps : List String} {type : Node Role}
    {pos stop : Position} {body : Option (Node Role)} {recv : Option (List (Node Role))}
    {sig : Bool} {e : Env} {v : Visible} (hs : Shows file e v)
    (hn : v.top = true →
      ∀ x ∈ (funcDecl name role tps type pos stop body recv).binds true sig, x ∈ file) :
    after sig (.funcDecl name role tps type pos stop body recv) e =
      e.declares ((funcDecl name role tps type pos stop body recv).binds v.top sig) := by
  rw [binds] at hn ⊢
  have hroot := hs.isRoot
  cases recv with
  | some recv => simp only [reduceCtorEq, false_and, and_false, if_false]; rfl
  | none =>
      change e.reach name = _
      cases ht : v.top with
      | false => simp [Env.reach, hroot, ht]
      | true =>
          by_cases hi : name = "init"
          · simp [Env.reach, hi]
          · have hx : name ∈ file := hn ht name (by simp [hi])
            simp [hi, ← hs.declare_eq_reach ht hx, Env.declares]

theorem agrees_funcDecl (name : String) (role : Role) (tps : List String) {type : Node Role}
    (pos stop : Position) {body : Option (Node Role)} {recv : Option (List (Node Role))}
    (hr : AgreesAll file (recv.getD [])) (ht : Agrees file true type)
    (hb : AgreesAll file body.toList) (sig : Bool) :
    Agrees file sig (.funcDecl name role tps type pos stop body recv) := by
  apply agrees_of_places rfl
  intro e v hs hn
  refine ⟨after_funcDecl hs hn, ?_⟩
  obtain ⟨hs₁, i₁⟩ := hr.inside hs.push rfl
  obtain ⟨hs₂, i₂⟩ := ht.inside (hs₁.declares tps nofun) rfl
  obtain ⟨-, i₃⟩ := hb.inside hs₂ rfl
  have i₄ := marks_ident hs false name role
  have hp : (out sig (.funcDecl name role tps type pos stop body recv) e).places =
      .ident name (e.resolves name role) ::
        out true type ((afterAll (recv.getD []) e.push).declareAll tps) ::
        (outAll body.toList
          (after true type ((afterAll (recv.getD []) e.push).declareAll tps)) ++
          outAll (recv.getD []) e.push) := by
    cases recv <;> cases body <;> rfl
  rw [hp, Env.declareAll_eq_declares hs₁.isRoot]
  simp only [List.flatMap_cons, List.flatMap_append, i₁, i₂, i₃, i₄]
  simp [stands, sitesAll, Stand.sites, past]

/-- The environment and the flat description agree on every draft. -/
theorem agrees (n : Node Role) (sig : Bool) : Agrees file sig n := by
  induction n using inner_induction generalizing sig with
  | step n ih =>
      have all : ∀ ns : List (Node Role), (∀ c ∈ ns, c ∈ n.inner) → AgreesAll file ns :=
        fun ns h => agreesAll fun c hc => ih c (h c hc) false
      have closed : n.bindsInTurn = true → n.turns = [] → ∀ top, n.binds top sig = [] := by
        intro hb ht top
        rw [binds_eq_flatMap_turns top sig hb, ht, List.flatMap_nil]
      cases n with
      | ident x role => exact agrees_ident sig x role
      | funcType params results keyword =>
          exact agrees_funcType keyword sig (all _ fun c hc => hc)
      | funcLit type body =>
          exact agrees_funcLit (ih type (by simp [Node.inner, places]) true)
            (ih body (by simp [Node.inner, places]) false) sig
      | arrayType elt len l r =>
          refine agrees_of_turns rfl rfl rfl (fun v => rfl) ?_ ?_ (all len.toList ?_) (all [elt] ?_)
          · exact fun e => by cases len <;> rfl
          · exact fun e => by cases len <;> rfl
          · simp +contextual [Node.inner, places]
          · simp +contextual [Node.inner, places]
      | field names type =>
          refine agrees_of_turns rfl rfl rfl (fun v => rfl) ?_ ?_ (all type.toList ?_)
            (all names ?_)
          · exact fun e => by cases type <;> rfl
          · exact fun e => by cases type <;> rfl
          · simp +contextual [Node.inner, places]
          · simp +contextual [Node.inner, places]
      | assign lhs tok rhs =>
          refine agrees_of_turns rfl rfl rfl (fun v => rfl) ?_ (fun e => rfl) (all rhs ?_)
            (all lhs ?_)
          · exact fun e => by rw [afterAll_append]; rfl
          · simp +contextual [Node.inner, places]
          · simp +contextual [Node.inner, places]
      | valueSpec names type values =>
          refine agrees_of_turns rfl rfl rfl (fun v => rfl) ?_ ?_ (all (type.toList ++ values) ?_)
            (all names ?_)
          · exact fun e => by rw [afterAll_append, afterAll_append]; cases type <;> rfl
          · intro e
            rw [outAll_append, afterAll_append, ← List.append_assoc]
            cases type <;> rfl
          · simp +contextual [Node.inner, places]
          · simp +contextual [Node.inner, places]
      | block stmts l r =>
          exact agrees_of_inTurn rfl (closed rfl rfl) (fun e => rfl) (fun v => rfl) (fun e => rfl)
            (all stmts fun c hc => hc)
      | caseClause exprs body colon =>
          refine agrees_of_inTurn rfl (closed rfl rfl) (fun e => rfl) (fun v => rfl) ?_
            (all _ fun c hc => hc)
          exact fun e => by rw [outAll_append]; cases exprs <;> rfl
      | commClause comm body colon =>
          refine agrees_of_inTurn rfl (closed rfl rfl) (fun e => rfl) (fun v => rfl) ?_
            (all _ fun c hc => hc)
          exact fun e => by rw [outAll_append]; cases comm <;> rfl
      | ifStmt cond body init orElse =>
          apply agrees_ifStmt (all init.toList ?_) (all [cond, body] ?_) (all orElse.toList ?_)
          all_goals simp +contextual [Node.inner, places]
      | switch body init tag =>
          refine agrees_of_header rfl (closed rfl rfl) (fun e => rfl) (fun v => rfl) ?_
            (all (init.toList ++ tag.toList) ?_) (all [body] ?_)
          · exact fun e => by cases init <;> cases tag <;> rfl
          · simp +contextual [Node.inner, places]
          · simp +contextual [Node.inner, places]
      | forStmt body init cond post =>
          refine agrees_of_header rfl (closed rfl rfl) (fun e => rfl) (fun v => rfl) ?_
            (all (init.toList ++ cond.toList ++ post.toList) ?_) (all [body] ?_)
          · exact fun e => by cases init <;> cases cond <;> cases post <;> rfl
          · simp +contextual [Node.inner, places]
          · simp +contextual [Node.inner, places]
      | typeSwitch guard body init =>
          refine agrees_of_header rfl (closed rfl rfl) (fun e => rfl) (fun v => rfl) ?_
            (all init.toList ?_) (all [guard, body] ?_)
          · exact fun e => by cases init <;> rfl
          · simp +contextual [Node.inner, places]
          · simp +contextual [Node.inner, places]
      | range x body key value tok surplus =>
          apply agrees_range tok (ih x ?_ false) (all (key.toList ++ value.toList) ?_)
            (all surplus ?_) (ih body ?_ false)
          all_goals grind [Node.inner]
      | typeSpec name tps type =>
          exact agrees_typeSpec tps (ih name (by simp [Node.inner, places]) false)
            (ih type (by simp [Node.inner, places]) false) sig
      | funcDecl name role tps type pos stop body recv =>
          apply agrees_funcDecl name role tps pos stop (all (recv.getD []) ?_)
            (ih type (by simp [Node.inner, places]) true) (all body.toList ?_)
          all_goals simp +contextual [Node.inner, places]
      | position | file | package =>
          exact agrees_of_not_isConstruct rfl (all _ fun c => mem_inner_of_mem_places) sig
      | _ => exact agrees_of_isPlain rfl (all _ fun c => mem_inner_of_mem_places) sig

end GoMetrics.Binding
