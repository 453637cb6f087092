import GoMetrics.Proofs.Binding.Places
import GoMetrics.Proofs.Lexical.Visibility

/-!
What a draft takes from its surroundings. Inside a declaration, the names in force at a place are
those in force around the draft and, behind them, those that the draft has declared itself. So a
draft is measured once, where no name is in force; a name that is looked up there and not found is
free in the draft. What becomes of a draft depends on its environment by the answers for the free
names, and by nothing else.
-/

namespace GoMetrics

namespace Lexical

namespace Visible

/-- Inside a declaration where no name is in force. -/
def bare : Visible :=
  ⟨[], [], false⟩

/-- The same place where the names of `outer` are in force around. -/
def within (v outer : Visible) : Visible :=
  ⟨outer.locals ++ v.locals, outer.above ++ v.above, v.top⟩

variable (v outer : Visible)

@[simp] theorem inside_within : (v.within outer).inside = v.inside.within outer :=
  rfl

@[simp] theorem declare_within (xs : List String) :
    (v.within outer).declare xs = (v.declare xs).within outer := by
  cases h : v.top <;> simp [declare, within, h]

theorem bare_within {outer : Visible} (h : outer.top = false) : bare.within outer = outer := by
  obtain ⟨locals, above, top⟩ := outer
  cases h
  simp [bare, within]

/-- A place inside a declaration that has no names of the file above it. -/
def IsLocal (v : Visible) : Prop :=
  v.top = false ∧ v.above = []

theorem isLocal_bare : bare.IsLocal :=
  ⟨rfl, rfl⟩

variable {v}

theorem IsLocal.inside (h : v.IsLocal) : v.inside.IsLocal :=
  ⟨rfl, h.2⟩

theorem IsLocal.declare (h : v.IsLocal) (xs : List String) : (v.declare xs).IsLocal := by
  simp [IsLocal, Visible.declare, h.1, h.2]

end Visible

namespace Site

/-- The same site where the names of `outer` are in force around the draft. -/
def within (outer : Visible) : Site → Site
  | .use x v => .use x (v.within outer)
  | .key x v => .key x (v.within outer)
  | .settled x b => .settled x b
  | .decision => .decision

/-- Whether a site has no names of the file above it. -/
def IsLocal : Site → Prop
  | .use _ v | .key _ v => v.IsLocal
  | .settled .. | .decision => True

end Site
end Lexical

namespace Node

open Lexical

variable {v : Visible}

/-- The same draft where the names of `outer` are in force around. -/
def Stand.within (outer : Visible) (c : Stand) : Stand :=
  { c with seen := c.seen.within outer }

@[simp] theorem past_within (outer : Visible) (ns : List (Node Role)) :
    past ns (v.within outer) = (past ns v).within outer :=
  Visible.declare_within v outer _

@[simp] theorem inTurn_within (outer : Visible) (ns : List (Node Role)) :
    inTurn ns (v.within outer) = (inTurn ns v).map (Stand.within outer) := by
  induction ns generalizing v with
  | nil => rfl
  | cons n ns ih =>
      rw [inTurn, past_within, ih]
      rfl

theorem stands_within (outer : Visible) (sig : Bool) (n : Node Role) :
    n.stands sig (v.within outer) = (n.stands sig v).map (Stand.within outer) := by
  cases n with
  | funcType ps rs k => cases sig <;> simp [stands]
  | _ => simp [stands, Stand.within]

theorem sites_within (outer v : Visible) (sig : Bool) (n : Node Role) :
    n.sites sig (v.within outer) = (n.sites sig v).map (Site.within outer) := by
  induction n using places_induction generalizing sig v with
  | step n ih =>
      have own : n.ownSites (v.within outer) = (n.ownSites v).map (Site.within outer) := by
        cases n with
        | ident x role => cases role <;> rfl
        | binary _ op _ =>
            cases h : Operator.isLogical op <;> simp [ownSites, decides, h, Site.within]
        | _ => rfl
      rw [sites_eq, sites_eq, own, stands_within, List.map_append, List.flatMap_map,
        List.map_flatMap]
      congr 1
      exact List.flatMap_congr fun c hc => ih c.node (node_mem_places hc) c.seen c.sig

theorem isLocal_of_mem_inTurn (h : v.IsLocal) {ns : List (Node Role)} {c : Stand}
    (hc : c ∈ inTurn ns v) : c.seen.IsLocal := by
  induction ns generalizing v with
  | nil => cases hc
  | cons n ns ih =>
      obtain rfl | hc := List.mem_cons.1 hc
      · exact h
      · exact ih (h.declare _) hc

theorem isLocal_of_mem_stands (h : v.IsLocal) {sig : Bool} {n : Node Role} {c : Stand}
    (hc : c ∈ n.stands sig v) : c.seen.IsLocal := by
  have hi := h.inside
  cases n with
  | funcType ps rs k =>
      cases sig with
      | true => exact isLocal_of_mem_inTurn h hc
      | false => exact isLocal_of_mem_inTurn hi hc
  | funcLit =>
      obtain rfl | hc := List.mem_cons.1 hc
      · exact hi
      · obtain rfl := List.mem_singleton.1 hc
        exact hi.declare _
  | arrayType =>
      obtain rfl | hc := List.mem_cons.1 hc
      · exact h.declare _
      · exact isLocal_of_mem_inTurn h hc
  | field | assign | valueSpec =>
      obtain hc | hc := List.mem_append.1 hc
      · exact isLocal_of_mem_inTurn (h.declare _) hc
      · exact isLocal_of_mem_inTurn h hc
  | ifStmt =>
      obtain hc | hc := List.mem_append.1 hc
      · obtain hc | hc := List.mem_append.1 hc
        · exact isLocal_of_mem_inTurn (hi.declare _) hc
        · exact isLocal_of_mem_inTurn hi hc
      · exact isLocal_of_mem_inTurn ((hi.declare _).declare _) hc
  | typeSwitch =>
      obtain hc | hc := List.mem_append.1 hc
      · exact isLocal_of_mem_inTurn (hi.declare _) hc
      · exact isLocal_of_mem_inTurn hi hc
  | switch | forStmt =>
      obtain rfl | hc := List.mem_cons.1 hc
      · exact hi.declare _
      · exact isLocal_of_mem_inTurn hi hc
  | range =>
      obtain rfl | hc := List.mem_cons.1 hc
      · exact hi
      obtain rfl | hc := List.mem_cons.1 hc
      · exact hi.declare _
      · exact isLocal_of_mem_inTurn (hi.declare _) hc
  | block | caseClause | commClause => exact isLocal_of_mem_inTurn hi hc
  | typeSpec =>
      obtain rfl | hc := List.mem_cons.1 hc
      · exact h
      · obtain rfl := List.mem_singleton.1 hc
        exact (h.declare _).inside.declare _
  | funcDecl name info tps type pos stop body recv =>
      have htps : ((past (recv.getD []) v.inside).declare tps).IsLocal := (hi.declare _).declare _
      obtain rfl | hc := List.mem_cons.1 hc
      · exact h
      obtain rfl | hc := List.mem_cons.1 hc
      · exact htps
      obtain hc | hc := List.mem_append.1 hc
      · exact isLocal_of_mem_inTurn (htps.declare _) hc
      · exact isLocal_of_mem_inTurn hi hc
  | position | file | package => cases hc
  | _ => exact isLocal_of_mem_inTurn h hc

theorem isLocal_of_mem_ownSites (h : v.IsLocal) {n : Node Role} {site : Site}
    (hs : site ∈ n.ownSites v) : site.IsLocal := by
  unfold ownSites at hs
  split at hs
  case h_1 x role =>
    obtain rfl := List.mem_singleton.1 hs
    cases role <;> first | exact h | trivial
  case h_2 =>
    split at hs
    · obtain rfl := List.mem_singleton.1 hs
      trivial
    · cases hs

theorem isLocal_of_mem_sites (h : v.IsLocal) {sig : Bool} {n : Node Role} {site : Site}
    (hs : site ∈ n.sites sig v) : site.IsLocal := by
  induction n using places_induction generalizing sig v with
  | step n ih =>
      rw [sites_eq, List.mem_append, List.mem_flatMap] at hs
      obtain hs | ⟨c, hc, hs⟩ := hs
      · exact isLocal_of_mem_ownSites h hs
      · exact ih c.node (node_mem_places hc) (isLocal_of_mem_stands h hc) hs

end Node

namespace Lexical

namespace Shows

variable {file : List String} {e : Env} {v : Visible}

theorem resolves_use (h : Shows file e v) (x : String) :
    e.resolves x .use = true ↔ x ≠ blank ∧ (x ∈ file ∨ x ∈ v.locals) :=
  h.lookup x

theorem resolves_key (h : Shows file e v) (x : String) :
    e.resolves x .key = true ↔ (x ≠ blank ∧ x ∈ v.locals) ∨ x ∈ v.above := by
  rw [← h.lookupLocal x, ← h.above x]
  simp [Env.resolves]

end Shows

namespace Site

/-- The name that a site takes from around the draft: one that is looked up and not declared by the
draft itself. -/
def free? : Site → Option (String × Role)
  | .use x v => if x ≠ blank ∧ x ∈ v.locals then none else some (x, .use)
  | .key x v => if x ≠ blank ∧ x ∈ v.locals then none else some (x, .key)
  | .settled .. | .decision => none

/-- An identifier with whether it is resolved, where `e` is the environment around the draft. -/
def answered (e : Env) : Site → Option (String × Bool)
  | .use x v => some (x, (x ≠ blank ∧ x ∈ v.locals) || e.resolves x .use)
  | .key x v => some (x, (x ≠ blank ∧ x ∈ v.locals) || e.resolves x .key)
  | .settled x b => some (x, b)
  | .decision => none

theorem judged_within {file : List String} {e : Env} {v : Visible} (hs : Shows file e v)
    {site : Site} (h : site.IsLocal) : (site.within v).judged file = site.answered e := by
  cases site with
  | use x seen =>
      simp only [within, judged, answered, Visible.within, Option.some.injEq, Prod.mk.injEq,
        true_and]
      rw [Bool.eq_iff_iff]
      simp [hs.resolves_use]
      grind
  | key x seen =>
      simp only [within, judged, answered, Visible.within, h.2, List.append_nil,
        Option.some.injEq, Prod.mk.injEq, true_and]
      rw [Bool.eq_iff_iff]
      simp [hs.resolves_key]
      grind
  | settled x b => rfl
  | decision => rfl

theorem answered_eq_iff {e e' : Env} {site : Site} :
    site.answered e = site.answered e' ↔
      ∀ p, site.free? = some p → e.resolves p.1 p.2 = e'.resolves p.1 p.2 := by
  cases site with
  | use x v | key x v =>
      by_cases hx : x ≠ blank ∧ x ∈ v.locals <;> simp [answered, free?, hx]
  | settled x b | decision => simp [answered, free?]

theorem isSome_answered (e e' : Env) (site : Site) :
    (site.answered e).isSome = (site.answered e').isSome := by
  cases site <;> rfl

end Site
end Lexical

/-! Environments inside a declaration -/

namespace Env

/-- Inside a declaration, where no scope has the blank identifier. -/
structure IsInner (e : Env) : Prop where
  isRoot : e.scope.isRoot = false
  noBlank : e.scope.lookup blank = false

variable {e : Env}

theorem isInner_push (h : e.scope.lookup blank = false) : e.push.IsInner :=
  ⟨rfl, by simpa [push] using h⟩

theorem resolves_push (e : Env) (x : String) (role : Role) :
    e.push.resolves x role = e.resolves x role := by
  cases role <;> simp [resolves, push]

theorem IsInner.declare (h : e.IsInner) (x : String) : (e.declare x).IsInner := by
  refine ⟨by simpa using h.isRoot, ?_⟩
  rw [Bool.eq_false_iff, Ne, scope_declare, Scope.lookup_declare]
  simp [h.noBlank, eq_comm]

theorem IsInner.declares (h : e.IsInner) (xs : List String) : (e.declares xs).IsInner := by
  induction xs generalizing e with
  | nil => exact h
  | cons x xs ih => exact ih (h.declare x)

/-- Where the blank identifier is not found, the names in force can be listed. -/
theorem exists_shows (h : e.scope.lookup blank = false) : ∃ file v, Lexical.Shows file e v := by
  obtain ⟨⟨inner, outer⟩, above⟩ := e
  obtain ⟨front, file, hf⟩ : ∃ front file, inner :: outer = front ++ [file] :=
    ⟨_, _, (List.dropLast_concat_getLast (List.cons_ne_nil inner outer)).symm⟩
  have hl : outer.length = front.length := by
    simpa using congrArg List.length hf
  have hne : ∀ x, Scope.lookup ⟨inner, outer⟩ x = true → x ≠ blank := by
    rintro x hx rfl
    cases h.symm.trans hx
  refine ⟨file, ⟨front.flatten, above, outer.isEmpty⟩, fun x => ?_, fun x => ?_, fun _ => .rfl,
    rfl⟩
  · have hx : Scope.lookup ⟨inner, outer⟩ x = true ↔ x ∈ file ∨ x ∈ front.flatten := by
      simp [Scope.lookup, Scope.frames, hf, or_comm]
    exact ⟨fun hs => ⟨hne x hs, hx.1 hs⟩, fun hs => hx.2 hs.2⟩
  · have hx : Scope.lookupLocal ⟨inner, outer⟩ x = true ↔ x ∈ front.flatten := by
      simp [Scope.lookupLocal, Scope.lookupWithin, Scope.frames, hf, hl]
    refine ⟨fun hs => ⟨hne x ?_, hx.1 hs⟩, fun hs => hx.2 hs.2⟩
    have hm := hx.1 hs
    simp [Scope.lookup, Scope.frames, hf] at hm ⊢
    exact .inl hm

/-- Names that are declared inside a declaration are found there, in addition to what is found
around them. -/
theorem IsInner.resolves_declares (h : e.IsInner) (xs : List String) (x : String) {role : Role}
    (hr : role = .use ∨ role = .key) :
    (e.declares xs).resolves x role = true ↔
      (x ≠ blank ∧ x ∈ xs) ∨ e.resolves x role = true := by
  obtain ⟨file, v, hs⟩ := exists_shows h.noBlank
  have ht : v.top = false := hs.isRoot.symm.trans h.isRoot
  have hd := hs.declares xs (by simp [ht])
  obtain rfl | rfl := hr
  · rw [hd.resolves_use, hs.resolves_use]
    simp only [Lexical.Visible.declare, ht, Bool.false_eq_true, if_false, List.mem_append]
    grind
  · rw [hd.resolves_key, hs.resolves_key]
    simp only [Lexical.Visible.declare, ht, Bool.false_eq_true, if_false, List.mem_append]
    grind

end Env

/-- The names that a draft takes from its surroundings, with what they are looked up for. -/
def Node.free (sig : Bool) (n : Node Role) : List (String × Role) :=
  (n.sites sig .bare).filterMap Lexical.Site.free?

theorem Node.role_of_mem_free {sig : Bool} {n : Node Role} {p : String × Role}
    (h : p ∈ n.free sig) : p.2 = .use ∨ p.2 = .key := by
  obtain ⟨site, -, hp⟩ := List.mem_filterMap.1 h
  cases site with
  | use x v | key x v =>
      rw [Lexical.Site.free?] at hp
      split at hp <;> cases hp
      simp
  | settled x b | decision => cases hp

namespace Binding

open Lexical Node

/-- Two selections that keep the same members are the same exactly if they make the same of each. -/
theorem filterMap_eq_iff {α β : Type} {f g : α → Option β}
    (h : ∀ x, (f x).isSome = (g x).isSome) {xs : List α} :
    xs.filterMap f = xs.filterMap g ↔ ∀ x ∈ xs, f x = g x := by
  induction xs with
  | nil => simp
  | cons x xs ih =>
      have hx := h x
      cases hf : f x <;> cases hg : g x <;> simp_all

variable {e e' : Env}

/-- Inside a declaration, a draft leaves in force what it binds. -/
theorem after_inner (h : e.IsInner) (sig : Bool) (n : Node Role) :
    after sig n e = e.declares (n.binds false sig) := by
  obtain ⟨file, v, hs⟩ := Env.exists_shows h.noBlank
  have ht : v.top = false := hs.isRoot.symm.trans h.isRoot
  rw [(agrees n sig e v hs (by simp [ht])).1, ht]

theorem afterAll_inner (h : e.IsInner) (ns : List (Node Role)) :
    afterAll ns e = e.declares (ns.flatMap (binds false false)) := by
  induction ns generalizing e with
  | nil => rfl
  | cons n ns ih =>
      rw [afterAll_cons, after_inner h, ih (h.declares _), List.flatMap_cons, Env.declares_append]

/-- Inside a declaration, the environment is asked for the free names of a draft. -/
theorem marks_inner (h : e.IsInner) (sig : Bool) (n : Node Role) :
    marks (out sig n e) = (n.sites sig .bare).map (Site.answered e) := by
  obtain ⟨file, v, hs⟩ := Env.exists_shows h.noBlank
  have ht : v.top = false := hs.isRoot.symm.trans h.isRoot
  calc marks (out sig n e) = (n.sites sig v).map (Site.judged file) :=
        ((agrees n sig).inside hs ht).2
    _ = ((n.sites sig .bare).map (Site.within v)).map (Site.judged file) := by
        rw [← sites_within, Visible.bare_within ht]
    _ = (n.sites sig .bare).map (Site.answered e) := by
        rw [List.map_map]
        exact List.map_congr_left fun site hm =>
          Site.judged_within hs (isLocal_of_mem_sites Visible.isLocal_bare hm)

theorem identifiers_out (sig : Bool) {n : Node Role} (hn : n.isConstruct = true) (e : Env) :
    (out sig n e).identifiers = (marks (out sig n e)).filterMap id :=
  identifiers_eq_filterMap_marks ((isConstruct_out sig n e).trans hn)

theorem identifiers_inner (h : e.IsInner) (sig : Bool) {n : Node Role}
    (hn : n.isConstruct = true) :
    (out sig n e).identifiers = (n.sites sig .bare).filterMap (Site.answered e) := by
  rw [identifiers_out sig hn, marks_inner h, List.filterMap_map, Function.id_comp]

/-- Two environments make the same of a draft exactly if they answer alike for its free names. -/
theorem identifiers_eq_iff (h : e.IsInner) (h' : e'.IsInner) (sig : Bool) {n : Node Role}
    (hn : n.isConstruct = true) :
    (out sig n e).identifiers = (out sig n e').identifiers ↔
      ∀ p ∈ n.free sig, e.resolves p.1 p.2 = e'.resolves p.1 p.2 := by
  rw [identifiers_inner h sig hn, identifiers_inner h' sig hn,
    filterMap_eq_iff (Site.isSome_answered e e')]
  simp only [Site.answered_eq_iff, Node.free, List.mem_filterMap]
  exact ⟨fun ha p ⟨site, hs, hp⟩ => ha site hs p hp, fun ha site hs p hp => ha p ⟨site, hs, hp⟩⟩

/-- Names that are declared around a draft leave it as it was exactly if each of them that the draft
takes from there was found before. -/
theorem identifiers_declares (h : e.IsInner) (xs : List String) {n : Node Role}
    (hn : n.isConstruct = true) :
    (out false n (e.declares xs)).identifiers = (out false n e).identifiers ↔
      ∀ p ∈ n.free false, p.1 ∈ xs → p.1 = blank ∨ e.resolves p.1 p.2 = true := by
  rw [identifiers_eq_iff (h.declares xs) h _ hn]
  refine forall₂_congr fun p hp => ?_
  rw [Bool.eq_iff_iff, h.resolves_declares _ _ (role_of_mem_free hp)]
  tauto

end Binding
end GoMetrics
