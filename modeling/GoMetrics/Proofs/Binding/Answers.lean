import GoMetrics.Proofs.Binding.Free

/-!
What becomes of each identifier of a draft. The identifiers of a draft and those of what it becomes
stand in the same places, so that the two lists can be put side by side: a name, what it waits for,
and whether it is resolved.
-/

namespace GoMetrics

/-- An identifier of a draft with what becomes of it. -/
structure Answer where
  name : String
  role : Role
  resolved : Bool
  deriving DecidableEq, Repr

/-- Wherever a name is looked up, it is found. -/
def IsFound (x : String) (as : List Answer) : Prop :=
  ∀ a ∈ as, a.name = x → a.role = .use ∨ a.role = .key → a.resolved = true

instance (x : String) (as : List Answer) : Decidable (IsFound x as) :=
  inferInstanceAs (Decidable (∀ a ∈ as, _))

theorem isFound_append {x : String} {as bs : List Answer} :
    IsFound x (as ++ bs) ↔ IsFound x as ∧ IsFound x bs :=
  List.forall_mem_append

namespace Lexical.Site

/-- The identifier at a site; a name that is declared is resolved by its place. -/
def waiting? : Site → Option (String × Role)
  | .use x _ => some (x, .use)
  | .key x _ => some (x, .key)
  | .settled x b => some (x, .settled b)
  | .decision => none

/-- The identifier at a site with its resolution. -/
def answer? (resolution : Site → Option (String × Bool)) (site : Site) : Option Answer :=
  site.waiting?.bind fun p => (resolution site).map fun q => ⟨p.1, p.2, q.2⟩

theorem isSome_judged (file : List String) (site : Site) :
    site.waiting?.isSome = (site.judged file).isSome := by
  cases site <;> rfl

theorem isSome_answered_waiting (e : Env) (site : Site) :
    site.waiting?.isSome = (site.answered e).isSome := by
  cases site <;> rfl

theorem isFound_iff {e : Env} {site : Site} (x : String) :
    (∀ a, site.answer? (Site.answered e) = some a → a.name = x → a.role = .use ∨ a.role = .key →
      a.resolved = true) ↔
      ∀ p, site.free? = some p → p.1 = x → e.resolves p.1 p.2 = true := by
  cases site with
  | use y v | key y v =>
      by_cases hy : y ≠ blank ∧ y ∈ v.locals <;> simp [answer?, answered, waiting?, free?, hy]
  | settled y b => simp [answer?, answered, waiting?, free?]
  | decision => simp [answer?, waiting?, free?]

end Lexical.Site

namespace Node

/-- An identifier of a draft with what it waits for; a name that is declared is resolved by its
place. -/
def waiting? : Node Role → Option (String × Role)
  | .ident x role => some (x, if role = .binds then .settled true else role)
  | _ => none

/-- The name of an identifier. -/
def name? {ι : Type} : Node ι → Option String
  | .ident x _ => some x
  | _ => none

/-- The identifiers of a draft in the order of a walk. -/
def waiting (n : Node Role) : List (String × Role) :=
  n.walk.filterMap waiting?

/-- The identifiers of a draft beside those of what it becomes. -/
def answers (n : Node Role) (m : Node Bool) : List Answer :=
  List.zipWith (fun p q => ⟨p.1, p.2, q.2⟩) n.waiting m.identifiers

def answersAll (ns : List (Node Role)) (ms : List (Node Bool)) : List Answer :=
  (List.zipWith answers ns ms).flatten

open Lexical

/-- A draft is measured where its identifiers are. -/
theorem filterMap_sites (sig : Bool) (n : Node Role) (v : Visible) :
    (n.sites sig v).filterMap Site.waiting? = n.gather fun c => c.waiting?.toList := by
  induction n using places_induction generalizing sig v with
  | step n ih =>
      have own : (n.ownSites v).filterMap Site.waiting? = n.waiting?.toList := by
        cases n with
        | ident x role => cases role <;> rfl
        | binary _ op _ => cases h : Operator.isLogical op <;> simp [ownSites, decides, h] <;> rfl
        | _ => rfl
      have rest : ((n.stands sig v).flatMap Stand.sites).filterMap Site.waiting? =
          ((n.stands sig v).map Stand.node).flatMap (gather fun c => c.waiting?.toList) := by
        rw [List.filterMap_flatMap, List.flatMap_map]
        exact List.flatMap_congr fun c hc => ih c.node (node_mem_places hc) c.sig c.seen
      rw [sites_eq, List.filterMap_append, own, rest]
      cases hn : n.isConstruct with
      | true => rw [map_node_stands sig hn, gather_eq _ _ hn]
      | false =>
          rw [gather, hn]
          cases n <;> first | rfl | cases hn

theorem waiting_eq (sig : Bool) {n : Node Role} (hn : n.isConstruct = true) (v : Visible) :
    n.waiting = (n.sites sig v).filterMap Site.waiting? := by
  rw [filterMap_sites, gather, if_pos hn, waiting, List.filterMap_eq_flatMap_toList]

end Node

namespace Binding

open Lexical Node

variable {file : List String} {e : Env} {v : Visible} {n : Node Role} {ns : List (Node Role)}

/-- Two selections that keep the same members can be put side by side. -/
theorem zipWith_filterMap {α β γ δ : Type} {f : α → Option β} {g : α → Option γ} (k : β → γ → δ)
    (h : ∀ x, (f x).isSome = (g x).isSome) (xs : List α) :
    List.zipWith k (xs.filterMap f) (xs.filterMap g) =
      xs.filterMap fun x => (f x).bind fun a => (g x).map (k a) := by
  induction xs with
  | nil => rfl
  | cons x xs ih =>
      have hx := h x
      cases hf : f x <;> cases hg : g x <;> simp_all

theorem filterMap_name?_map {ι κ : Type} (f : ι → κ) (n : Node ι) :
    (n.map f).walk.filterMap name? = n.walk.filterMap name? := by
  rw [walk_map, List.filterMap_map]
  congr 1
  funext m
  cases m <;> rfl

theorem map_fst_waiting (n : Node Role) : n.waiting.map Prod.fst = n.walk.filterMap name? := by
  rw [waiting, List.map_filterMap]
  congr 1
  funext m
  cases m <;> rfl

theorem map_fst_identifiers (m : Node Bool) :
    m.identifiers.map Prod.fst = m.walk.filterMap name? := by
  rw [identifiers, List.map_filterMap]
  congr 1
  funext m
  cases m <;> rfl

/-- Nothing is lost: every identifier of what a draft becomes is an answer. -/
theorem map_answers_out (sig : Bool) (n : Node Role) (e : Env) :
    (answers n (out sig n e)).map (fun a => (a.name, a.resolved)) = (out sig n e).identifiers := by
  have hn : n.waiting.map Prod.fst = (out sig n e).identifiers.map Prod.fst := by
    rw [map_fst_waiting, map_fst_identifiers, ← filterMap_name?_map (fun _ => ()) n,
      ← filterMap_name?_map (fun _ => ()) (out sig n e)]
    exact congrArg (fun m => m.walk.filterMap name?) (kept () n sig e).symm
  rw [answers, List.map_zipWith]
  generalize n.waiting = ps, (out sig n e).identifiers = qs at hn
  induction ps generalizing qs with
  | nil => cases qs <;> simp_all
  | cons p ps ih =>
      cases qs with
      | nil => simp at hn
      | cons q qs =>
          rw [List.map_cons, List.map_cons, List.cons.injEq] at hn
          rw [List.zipWith_cons_cons, ih qs hn.2, hn.1]

theorem map_answersAll_out (ns : List (Node Role)) (e : Env) :
    (answersAll ns (outAll ns e)).map (fun a => (a.name, a.resolved)) =
      (outAll ns e).flatMap Node.identifiers := by
  induction ns generalizing e with
  | nil => rfl
  | cons n ns ih =>
      rw [answersAll, outAll_cons, List.zipWith_cons_cons, List.flatten_cons, ← answersAll,
        List.map_append, map_answers_out, ih, List.flatMap_cons]

/-- What becomes of the identifiers of a draft is said at its sites. -/
theorem answers_out (hs : Shows file e v) (sig : Bool)
    (hf : v.top = true → ∀ x ∈ n.binds true sig, x ∈ file) (hn : n.isConstruct = true) :
    answers n (out sig n e) = (n.sites sig v).filterMap (Site.answer? (Site.judged file)) := by
  have hi : (out sig n e).identifiers = (n.sites sig v).filterMap (Site.judged file) := by
    rw [identifiers_out sig hn, (agrees n sig e v hs hf).2, List.filterMap_map, Function.id_comp]
  rw [answers, hi, waiting_eq sig hn v]
  exact zipWith_filterMap _ (Site.isSome_judged file) _

theorem answersAll_out (hs : Shows file e v)
    (hf : v.top = true → ∀ x ∈ ns.flatMap (binds true false), x ∈ file)
    (hn : ∀ n ∈ ns, n.isConstruct = true) :
    answersAll ns (outAll ns e) =
      (sitesAll ns v).filterMap (Site.answer? (Site.judged file)) := by
  induction ns generalizing e v with
  | nil => rfl
  | cons n ns ih =>
      rw [List.forall_mem_cons] at hn
      simp only [List.flatMap_cons, List.mem_append] at hf
      have hf₁ : v.top = true → ∀ x ∈ n.binds true false, x ∈ file :=
        fun ht x hx => hf ht x (.inl hx)
      have hr := ih ((agrees n false).shows hs hf₁)
        (fun ht x hx => hf (by simpa using ht) x (.inr hx)) hn.2
      have hp : past [n] v = v.declare (n.binds v.top false) := by
        rw [past, List.flatMap_singleton]
      rw [answersAll, outAll_cons, List.zipWith_cons_cons, List.flatten_cons, ← answersAll, hr,
        answers_out hs false hf₁ hn.1, sitesAll_cons, List.filterMap_append, hp]

/-! Names that are looked up -/

theorem answers_inner (h : e.IsInner) (sig : Bool) (hn : n.isConstruct = true) :
    answers n (out sig n e) = (n.sites sig .bare).filterMap (Site.answer? (Site.answered e)) := by
  rw [answers, identifiers_inner h sig hn, waiting_eq sig hn .bare]
  exact zipWith_filterMap _ (Site.isSome_answered_waiting e) _

/-- Inside a declaration, a name is found in a draft wherever it is looked up exactly if it is found
around the draft or the draft does not take it from there. -/
theorem isFound_inner (h : e.IsInner) (sig : Bool) (hn : n.isConstruct = true) (x : String) :
    IsFound x (answers n (out sig n e)) ↔
      ∀ p ∈ n.free sig, p.1 = x → e.resolves p.1 p.2 = true := by
  rw [answers_inner h sig hn, IsFound, Node.free]
  simp only [List.mem_filterMap, forall_exists_index, and_imp]
  constructor
  · intro ha p site hs hp
    exact (Site.isFound_iff x).1 (fun a => ha a site hs) p hp
  · intro ha a site hs
    exact (Site.isFound_iff x).2 (fun p => ha p site hs) a

end Binding
end GoMetrics
