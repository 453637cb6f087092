import GoMetrics.Proofs.Binding.Simulation
import GoMetrics.Proofs.Erasure

/-!
Resolving changes nothing but the information at identifiers: with that information put aside, what
a draft becomes is the draft itself, in whatever environment it is resolved.
-/

namespace GoMetrics.Binding

open Node

theorem run_bind {α β : Type} (m : StateM Env α) (f : α → StateM Env β) (e : Env) :
    (m >>= f).run e = (f (m.run e).1).run (m.run e).2 :=
  rfl

theorem run_within {α : Type} (m : StateM Env α) (e : Env) :
    (within m).run e = ((m.run e.push).1, e) :=
  rfl

theorem run_pure {α : Type} (a : α) (e : Env) : (pure a : StateM Env α).run e = (a, e) :=
  rfl

theorem run_modify (f : Env → Env) (e : Env) : (modify f : StateM Env _).run e = ((), f e) :=
  rfl

variable {κ : Type} {k : κ} {n : Node Role} {ns : List (Node Role)}

/-- With the same `k` at every identifier, a draft stays what it is. -/
def Kept (k : κ) (n : Node Role) : Prop :=
  ∀ sig e, ((resolve sig n).run e).1.map (fun _ => k) = n.map fun _ => k

theorem Kept.eq (h : Kept k n) (sig : Bool) (e : Env) :
    ((resolve sig n).run e).1.map (fun _ => k) = n.map fun _ => k :=
  h sig e

theorem keptAll (h : ∀ c ∈ ns, Kept k c) (e : Env) :
    mapAll (fun _ => k) ((resolveAll ns).run e).1 = mapAll (fun _ => k) ns := by
  induction ns generalizing e with
  | nil => rfl
  | cons c cs ih =>
      rw [List.forall_mem_cons] at h
      simp only [resolveAll, run_bind, run_pure, mapAll, h.1 false e, ih h.2]

theorem keptOpt {o : Option (Node Role)} (h : ∀ c, o = some c → Kept k c) (e : Env) :
    mapOpt (fun _ => k) ((resolveOpt o).run e).1 = mapOpt (fun _ => k) o := by
  cases o with
  | none => rfl
  | some c => simp only [resolveOpt, run_bind, run_pure, mapOpt, h c rfl false e]

theorem keptOptAll {o : Option (List (Node Role))} (h : ∀ c ∈ o.getD [], Kept k c) (e : Env) :
    mapOptAll (fun _ => k) ((resolveOptAll o).run e).1 = mapOptAll (fun _ => k) o := by
  cases o with
  | none => rfl
  | some ns =>
      rw [Option.getD_some] at h
      simp only [resolveOptAll, run_bind, run_pure, mapOptAll, keptAll h]

theorem kept_funcDecl {name : String} {role : Role} {tps : List String} {type : Node Role}
    {pos stop : Position} {body : Option (Node Role)} {recv : Option (List (Node Role))}
    (ht : Kept k type) (hb : ∀ c, body = some c → Kept k c) (hr : ∀ c ∈ recv.getD [], Kept k c) :
    Kept k (.funcDecl name role tps type pos stop body recv) := by
  intro sig e
  have h : ((resolve sig (.funcDecl name role tps type pos stop body recv)).run e).1.map
      (fun _ => k) = .funcDecl name k tps
        (((resolve true type).run (((resolveOptAll recv).run e.push).2.declareAll tps)).1.map
          fun _ => k) pos stop
        (mapOpt (fun _ => k) ((resolveOpt body).run ((resolve true type).run
          (((resolveOptAll recv).run e.push).2.declareAll tps)).2).1)
        (mapOptAll (fun _ => k) ((resolveOptAll recv).run e.push).1) := by
    cases recv <;> rfl
  rw [h, ht.eq, keptOpt hb, keptOptAll hr, map]

/-- What stands in a construct is read in an environment that depends on what was read before; the
induction hypothesis holds for any. -/
theorem kept (k : κ) (n : Node Role) : Kept k n := by
  induction n using inner_induction with
  | step n ih =>
      intro sig e
      cases n with
      | ident x role => cases role <;> rfl
      | basicLit | empty | position => rfl
      | funcDecl name role tps type pos stop body recv =>
          simp only [Node.inner, places, List.forall_mem_cons, List.forall_mem_append,
            Option.mem_toList] at ih
          exact kept_funcDecl ih.2.1 ih.2.2.1 ih.2.2.2 sig e
      | funcType ps rs keyword =>
          simp only [Node.inner, places, List.forall_mem_append] at ih
          cases sig <;>
            simp only [resolve, run_bind, run_within, run_pure, map, keptAll ih.1, keptAll ih.2,
              if_true, if_false, Bool.false_eq_true]
      | _ =>
          simp only [Node.inner, places, List.forall_mem_cons, List.forall_mem_append,
            Option.mem_toList, and_true, List.not_mem_nil, false_implies, implies_true] at ih
          simp only [resolve, run_bind, run_within, run_pure, run_modify, map]
          simp +contextual only [Kept.eq, keptAll, keptOpt, keptOptAll, ih, implies_true]

/-- What becomes of constructs is constructs. -/
theorem clean_out (sig : Bool) (e : Env) (h : n.Clean) : (out sig n e).Clean := by
  have hk : (out sig n e).map (fun _ => ()) = n.map fun _ => () := kept () n sig e
  refine clean_of_map (f := fun _ => ()) ?_
  rw [hk]
  exact clean_map h

theorem allClean_outAll (e : Env) (h : AllClean ns) : AllClean (outAll ns e) := by
  induction ns generalizing e with
  | nil => exact allClean_nil
  | cons n ns ih =>
      rw [allClean_cons] at h
      exact allClean_cons.2 ⟨clean_out false e h.1, ih _ h.2⟩

end GoMetrics.Binding
