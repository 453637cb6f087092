import GoMetrics.Proofs.Binding.Erasure

/-!
Where things stand does not change when a draft is resolved: what stands in a place of the outcome is
the outcome of what stands there in the draft.
-/

namespace GoMetrics.Binding

open Node

/-- An outcome of a draft, in some environment. -/
def Becomes (n : Node Role) (m : Node Bool) : Prop :=
  ∃ sig e, m = out sig n e

theorem becomes_run (sig : Bool) (n : Node Role) (e : Env) : Becomes n ((resolve sig n).run e).1 :=
  ⟨sig, e, rfl⟩

theorem becomes_outAll (ns : List (Node Role)) (e : Env) :
    List.Forall₂ Becomes ns (outAll ns e) := by
  induction ns generalizing e with
  | nil => exact .nil
  | cons n ns ih => exact .cons (becomes_run false n e) (ih _)

theorem becomes_runAll (ns : List (Node Role)) (e : Env) :
    List.Forall₂ Becomes ns ((resolveAll ns).run e).1 :=
  becomes_outAll ns e

theorem becomes_runOpt (o : Option (Node Role)) (e : Env) :
    List.Forall₂ Becomes o.toList ((resolveOpt o).run e).1.toList := by
  cases o with
  | none => exact .nil
  | some n => exact .cons (becomes_run false n e) .nil

theorem becomes_runOptAll (o : Option (List (Node Role))) (e : Env) :
    List.Forall₂ Becomes (o.getD []) (((resolveOptAll o).run e).1.getD []) := by
  cases o with
  | none => exact .nil
  | some ns => exact becomes_outAll ns e

theorem becomes_append {ms ns : List (Node Role)} {ms' ns' : List (Node Bool)}
    (hm : List.Forall₂ Becomes ms ms') (hn : List.Forall₂ Becomes ns ns') :
    List.Forall₂ Becomes (ms ++ ns) (ms' ++ ns') :=
  List.rel_append hm hn

/-- What stands in the places of an outcome. -/
theorem places_out (sig : Bool) (n : Node Role) (e : Env) :
    List.Forall₂ Becomes n.places (out sig n e).places := by
  cases n with
  | ident x role => cases role <;> exact .nil
  | funcDecl name role tps type pos stop body recv =>
      have hn : Becomes (.ident name role) (.ident name (e.resolves name role)) :=
        ⟨false, e, by cases role <;> rfl⟩
      have hr := becomes_runOptAll recv e.push
      cases recv <;>
        exact .cons hn
          (.cons (becomes_run true type _) (becomes_append (becomes_runOpt body _) hr))
  | funcType ps rs keyword =>
      cases sig <;> exact becomes_append (becomes_runAll _ _) (becomes_runAll _ _)
  | _ =>
      simp only [out, resolve, run_bind, run_within, run_pure, run_modify, places,
        List.forall₂_cons, becomes_run, becomes_runAll, becomes_runOpt, becomes_runOptAll,
        becomes_append, List.Forall₂.nil, and_self]

theorem isConstruct_out (sig : Bool) (n : Node Role) (e : Env) :
    (out sig n e).isConstruct = n.isConstruct := by
  have hk : (out sig n e).map (fun _ => ()) = n.map fun _ => () := kept () n sig e
  rw [← isConstruct_map (fun _ => ()), hk, isConstruct_map]

end GoMetrics.Binding
