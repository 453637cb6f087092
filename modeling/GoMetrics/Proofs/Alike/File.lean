import GoMetrics.Proofs.Alike.Stmts
import GoMetrics.Proofs.Binding.Erasure
import GoMetrics.Proofs.FilePass

/-!
Files whose trees say the same declare the same. The only thing that shows where a declaration
stands is the position of a function, and it moves down with the source.
-/

namespace GoMetrics

/-- The same place, `k` lines further down. -/
def Position.down (k : Nat) (p : Position) : Position :=
  { p with line := p.line + k }

theorem Source.Within.position {s s' : Source} {d k : Nat} (h : s.Within s' d k) (offset : Nat) :
    s'.position (offset + d) = (s.position offset).down k := by
  simp only [Source.position, Source.line, Position.down, h.filename, h.row, h.column]
  congr 1
  push_cast
  omega

namespace Draft

open GoMetrics.Tree Node Lexical

variable {d k : Nat} {s s' : Source} {t t' : Tree} {r : Readers t} {r' : Readers t'}

/-- A declaration and the same one further down. -/
def Moved (k : Nat) (n n' : Node Role) : Prop :=
  n' = relocate (Position.down k) n ∧ n.Clean

theorem Twin.receiver (h : Twin d k s s' r r') (ls : List String) :
    Matches k (Same fun o => AllClean (o.getD [])) (Draft.receiver s ls r)
      (Draft.receiver s' ls r') := by
  have hp := h.tree.at? .receiver
  unfold Draft.receiver
  rw [h.tree.kind]
  split
  · generalize t.at? .receiver = o, t'.at? .receiver = o' at hp
    cases hp with
    | none => exact .ok ⟨rfl, allClean_nil⟩
    | some hc =>
        exact ((h.under hc).params ls).map fun _ _ hx => ⟨congrArg some hx.1, hx.2⟩
  · exact .ok ⟨rfl, allClean_nil⟩

theorem Twin.funcDecl (h : Twin d k s s' r r') :
    Matches k (Moved k) (Draft.funcDecl s r) (Draft.funcDecl s' r') := by
  unfold Draft.funcDecl
  rw [h.tree.kind, typeParams_eq h.source h.tree, h.tree.start, h.tree.stop, h.source.position,
    h.source.position]
  refine (h.slotText .name).next fun name _ => ?_
  refine (matches_bodyLabels h.source h.tree).next fun ls _ => ?_
  refine (h.receiver ls).next fun recv hrecv => ?_
  refine (h.signature ls true).next fun type htype => ?_
  refine (Twin.option (fun c c' hc => (h.under hc).block ls) (h.tree.at? .body)).next
    fun body hbody => ?_
  exact .ok ⟨rfl, clean_of_places rfl (by simp [places, hrecv, htype, hbody])⟩

theorem relocate_of_genDecl {ls : List String} {kind : DeclKind} {n : Node Role}
    (h : Draft.genDecl s ls r kind = .ok n) (g : Position → Position) : relocate g n = n := by
  obtain ⟨specs, -, rfl⟩ := genDecl_eq_ok.1 h
  rfl

/-- What a top-level node declares, and the same further down. -/
def MovedOpt (k : Nat) (o o' : Option (Node Role)) : Prop :=
  o' = o.map (relocate (Position.down k)) ∧ AllClean o.toList

theorem movedOpt_some {n n' : Node Role} (h : Moved k n n') : MovedOpt k (some n) (some n') :=
  ⟨congrArg some h.1, allClean_cons.2 ⟨h.2, allClean_nil⟩⟩

theorem matches_decl (hs : s.Within s' d k) (ht : Alike d t t') :
    Matches k (MovedOpt k) (decl s t) (decl s' t') := by
  have h := twin hs ht
  unfold decl
  rw [ht.kind]
  split
  · exact h.funcDecl.map fun _ _ hn => movedOpt_some hn
  · exact h.funcDecl.map fun _ _ hn => movedOpt_some hn
  · refine ((h.genDecl [] _).mono fun n n' hg hn => ?_).map fun _ _ hn => movedOpt_some hn
    exact ⟨by rw [relocate_of_genDecl hg, hn.1], hn.2⟩
  · exact .ok ⟨rfl, allClean_nil⟩
  · exact .ok ⟨rfl, allClean_nil⟩
  · exact h.refuse _

theorem matches_fileNames (hs : s.Within s' d k) (ht : Alike d t t') :
    Matches k (Same fun _ => True) (fileNames s t) (fileNames s' t') := by
  unfold fileNames
  rw [ht.kind]
  split
  · refine ((twin hs ht).slotText .name).next fun name _ => ?_
    exact .ok ⟨rfl, trivial⟩
  · refine .ok ⟨?_, trivial⟩
    rw [List.flatMap_def, List.flatMap_def,
      map_eq_of_forall₂ ht.specs fun c c' hc => (names_eq hs hc).symm]
  · exact .ok ⟨rfl, trivial⟩

/-- The drafts of a file, and the same further down. -/
theorem moved_reduceOption {ds ds' : List (Option (Node Role))}
    (h : List.Forall₂ (MovedOpt k) ds ds') :
    ds'.reduceOption = ds.reduceOption.map (relocate (Position.down k)) ∧
      AllClean ds.reduceOption := by
  induction h with
  | nil => exact ⟨rfl, allClean_nil⟩
  | @cons o o' ds ds' ho _ ih =>
      rw [reduceOption_cons, reduceOption_cons, ho.1, ih.1, List.map_append]
      refine ⟨?_, allClean_append.2 ⟨ho.2, ih.2⟩⟩
      cases o <;> rfl

theorem matches_file (hs : s.Within s' d k) (ht : Alike d t t') :
    Matches k (fun p p' => p'.1 = p.1 ∧ p'.2 = p.2.map (relocate (Position.down k)) ∧
      AllClean p.2) (file s t) (file s' t') := by
  unfold file
  rw [ht.isFaulty, ht.faultSite.lineOf hs]
  split
  · exact .refused _ _
  · refine (Matches.mapM_same ht.parts fun c c' hc => matches_fileNames hs hc).next
      fun names _ => ?_
    refine (Matches.mapM ht.parts fun c c' hc => matches_decl hs hc).bind fun ds ds' hds => ?_
    exact .ok ⟨rfl, moved_reduceOption hds⟩

end Draft

namespace GoFile

open GoMetrics.Tree Node Lexical Binding

variable {d k : Nat} {s s' : Source} {t t' : Tree}

/-- Files that say the same declare the same, some lines further down. -/
theorem matches_declarations (hs : s.Within s' d k) (ht : Alike d t t') :
    Matches k (fun ds ds' => ds' = ds.map (relocate (Position.down k)) ∧ AllClean ds)
      (declarations s t) (declarations s' t') := by
  refine (Draft.matches_file hs ht).bind ?_
  rintro ⟨names, drafts⟩ ⟨names', drafts'⟩ ⟨hn, hd, hc⟩
  cases hn
  cases hd
  exact .ok ⟨(resolveAll_relocate _ drafts _).1, allClean_outAll _ hc⟩

end GoFile
end GoMetrics
