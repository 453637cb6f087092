import GoMetrics.PackageDir.Walk
import GoMetrics.Proofs.FileTree

/-!
Walking a directory tree. The pending directories are visited one after the other, each with all
that is entered below it before the next. So the directories that are visited are those that can be
reached without passing one that is skipped, in the order of the names on the way to them.
-/

namespace GoMetrics.PackageDir

variable {fs : FileTree} {place way : List String}

/-! The names that are entered -/

theorem pairwise_entered (wf : fs.WellFormed) (place : List String) :
    (entered fs place).Pairwise (· < ·) := by
  have hle : (entered fs place).Pairwise fun a b => decide (a ≤ b) = true := by
    refine List.pairwise_mergeSort (fun a b c => ?_) (fun a b => ?_) _
    · simp only [decide_eq_true_eq]
      exact String.le_trans
    · simp only [Bool.or_eq_true, decide_eq_true_eq]
      exact String.le_total a b
  have hne : (entered fs place).Pairwise (· ≠ ·) :=
    List.nodup_mergeSort.2 ((wf.nodup_dirsIn place).filter _)
  refine (hle.and hne).imp fun ⟨hab, hne⟩ => String.not_le.1 fun hba => hne ?_
  exact String.le_antisymm (of_decide_eq_true hab) hba

theorem mem_entered_iff (wf : fs.WellFormed) {name : String} :
    name ∈ entered fs place ↔ fs.get? (place ++ [name]) = some .dir ∧ isSkipped name = false := by
  rw [mem_entered, wf.mem_dirsIn]

/-! One directory after the other -/

theorem visit_append (fs : FileTree) (place : List String) (xs ys : List (List String)) :
    visit fs place (xs ++ ys) = visit fs place xs ++ visit fs place ys := by
  fun_induction visit fs place xs with
  | case1 => rfl
  | case2 way pending ih =>
      rw [List.append_assoc] at ih
      rw [List.cons_append, visit, ih, List.cons_append]

theorem visit_eq_flatMap (fs : FileTree) (place : List String) (ways : List (List String)) :
    visit fs place ways = ways.flatMap fun way => visit fs place [way] := by
  induction ways with
  | nil => rw [visit, List.flatMap_nil]
  | cons way ways ih => rw [← List.singleton_append, visit_append, ih, List.flatMap_append,
      List.flatMap_singleton]

/-- A directory comes before everything that is entered from it. -/
theorem visit_singleton (fs : FileTree) (place way : List String) :
    visit fs place [way] =
      way :: (entered fs (place ++ way)).flatMap fun name => visit fs place [way ++ [name]] := by
  rw [visit, List.append_nil, visit_eq_flatMap, List.flatMap_map]

/-- Induction along the walk: what holds of a directory if it holds of all that are entered from
there holds of every directory. -/
theorem ways_induction (fs : FileTree) (place : List String) {motive : List String → Prop}
    (h : ∀ way, (∀ name ∈ entered fs (place ++ way), motive (way ++ [name])) → motive way)
    (way : List String) : motive way := by
  induction hn : depth fs - (place ++ way).length using Nat.strong_induction_on
      generalizing way with
  | _ n ih =>
      refine h way fun name hname => ih _ ?_ (way ++ [name]) rfl
      have hlt := lt_depth_of_mem_entered hname
      simp only [List.length_append, List.length_singleton] at hlt hn ⊢
      omega

theorem prefix_of_mem_visit {spot : List String} (h : spot ∈ visit fs place [way]) :
    ∃ below, spot = way ++ below := by
  induction way using ways_induction fs place generalizing spot with
  | h way ih =>
      rw [visit_singleton, List.mem_cons, List.mem_flatMap] at h
      rcases h with rfl | ⟨name, hname, hspot⟩
      · exact ⟨[], (List.append_nil spot).symm⟩
      · obtain ⟨below, rfl⟩ := ih name hname hspot
        exact ⟨name :: below, by rw [← List.append_cons]⟩

/-- A directory is visited if nothing on the way to it is skipped. -/
theorem mem_visit_iff (wf : fs.WellFormed) (hdir : fs.get? (place ++ way) = some .dir)
    {below : List String} :
    way ++ below ∈ visit fs place [way] ↔
      (∀ c ∈ below, isSkipped c = false) ∧ fs.get? (place ++ way ++ below) = some .dir := by
  induction below generalizing way with
  | nil =>
      rw [visit_singleton, List.append_nil, List.append_nil]
      simp [hdir]
  | cons name below ih =>
      rw [List.forall_mem_cons, visit_singleton, List.mem_cons, List.mem_flatMap]
      have hstep : ∀ hdir : fs.get? (place ++ (way ++ [name])) = some .dir,
          way ++ name :: below ∈ visit fs place [way ++ [name]] ↔
            (∀ c ∈ below, isSkipped c = false) ∧
              fs.get? (place ++ way ++ name :: below) = some .dir := by
        intro hdir
        simpa only [List.append_assoc, List.singleton_append] using ih hdir
      constructor
      · rintro (heq | ⟨name', hname', hmem⟩)
        · simp at heq
        · obtain ⟨rest, hrest⟩ := prefix_of_mem_visit hmem
          -- The names after `way` agree, so it is this directory that was entered.
          simp only [List.append_assoc, List.append_cancel_left_eq, List.singleton_append,
            List.cons.injEq] at hrest
          obtain ⟨rfl, -⟩ := hrest
          obtain ⟨hsub, hskip⟩ := (mem_entered_iff wf).1 hname'
          rw [List.append_assoc] at hsub
          obtain ⟨hbelow, hget⟩ := (hstep hsub).1 hmem
          exact ⟨⟨hskip, hbelow⟩, hget⟩
      · rintro ⟨⟨hskip, hbelow⟩, hget⟩
        have hsub : fs.get? (place ++ way ++ [name]) = some .dir := by
          rw [List.append_cons] at hget
          exact wf.dir_of_append hget
        refine .inr ⟨name, (mem_entered_iff wf).2 ⟨hsub, hskip⟩, ?_⟩
        rw [List.append_assoc] at hsub
        exact (hstep hsub).2 ⟨hbelow, hget⟩

/-- Directories are visited in the order of the names on the way to them. -/
theorem pairwise_visit (wf : fs.WellFormed) (place way : List String) :
    (visit fs place [way]).Pairwise (· < ·) := by
  induction way using ways_induction fs place with
  | h way ih =>
      rw [visit_singleton, List.pairwise_cons, List.pairwise_flatMap]
      refine ⟨fun spot hspot => ?_, ih, ?_⟩
      · obtain ⟨name, -, hspot⟩ := List.mem_flatMap.1 hspot
        obtain ⟨below, rfl⟩ := prefix_of_mem_visit hspot
        have hlt : way ++ [] < way ++ ([name] ++ below) :=
          List.append_left_lt (List.nil_lt_cons name below)
        simpa using hlt
      · refine (pairwise_entered wf (place ++ way)).imp fun {a b} hab x hx y hy => ?_
        obtain ⟨below, rfl⟩ := prefix_of_mem_visit hx
        obtain ⟨below', rfl⟩ := prefix_of_mem_visit hy
        have hlt : way ++ ([a] ++ below) < way ++ ([b] ++ below') :=
          List.append_left_lt (List.cons_lt_cons_iff.2 (.inl hab))
        simpa using hlt

end GoMetrics.PackageDir
