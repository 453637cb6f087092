import GoMetrics.Proofs.Loading.Directory
import GoMetrics.Proofs.Report.Run

/-!
Runs over targets. All targets are expanded before anything is loaded, and a directory is loaded as
a whole when everything before it was reported. So a run that is ended by a target writes nothing,
and a run that is ended by a directory writes what a run over the packages before it writes.
-/

namespace GoMetrics

open Outcome

/-! Expanding targets -/

namespace PackageDir

section Closed

variable {P : {α : Type} → Outcome α → Prop} (hP : Closed P)
  (hlook : ∀ {α : Type} (x : Except AccessFault α), P (Outcome.ofExcept .access x))
  (hrefuse : ∀ path reason,
    P (Outcome.complain (.invalidPath path reason) : Outcome (List PackageDir × List Path)))

include hP hlook hrefuse

/-- A target is expanded by looking things up, unless it is refused. -/
theorem expandTarget_of_closed (fs : FileTree) (includeTests : Bool) (text : String) :
    P (expandTarget fs includeTests text) := by
  unfold expandTarget
  refine hP.bind (hlook _) fun there => ?_
  split
  · exact hrefuse _ _
  refine hP.bind (hlook _) fun isFile => ?_
  split
  · split
    · exact hP.pure _
    · exact hrefuse _ _
  have hfound : ∀ dirs : List Path, P (do
      let found ← dirs.mapM fun dir => .ofExcept .access (ofDirectory? fs includeTests dir)
      if !(target text).2 && found.all Option.isNone then
        Outcome.record .warning ("No Go files in " ++ (target text).1.render)
      return (found.reduceOption, ([] : List Path))) := by
    intro dirs
    refine hP.bind (hP.mapM (fun _ => hlook _) _) fun found => ?_
    split
    · exact hP.bind (hP.record _ _) fun _ => hP.pure _
    · exact hP.pure _
  split
  · exact hP.bind (hlook _) hfound
  · exact hP.bind (hP.pure _) hfound

theorem expand_of_closed (fs : FileTree) (includeTests : Bool) (targets : List String) :
    P (expand fs includeTests targets) :=
  hP.bind (hP.mapM (expandTarget_of_closed hP hlook hrefuse fs includeTests) _) fun _ =>
    hP.bind (hP.record _ _) fun _ => hP.pure _

end Closed

/-- Expanding targets writes nothing. -/
theorem isSilent_expand (fs : FileTree) (includeTests : Bool) (targets : List String) :
    (expand fs includeTests targets).IsSilent :=
  expand_of_closed IsSilent.closed (.ofExcept _) (fun _ _ => .fail _) fs includeTests targets

end PackageDir

/-! Only the end of a run complains about thresholds -/

namespace Reporter

theorem noComplaint_function (r : Reporter) (report : PackageReport) (f : Func) :
    (r.function report f).NoComplaint := by
  unfold function
  refine .bind (NoComplaint.unmeasured _) fun metrics => .bind (.record _ _) fun _ =>
    .bind (NoComplaint.mismatch _) fun exceeded => ?_
  split
  · exact .pure _
  split
  · exact .bind (NoComplaint.mismatch _) fun _ => .bind (.write _) fun _ => .pure _
  · exact .pure _

theorem noComplaint_package (r : Reporter) (p : Package) : (r.package p).NoComplaint := by
  unfold package
  refine .bind (NoComplaint.mismatch _) fun _ =>
    .bind (.foldlM r.noComplaint_function _ _) fun _ => ?_
  split
  · exact .bind (.write _) fun _ => .bind (.record _ _) fun _ => .pure _
  · exact .bind (.record _ _) fun _ => .pure _

/-! Directories one after another -/

/-- What is done with one directory: it is loaded, and its packages are analysed. -/
def directory (r : Reporter) (o : Options) (fs : FileTree) (dir : PackageDir) :
    Outcome (List PackageReport) := do
  (← Package.loadDir fs o.strict dir).mapM r.package

theorem runTargets_eq (r : Reporter) (o : Options) (fs : FileTree) (targets : List String) :
    r.runTargets o fs targets = (do
      let dirs ← PackageDir.expand fs o.includeTests targets
      let reports ← dirs.mapM (r.directory o fs)
      finish o.failOnIssues ⟨reports.flatten⟩) :=
  rfl

variable (r : Reporter) {o : Options} {fs : FileTree}

theorem directory_tells {dir : PackageDir} {packages : List Package}
    (h : (Package.loadDir fs o.strict dir).result = .ok packages) :
    Tells (r.directory o fs dir) (packages.mapM r.package) :=
  Gives.silent ⟨Package.isSilent_loadDir fs o.strict dir, h⟩ (Tells.refl _)

/-- Directories that can be loaded are reported like their packages in a row. -/
theorem directories_tell {dirs : List PackageDir} {groups : List (List Package)}
    (h : List.Forall₂ (fun d ps => (Package.loadDir fs o.strict d).result = .ok ps) dirs groups) :
    Tells (List.flatten <$> dirs.mapM (r.directory o fs)) (groups.flatten.mapM r.package) := by
  induction h with
  | nil => exact .refl _
  | @cons dir packages dirs groups hd _ ih =>
      have hl : List.flatten <$> (dir :: dirs).mapM (r.directory o fs) = (do
          let reports ← r.directory o fs dir
          let more ← List.flatten <$> dirs.mapM (r.directory o fs)
          return reports ++ more) := by
        simp [List.mapM_cons]
      rw [hl, List.flatten_cons, List.mapM_append]
      exact (r.directory_tells hd).bind fun _ => ih.bind fun _ => .refl _

/-- A directory that cannot be loaded ends the run when everything before it was reported. -/
theorem directories_end {front back : List PackageDir} {dir : PackageDir}
    {groups : List (List Package)} {f : Failure}
    (hfront : List.Forall₂ (fun d ps => (Package.loadDir fs o.strict d).result = .ok ps) front
      groups)
    (hdir : (Package.loadDir fs o.strict dir).result = .error f)
    (next : List (List PackageReport) → Outcome RunReport) :
    Tells ((front ++ dir :: back).mapM (r.directory o fs) >>= next)
      (groups.flatten.mapM r.package >>= fun _ => Outcome.fail f) := by
  have hfail : Gives (r.directory o fs dir) "" (.error f) :=
    Gives.failed ⟨Package.isSilent_loadDir fs o.strict dir, hdir⟩
  have hend : ∀ reports : List (List PackageReport), Tells (do
      let more ← (dir :: back).mapM (r.directory o fs)
      next (reports ++ more)) (Outcome.fail f) := by
    intro reports
    rw [List.mapM_cons]
    exact Gives.failed (Gives.failed hfail)
  have hbefore : Tells (List.flatten <$> front.mapM (r.directory o fs) >>= fun _ =>
      Outcome.fail f) (groups.flatten.mapM r.package >>= fun _ =>
      (Outcome.fail f : Outcome RunReport)) :=
    (r.directories_tell hfront).bind fun _ => .refl _
  rw [bind_map_left] at hbefore
  simp only [List.mapM_append, bind_assoc, pure_bind]
  exact (Tells.bind (.refl _) hend).gives hbefore

theorem runTargets_of_expand {targets : List String} {f : Failure}
    (h : (PackageDir.expand fs o.includeTests targets).result = .error f) :
    Gives (r.runTargets o fs targets) "" (.error f) := by
  rw [runTargets_eq]
  exact Gives.failed ⟨PackageDir.isSilent_expand fs o.includeTests targets, h⟩

theorem runTargets_tells {targets : List String} {front back : List PackageDir} {dir : PackageDir}
    {groups : List (List Package)} {f : Failure}
    (he : (PackageDir.expand fs o.includeTests targets).result = .ok (front ++ dir :: back))
    (hfront : List.Forall₂ (fun d ps => (Package.loadDir fs o.strict d).result = .ok ps) front
      groups)
    (hdir : (Package.loadDir fs o.strict dir).result = .error f) :
    Tells (r.runTargets o fs targets)
      (groups.flatten.mapM r.package >>= fun _ => Outcome.fail f) := by
  rw [runTargets_eq]
  refine Gives.silent ⟨PackageDir.isSilent_expand fs o.includeTests targets, he⟩ ?_
  exact r.directories_end hfront hdir _

/-- What is written about packages before a failure is what a run over them writes. -/
theorem run_then_fail (ps : List Package) (f : Failure) :
    Gives (ps.mapM r.package >>= fun _ => (Outcome.fail f : Outcome RunReport))
      (r.run false ps).out
      (match (r.run false ps).result with
        | .ok _ => .error f
        | .error g => .error g) := by
  rw [WholeReporter.out_run, WholeReporter.result_run, ← result_mapM]
  cases h : (ps.mapM r.package).result with
  | error g => exact Gives.failed ⟨rfl, h⟩
  | ok reports =>
      have hfin : (finish false ⟨reports⟩).result = .ok ⟨reports⟩ := by
        rw [(WholeReporter.finish_gives false ⟨reports⟩).result, Bool.and_false]
        rfl
      have hrun : ((.ok reports : Except Failure (List PackageReport)) >>= fun reports =>
          (finish false ⟨reports⟩).result) = .ok ⟨reports⟩ := hfin
      rw [hrun]
      exact Gives.followed ⟨rfl, h⟩ ⟨rfl, rfl⟩

/-- A run that is ended by a target writes nothing. One that is ended by a directory writes what is
written about the packages of the directories before it, and ends with the failure of that
directory, unless one of those packages could not be analysed. In neither case does it complain
about thresholds. -/
theorem runTargets_ended (r : Reporter) (o : Options) (fs : FileTree) (targets : List String) :
    (∀ f, (PackageDir.expand fs o.includeTests targets).result = .error f →
      (r.runTargets o fs targets).out = "" ∧ (r.runTargets o fs targets).result = .error f) ∧
    ∀ front dir back groups f,
      (PackageDir.expand fs o.includeTests targets).result = .ok (front ++ dir :: back) →
      List.Forall₂ (fun d ps => (Package.loadDir fs o.strict d).result = .ok ps) front groups →
      (Package.loadDir fs o.strict dir).result = .error f →
        (r.runTargets o fs targets).out = (r.run false groups.flatten).out ∧
        (r.runTargets o fs targets).result =
          (match (r.run false groups.flatten).result with
          | .ok _ => .error f
          | .error g => .error g) ∧
        (∀ c, f = .complaint c → o.strict = true ∧ f.isOfFile = true) ∧
        ∀ k n, (r.runTargets o fs targets).result ≠
          .error (.complaint (.thresholdsExceeded k n)) := by
  refine ⟨fun f hf => ?_, fun front dir back groups f he hfront hdir => ?_⟩
  · have hg := r.runTargets_of_expand hf
    exact ⟨hg.out, hg.result⟩
  have htells := r.runTargets_tells he hfront hdir
  have hg := htells.gives (r.run_then_fail groups.flatten f)
  refine ⟨hg.out, hg.result, ?_, fun k n hk => ?_⟩
  · rintro c rfl
    exact Package.strict_of_loadDir hdir
  · rw [htells.result, result_bind] at hk
    cases hm : (groups.flatten.mapM r.package).result with
    | error g =>
        rw [hm] at hk
        have hcomplaint : NoComplaint (groups.flatten.mapM r.package) :=
          .mapM r.noComplaint_package _
        cases hk
        exact hcomplaint _ hm
    | ok reports =>
        rw [hm] at hk
        cases hk
        cases (Package.strict_of_loadDir hdir).2

/-- Three directories, the second of which holds a file that cannot be parsed. -/
def halfBroken : FileTree :=
  { entries := [(["a"], .dir), (["a", "x.go"], .file (Package.clauseOnly "a")), (["b"], .dir),
      (["b", "y.go"], .file Package.broken), (["c"], .dir),
      (["c", "z.go"], .file (Package.clauseOnly "c"))]
    work := []
    home := [] }

/-- Rows for packages, no file passed over, and failure if anything is flagged. -/
def strictTotals : Options where
  thresholds := .ofInts 10 20 (-1)
  csvStats := false
  csvTotals := true
  failOnIssues := true
  includeTests := true
  strict := true
  verbosity := .normal

theorem runTargets_ended_halfBroken :
    ((ofOptions strictTotals none).runTargets strictTotals halfBroken ["a", "b", "c"]).out =
        "a,-1,0,total,0,0,0.000,0.000,0,0,0\n" ∧
      ((ofOptions strictTotals none).runTargets strictTotals halfBroken ["a", "b", "c"]).result =
        .error (.complaint (.parsing "b/y.go" "go" "syntax error at line 1")) := by
  let front : PackageDir := ⟨⟨"", ["a"]⟩, "a", [⟨"", ["a", "x.go"]⟩]⟩
  let dir : PackageDir := ⟨⟨"", ["b"]⟩, "b", [⟨"", ["b", "y.go"]⟩]⟩
  let back : PackageDir := ⟨⟨"", ["c"]⟩, "c", [⟨"", ["c", "z.go"]⟩]⟩
  have he : (PackageDir.expand halfBroken true ["a", "b", "c"]).result =
      .ok [front, dir, back] := by
    with_unfolding_all rfl
  have hfront : (Package.loadDir halfBroken true front).result =
      .ok [⟨"a", "a", [⟨"a/x.go", "a", [], []⟩]⟩] := by
    with_unfolding_all rfl
  have hdir : (Package.loadDir halfBroken true dir).result =
      .error (.complaint (.parsing "b/y.go" "go" "syntax error at line 1")) := by
    with_unfolding_all rfl
  obtain ⟨hout, hresult, -⟩ := (runTargets_ended (ofOptions strictTotals none) strictTotals
    halfBroken ["a", "b", "c"]).2 [front] dir [back] _ _ he (.cons hfront .nil) hdir
  refine ⟨hout.trans ?_, hresult.trans ?_⟩
  · decide +kernel
  · rfl

end Reporter
end GoMetrics
