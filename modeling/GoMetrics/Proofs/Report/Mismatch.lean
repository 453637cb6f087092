import GoMetrics.Proofs.Report.Targets

/-!
Limits that do not compare. A measure cannot be compared with a limit that is no number, and a run
ends where it is tried. Limits that are whole numbers are never the end of a run, be it over
packages at hand or over targets.
-/

namespace GoMetrics

/-! Single comparisons -/

theorem Limit.exceededBy_eq_error {l : Limit} {i : Int} {m : Mismatch} :
    l.exceededBy i = .error m ↔ ∃ type, l = .other type ∧ m = .incomparable ">" type := by
  cases l <;> simp [exceededBy, eq_comm]

theorem Limit.undercutBy_eq_error {l : Limit} {i : Int} {m : Mismatch} :
    l.undercutBy i = .error m ↔ ∃ type, l = .other type ∧ m = .incomparable "<" type := by
  cases l <;> simp [undercutBy, eq_comm]

/-- The second limit is only looked at by functions that keep the first. -/
theorem Thresholds.isExceeded_eq_error {t : Thresholds} {cyclomatic maintainability : Int}
    {m : Mismatch} : t.isExceeded cyclomatic maintainability = .error m ↔
      (∃ type, t.cyclomaticOver = .other type ∧ m = .incomparable ">" type) ∨
      t.cyclomaticOver.exceededBy cyclomatic = .ok false ∧
        ∃ type, t.maintainabilityUnder = .other type ∧ m = .incomparable "<" type := by
  rw [← Limit.exceededBy_eq_error (i := cyclomatic),
    ← Limit.undercutBy_eq_error (i := maintainability), isExceeded]
  cases t.cyclomaticOver.exceededBy cyclomatic with
  | error e => simp [bind, Except.bind]
  | ok exceeded => cases exceeded <;> simp [bind, Except.bind, pure, Except.pure]

/-! Whole numbers. Measures compare with them, and nothing else in a run ends in a mismatch. -/

open Outcome

theorem GoFile.load_ne_mismatch {fs : FileTree} {p : Path} {m : Mismatch} :
    load fs p ≠ .error (.mismatch m) := by
  intro h
  unfold load at h
  split at h
  · cases h
  · cases h
  · obtain ⟨e, -, he⟩ := parse_eq_error h
    cases e with
    | fault why => cases why <;> cases he
    | noPackageClause | illFormedText => cases he

theorem GoFile.avoids_mismatch_loadOrSkip (fs : FileTree) (strict : Bool) (p : Path) :
    (loadOrSkip fs strict p).Avoids .mismatch :=
  loadOrSkip_of_closed Avoids.closed fun _ hf => .fail fun _ hm => load_ne_mismatch (hm ▸ hf)

theorem Package.avoids_mismatch_loadDir (fs : FileTree) (strict : Bool) (dir : PackageDir) :
    (loadDir fs strict dir).Avoids .mismatch :=
  .bind (.mapM (GoFile.avoids_mismatch_loadOrSkip fs strict) _) fun _ _ h =>
    nomatch (logged_gives _).result.symm.trans h

theorem PackageDir.avoids_mismatch_expand (fs : FileTree) (includeTests : Bool)
    (targets : List String) : (expand fs includeTests targets).Avoids .mismatch :=
  expand_of_closed Avoids.closed (.ofExcept nofun) (fun _ _ => .fail nofun) fs includeTests targets

theorem Reporter.avoids_mismatch_finish (failOnIssues : Bool) (report : RunReport) :
    (finish failOnIssues report).Avoids .mismatch := by
  intro m
  rw [(WholeReporter.finish_gives failOnIssues report).result]
  split <;> exact nofun

namespace WholeReporter

variable (w : WholeReporter)

theorem avoids_mismatch_package (p : Package) : (w.reporter.package p).Avoids .mismatch := by
  intro m h
  obtain ⟨_, -, _, -, he⟩ := unmeasured_of_result h
  cases he

/-- Nothing that is done with packages at hand ends in a mismatch. -/
theorem avoids_mismatch_run (failOnIssues : Bool) (ps : List Package) :
    (w.reporter.run failOnIssues ps).Avoids .mismatch :=
  .bind (.mapM w.avoids_mismatch_package _) fun _ => Reporter.avoids_mismatch_finish _ _

/-- Nor does anything that is done with targets. -/
theorem avoids_mismatch_runTargets (o : Options) (fs : FileTree) (targets : List String) :
    (w.reporter.runTargets o fs targets).Avoids .mismatch :=
  .bind (PackageDir.avoids_mismatch_expand _ _ _) fun _ =>
    .bind (.mapM (fun _ => .bind (Package.avoids_mismatch_loadDir _ _ _) fun _ =>
      .mapM w.avoids_mismatch_package _) _) fun _ => Reporter.avoids_mismatch_finish _ _

end WholeReporter

/-! A limit that is no number -/

namespace Reporter

variable {r : Reporter} {type : String} {d : Int}

/-- The first function that is measured ends the report. -/
theorem function_incomparable (hc : r.thresholds.cyclomaticOver = .other type)
    {report : PackageReport} {f : Func} {m : Metrics}
    (hm : f.measure report.totals.imports report.totals.selfImports = .ok m) :
    Gives (r.function report f) "" (.error (.mismatch (.incomparable ">" type))) := by
  have he : r.thresholds.isExceeded m.cyclomatic m.maintainability =
      .error (.incomparable ">" type) :=
    Thresholds.isExceeded_eq_error.2 (.inl ⟨type, hc, rfl⟩)
  unfold function
  refine Gives.silent (a := m) ?_ (Gives.silent (.record _ _) (Gives.failed ?_))
  · rw [hm]
    exact .ofExcept _ _
  · rw [he]
    exact .ofExcept _ _

/-- A package without functions is not ended; any other is. -/
theorem package_incomparable (hd : r.thresholds.selfImportDepth = .whole d)
    (hc : r.thresholds.cyclomaticOver = .other type) {p : Package}
    (hm : ∀ f ∈ p.functions, ∃ m, f.measure p.imports.length (p.selfImports d) = .ok m) :
    (p.functions = [] ∧ ∃ report, (r.package p).result = .ok report) ∨
      (p.functions ≠ [] ∧ (r.package p).result = .error (.mismatch (.incomparable ">" type))) := by
  have hi : Gives (Outcome.ofExcept Failure.mismatch
      (r.thresholds.selfImportDepth.selfImports p.path p.imports)) ""
      (.ok (Coupling.selfImports p.path p.imports d)) := by
    rw [hd]
    exact .ofExcept _ _
  let begun : PackageReport := .start p p.imports.length (Coupling.selfImports p.path p.imports d)
  unfold package
  cases hp : p.functions with
  | nil =>
      have hnone : Gives (([] : List Func).foldlM r.function begun) "" (.ok begun) := .pure begun
      have hrow := WholeReporter.row_gives r.totalsOnly (written [begun.totals.csvRow p.name])
        (p.path ++ ": " ++ toString begun.results.length ++ " functions, " ++
          toString begun.flagged.length ++ " over thresholds") begun
      exact .inl ⟨rfl, begun, (hi.silent (hnone.silent hrow)).result⟩
  | cons f fs =>
      obtain ⟨m, hf⟩ := hm f (hp ▸ List.mem_cons_self)
      have hmeasured : f.measure begun.totals.imports begun.totals.selfImports = .ok m := hf
      have hfail : Gives ((f :: fs).foldlM r.function begun) ""
          (.error (.mismatch (.incomparable ">" type))) := by
        rw [List.foldlM_cons]
        exact (function_incomparable hc hmeasured).failed
      exact .inr ⟨List.cons_ne_nil f fs, (hi.silent hfail.failed).result⟩

/-- A run over packages ends at the first function that there is. -/
theorem run_incomparable (hd : r.thresholds.selfImportDepth = .whole d)
    (hc : r.thresholds.cyclomaticOver = .other type) {ps : List Package}
    (hm : ∀ p ∈ ps, ∀ f ∈ p.functions, ∃ m,
      f.measure p.imports.length (p.selfImports d) = .ok m)
    (hne : ∃ p ∈ ps, p.functions ≠ []) (failOnIssues : Bool) :
    (r.run failOnIssues ps).result = .error (.mismatch (.incomparable ">" type)) := by
  have hps : ps.mapM (fun p => (r.package p).result) =
      .error (.mismatch (.incomparable ">" type)) := by
    induction ps with
    | nil => simp at hne
    | cons p ps ih =>
        rw [List.mapM_cons]
        obtain ⟨hp, report, hr⟩ | ⟨-, hr⟩ := package_incomparable hd hc (hm p List.mem_cons_self)
        · have hrest := ih (fun q hq => hm q (List.mem_cons_of_mem p hq)) (by simpa [hp] using hne)
          rw [hr, hrest]
          rfl
        · rw [hr]
          rfl
  rw [WholeReporter.result_run, hps]
  rfl

end Reporter
end GoMetrics
