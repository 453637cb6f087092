import GoMetrics.Proofs.Report.Package

/-!
Runs over several packages. A run that is asked to fail when something is flagged analyses and
reports every package before it does, so the same is written whether or not it was asked. The number
of functions that it fails with is the number of flagged functions, as merged totals count them.
-/

namespace GoMetrics

theorem Totals.Sums.merge {t u : Totals} {xs ys : List FuncReport} (ht : t.Sums xs)
    (hu : u.Sums ys) : (t.merge u).Sums (xs ++ ys) := by
  constructor <;>
    simp [Totals.merge, ht.functions, hu.functions, ht.lines, hu.lines, ht.cyclomatic,
      hu.cyclomatic, ht.maintainability, hu.maintainability]

namespace RunReport

/-- All flagged functions of a run. -/
def flagged (r : RunReport) : List FuncReport :=
  r.packages.flatMap PackageReport.flagged

theorem issuesFound_eq (r : RunReport) : r.issuesFound = decide (0 < r.flagged.length) := by
  rw [Bool.eq_iff_iff, decide_eq_true_iff, List.length_pos_iff_ne_nil, flagged, ne_eq,
    List.flatMap_eq_nil_iff, issuesFound, List.any_eq_true]
  simp [PackageReport.issuesFound]

end RunReport

namespace WholeReporter

open Outcome

/-- Totals into which those of packages are merged, each covered by its own report. -/
theorem foldl_merge_of_covers {w : WholeReporter} {ps : List Package}
    {reports : List PackageReport} (h : List.Forall₂ w.Covers ps reports) {t : Totals}
    {xs : List FuncReport} (ht : t.Sums xs) :
    ((reports.map PackageReport.totals).foldl Totals.merge t).Sums
        (xs ++ reports.flatMap PackageReport.flagged) ∧
      ((reports.map PackageReport.totals).foldl Totals.merge t).imports =
        t.imports + (ps.map fun p => (p.imports.length : Int)).sum ∧
      ((reports.map PackageReport.totals).foldl Totals.merge t).selfImports =
        t.selfImports + (ps.map fun p => p.selfImports w.depth).sum := by
  induction h generalizing t xs with
  | nil => simpa using ht
  | @cons p report ps reports hc _ ih =>
      obtain ⟨hsums, hi, hs⟩ := ih (ht.merge hc.sums)
      simp only [List.map_cons, List.foldl_cons, List.flatMap_cons, List.sum_cons,
        ← List.append_assoc, hi, hs]
      refine ⟨hsums, ?_, ?_⟩
      · rw [Totals.merge, hc.imports, Int.add_assoc]
      · rw [Totals.merge, hc.selfImports, Int.add_assoc]

theorem totals_of_covers {w : WholeReporter} {ps : List Package} {reports : List PackageReport}
    (h : List.Forall₂ w.Covers ps reports) :
    (RunReport.mk reports).totals.Sums (RunReport.mk reports).flagged ∧
      (RunReport.mk reports).totals.imports = (ps.map fun p => (p.imports.length : Int)).sum ∧
      (RunReport.mk reports).totals.selfImports = (ps.map fun p => p.selfImports w.depth).sum := by
  have hz : Totals.zero.Sums [] := ⟨rfl, rfl, rfl, rfl⟩
  obtain ⟨hsums, hi, hs⟩ := foldl_merge_of_covers h hz
  exact ⟨hsums, hi.trans (Int.zero_add _), hs.trans (Int.zero_add _)⟩

/-- The end of a run writes nothing. -/
theorem finish_gives (failOnIssues : Bool) (report : RunReport) :
    Gives (Reporter.finish failOnIssues report) ""
      (if report.issuesFound && failOnIssues then
        .error (.complaint (.thresholdsExceeded report.totals.functions report.packages.length))
      else .ok report) := by
  unfold Reporter.finish
  refine Gives.silent (.record _ _) ?_
  split
  · exact ⟨rfl, rfl⟩
  · exact .pure _

/-- What a run writes, it writes before its end. -/
theorem out_run (r : Reporter) (failOnIssues : Bool) (ps : List Package) :
    (r.run failOnIssues ps).out = (ps.mapM r.package).out := by
  unfold Reporter.run
  cases h : (ps.mapM r.package).result with
  | error e => exact (Gives.failed ⟨rfl, h⟩).out
  | ok reports => exact (Gives.followed ⟨rfl, h⟩ (finish_gives failOnIssues ⟨reports⟩)).out

theorem result_run (r : Reporter) (failOnIssues : Bool) (ps : List Package) :
    (r.run failOnIssues ps).result =
      (ps.mapM fun p => (r.package p).result) >>= fun reports =>
        (Reporter.finish failOnIssues ⟨reports⟩).result := by
  unfold Reporter.run
  rw [result_bind, result_mapM]

theorem covers_of_result {w : WholeReporter} {p : Package} {report : PackageReport}
    (h : (w.reporter.package p).result = .ok report) : w.Covers p report := by
  obtain ⟨_, -, why, -, he⟩ | ⟨report', hc, hg⟩ := w.package_gives p
  · rw [he] at h
    cases h
  · rw [hg.result] at h
    cases h
    exact hc

/-- Only a function without measures ends the report on a package. -/
theorem unmeasured_of_result {w : WholeReporter} {p : Package} {e : Failure}
    (h : (w.reporter.package p).result = .error e) :
    ∃ f ∈ p.functions, ∃ why,
      f.measure p.imports.length (p.selfImports w.depth) = .error why ∧ e = .unmeasured why := by
  obtain ⟨f, hf, why, hw, hr⟩ | ⟨report, -, hg⟩ := w.package_gives p
  · rw [hr] at h
    cases h
    exact ⟨f, hf, why, hw, rfl⟩
  · rw [hg.result] at h
    cases h

/-- A run over packages whose functions can all be measured writes what it writes about each of
them, whether or not it is to fail. It fails if it is to and at least one function is flagged, with
the number of flagged functions and of packages; if not, it gives the same report, whose totals are
sums over all flagged functions. -/
theorem run_failure_signal (w : WholeReporter) (ps : List Package) :
    (w.reporter.run true ps).out = (w.reporter.run false ps).out ∧
    ((∃ p ∈ ps, ∃ f ∈ p.functions, ∃ why,
        f.measure p.imports.length (p.selfImports w.depth) = .error why ∧
        ∀ failOnIssues, (w.reporter.run failOnIssues ps).result = .error (.unmeasured why)) ∨
      ∃ report : RunReport,
        List.Forall₂ (fun p r => (w.reporter.package p).result = .ok r ∧ w.Covers p r) ps
          report.packages ∧
        (w.reporter.run false ps).out = String.join (ps.map fun p => (w.reporter.package p).out) ∧
        (w.reporter.run false ps).result = .ok report ∧
        (w.reporter.run true ps).result =
          (if 0 < report.flagged.length then
            .error (.complaint (.thresholdsExceeded report.flagged.length ps.length))
          else .ok report) ∧
        report.totals.Sums report.flagged ∧
        report.totals.imports = (ps.map fun p => (p.imports.length : Int)).sum ∧
        report.totals.selfImports = (ps.map fun p => p.selfImports w.depth).sum) := by
  refine ⟨by rw [out_run, out_run], ?_⟩
  cases hm : ps.mapM fun p => (w.reporter.package p).result with
  | error e =>
      obtain ⟨front, p, back, rfl, -, hp⟩ := Except.mapM_eq_error.1 hm
      obtain ⟨f, hf, why, hw, rfl⟩ := unmeasured_of_result hp
      refine .inl ⟨p, by simp, f, hf, why, hw, fun failOnIssues => ?_⟩
      rw [result_run, hm]
      rfl
  | ok reports =>
      have hp := Except.mapM_eq_ok.1 hm
      have hc : List.Forall₂ (fun p r => (w.reporter.package p).result = .ok r ∧ w.Covers p r) ps
          reports :=
        hp.imp fun _ _ hr => ⟨hr, covers_of_result hr⟩
      obtain ⟨hs, hi⟩ := totals_of_covers (hc.imp fun _ _ h => h.2)
      have hfin : ∀ failOnIssues, (w.reporter.run failOnIssues ps).result =
          (Reporter.finish failOnIssues ⟨reports⟩).result := by
        intro failOnIssues
        rw [result_run, hm]
        rfl
      refine .inr ⟨⟨reports⟩, hc, ?_, ?_, ?_, hs, hi⟩
      · rw [out_run]
        exact (mapM_gives hp).out
      · rw [hfin, (finish_gives false _).result, Bool.and_false]
        rfl
      · rw [hfin, (finish_gives true _).result, Bool.and_true, RunReport.issuesFound_eq,
          hs.functions, hp.length_eq]
        simp only [decide_eq_true_eq]

end WholeReporter
end GoMetrics
