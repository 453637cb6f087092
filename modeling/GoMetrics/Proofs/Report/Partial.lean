import GoMetrics.Proofs.Report.Modes
import GoMetrics.Proofs.Report.Run

/-!
Reports as far as they get. Thresholds can be anything here, so that besides a function without
measures also a comparison can end a run. In the table style a row is written for each function
when it is flagged; whatever ends a run later, the rows that were written stay.
-/

namespace GoMetrics

open Outcome

namespace Reporter

/-! One function -/

/-- A report into which a measured function was taken. -/
inductive Takes (r : Reporter) (report : PackageReport) (x : FuncReport) : PackageReport → Prop
  | unflagged
      (h : r.thresholds.isExceeded x.metrics.cyclomatic x.metrics.maintainability = .ok false) :
      Takes r report x { report with results := report.results ++ [x] }
  | flagged
      (h : r.thresholds.isExceeded x.metrics.cyclomatic x.metrics.maintainability = .ok true) :
      Takes r report x
        { report with
          results := report.results ++ [x]
          flagged := report.flagged ++ [x]
          totals := report.totals.add x.metrics }

theorem Takes.results {r : Reporter} {report report' : PackageReport} {x : FuncReport}
    (h : r.Takes report x report') : report'.results = report.results ++ [x] := by
  cases h <;> rfl

/-- The counts of imports are those with which a report was begun. -/
theorem Takes.imports {r : Reporter} {report report' : PackageReport} {x : FuncReport}
    (h : r.Takes report x report') :
    report'.totals.imports = report.totals.imports ∧
      report'.totals.selfImports = report.totals.selfImports := by
  cases h <;> exact ⟨rfl, rfl⟩

/-- All that can come of a function: a failure, or a report into which it was taken. -/
theorem function_takes {r : Reporter} {report report' : PackageReport} {f : Func}
    (h : (r.function report f).result = .ok report') :
    ∃ x : FuncReport, x.Measures report.totals.imports report.totals.selfImports f ∧
      r.Takes report x report' := by
  unfold function at h
  simp only [result_bind, Except.bind_eq_ok] at h
  obtain ⟨m, hm, -, -, exceeded, he, h⟩ := h
  have hmeasure := Except.mapError_eq_ok.1 hm
  have hexceeded := Except.mapError_eq_ok.1 he
  refine ⟨⟨f.name, f.pos, m⟩, ⟨rfl, rfl, hmeasure⟩, ?_⟩
  cases exceeded with
  | false =>
      cases h
      exact .unflagged hexceeded
  | true =>
      simp only [Bool.not_true, Bool.false_eq_true, if_false] at h
      split at h
      · simp only [result_bind, Except.bind_eq_ok] at h
        obtain ⟨-, -, -, -, h⟩ := h
        cases h
        exact .flagged hexceeded
      · cases h
        exact .flagged hexceeded

/-! Rows for flagged functions -/

/-- A reporter that writes a row for each flagged function. -/
structure WritesRows (r : Reporter) : Prop where
  style : r.style = .csv
  each : r.totalsOnly = false

/-- The rows for the flagged functions of a report. -/
def rows (report : PackageReport) : String :=
  written (report.flagged.map FuncReport.csvRow)

/-- A step that fails, having written nothing, or that adds to the rows of a report what it
writes. -/
def Extends (report : PackageReport) (x : Outcome PackageReport) : Prop :=
  (∃ e, Gives x "" (.error e)) ∨
    ∃ text report', Gives x text (.ok report') ∧ rows report' = rows report ++ text

variable {r : Reporter}

theorem function_extends (hr : r.WritesRows) (report : PackageReport) (f : Func) :
    Extends report (r.function report f) := by
  cases hm : f.measure report.totals.imports report.totals.selfImports with
  | error why => exact .inl ⟨_, WholeReporter.function_fails hm⟩
  | ok m =>
      have hmeasure : Gives (.ofExcept .unmeasured
          (f.measure report.totals.imports report.totals.selfImports)) "" (.ok m) := by
        rw [hm]
        exact .ofExcept _ _
      cases he : r.thresholds.isExceeded m.cyclomatic m.maintainability with
      | error why =>
          refine .inl ⟨.mismatch why, ?_⟩
          refine hmeasure.silent (Gives.silent (.record _ _) (Gives.failed ?_))
          rw [he]
          exact .ofExcept _ _
      | ok exceeded =>
          have hexceeded : Gives (.ofExcept .mismatch
              (r.thresholds.isExceeded m.cyclomatic m.maintainability)) "" (.ok exceeded) := by
            rw [he]
            exact .ofExcept _ _
          unfold function
          cases exceeded with
          | false =>
              exact .inr ⟨"", _, hmeasure.silent (Gives.silent (.record _ _)
                (hexceeded.silent (.pure _))), (String.append_empty).symm⟩
          | true =>
              let x : FuncReport := ⟨f.name, f.pos, m⟩
              refine .inr ⟨written [x.csvRow],
                { report with
                  results := report.results ++ [x]
                  flagged := report.flagged ++ [x]
                  totals := report.totals.add m }, ?_, ?_⟩
              · refine hmeasure.silent (Gives.silent (.record _ _) (hexceeded.silent ?_))
                have hlines : Gives (.ofExcept .mismatch (x.lines r.style r.thresholds)) ""
                    (.ok [x.csvRow]) := by
                  rw [hr.style]
                  exact .ofExcept _ _
                rw [hr.each]
                exact hlines.silent ((Gives.write _).followed (.pure _))
              · rw [rows, rows, List.map_append, written_append]
                rfl

/-! Packages -/

/-- The report into which functions are taken, up to the first that cannot be. -/
def takenIn (r : Reporter) (report : PackageReport) : List Func → PackageReport
  | [] => report
  | f :: fs =>
    match (r.function report f).result with
    | .ok report' => r.takenIn report' fs
    | .error _ => report

/-- The report on a package when it is finished or cannot go on. -/
def soFar (r : Reporter) (p : Package) : PackageReport :=
  match r.thresholds.selfImportDepth.selfImports p.path p.imports with
  | .ok n => r.takenIn (.start p p.imports.length n) p.functions
  | .error _ => .start p p.imports.length 0

/-- The reports of a run when it is finished or cannot go on. -/
def reportsSoFar (r : Reporter) : List Package → List PackageReport
  | [] => []
  | p :: ps => r.soFar p ::
    match (r.package p).result with
    | .ok _ => r.reportsSoFar ps
    | .error _ => []

theorem rows_takenIn (hr : r.WritesRows) (report : PackageReport) (fs : List Func) :
    rows (r.takenIn report fs) = rows report ++ (fs.foldlM r.function report).out := by
  induction fs generalizing report with
  | nil => exact (String.append_empty).symm
  | cons f fs ih =>
      rw [List.foldlM_cons, takenIn]
      obtain ⟨e, hf⟩ | ⟨text, report', hf, hrows⟩ := function_extends hr report f
      · rw [hf.result, hf.failed.out, String.append_empty]
      · have hg : Gives (r.function report f >>= fun b => fs.foldlM r.function b)
            (text ++ (fs.foldlM r.function report').out) _ := hf.bind ⟨rfl, rfl⟩
        rw [hf.result, hg.out, ← String.append_assoc, ← hrows]
        exact ih report'

theorem takenIn_of_result {report report' : PackageReport} {fs : List Func}
    (h : (fs.foldlM r.function report).result = .ok report') : r.takenIn report fs = report' := by
  induction fs generalizing report with
  | nil => exact Except.ok.inj h
  | cons f fs ih =>
      rw [List.foldlM_cons, result_bind, Except.bind_eq_ok] at h
      obtain ⟨next, hf, h⟩ := h
      rw [takenIn, hf]
      exact ih h

theorem package_extends (hr : r.WritesRows) (p : Package) :
    (r.package p).out = rows (r.soFar p) := by
  have hstart : ∀ n : Int, rows (.start p p.imports.length n) = "" := fun _ => rfl
  unfold package soFar
  cases hs : r.thresholds.selfImportDepth.selfImports p.path p.imports with
  | error why =>
      rw [hstart]
      exact (Gives.failed (.ofExcept _ _)).out
  | ok n =>
      rw [rows_takenIn hr, hstart, String.empty_append]
      have hdepth : Gives (Outcome.ofExcept Failure.mismatch (.ok n)) "" (.ok n) := .ofExcept _ _
      cases hf : (p.functions.foldlM r.function (.start p p.imports.length n)).result with
      | error e => exact (hdepth.silent (Gives.failed ⟨rfl, hf⟩)).out
      | ok report =>
          have hend := WholeReporter.row_gives r.totalsOnly (written [report.totals.csvRow p.name])
            (p.path ++ ": " ++ toString report.results.length ++ " functions, " ++
              toString report.flagged.length ++ " over thresholds") report
          rw [hr.each] at hend ⊢
          exact (hdepth.silent (Gives.followed ⟨rfl, hf⟩ hend)).out

theorem soFar_of_result {p : Package} {report : PackageReport}
    (h : (r.package p).result = .ok report) : r.soFar p = report := by
  unfold package at h
  rw [result_bind, Except.bind_eq_ok] at h
  obtain ⟨n, hn, h⟩ := h
  rw [result_bind, Except.bind_eq_ok] at h
  obtain ⟨report', hf, h⟩ := h
  rw [(WholeReporter.row_gives r.totalsOnly _ _ report').result] at h
  cases h
  rw [soFar, Except.mapError_eq_ok.1 hn]
  exact takenIn_of_result hf

/-! Runs -/

/-- What a run has flagged when it is finished or cannot go on. -/
def flaggedSoFar (r : Reporter) (ps : List Package) : List FuncReport :=
  (r.reportsSoFar ps).flatMap PackageReport.flagged

theorem packages_extend (hr : r.WritesRows) (ps : List Package) :
    (ps.mapM r.package).out = written ((r.flaggedSoFar ps).map FuncReport.csvRow) := by
  induction ps with
  | nil => rfl
  | cons p ps ih =>
      have hp := package_extends hr p
      rw [List.mapM_cons, flaggedSoFar, reportsSoFar]
      cases h : (r.package p).result with
      | error e => simpa [rows] using (Gives.failed ⟨hp, h⟩).out
      | ok report =>
          have hrest : (ps.mapM r.package >>= fun reports => Pure.pure (report :: reports)).out =
              (ps.mapM r.package).out := by
            cases hm : (ps.mapM r.package).result with
            | error e => exact (Gives.failed ⟨rfl, hm⟩).out
            | ok reports => exact (Gives.followed ⟨rfl, hm⟩ (.pure (report :: reports))).out
          rw [(Gives.bind ⟨hp, h⟩ ⟨hrest, rfl⟩).out, ih, rows, ← written_append, ← List.map_append]
          rfl

/-- A run in the table style writes a row for each function that it flags before it ends. -/
theorem out_run_rows (hr : r.WritesRows) (failOnIssues : Bool) (ps : List Package) :
    (r.run failOnIssues ps).out = written ((r.flaggedSoFar ps).map FuncReport.csvRow) := by
  rw [WholeReporter.out_run, packages_extend hr]

/-- A run that gets to its end has flagged what it reports. -/
theorem flaggedSoFar_of_result {ps : List Package} {report : RunReport}
    (h : (r.run false ps).result = .ok report) : r.flaggedSoFar ps = report.flagged := by
  rw [WholeReporter.result_run, Except.bind_eq_ok] at h
  obtain ⟨reports, hm, h⟩ := h
  rw [(WholeReporter.finish_gives false ⟨reports⟩).result, Bool.and_false] at h
  cases h
  have hsoFar : r.reportsSoFar ps = reports := by
    have hp := Except.mapM_eq_ok.1 hm
    clear hm
    induction hp with
    | nil => rfl
    | cons hp _ ih => rw [reportsSoFar, hp, soFar_of_result hp, ih]
  rw [flaggedSoFar, hsoFar, RunReport.flagged]

end Reporter
end GoMetrics
