import Mathlib.Algebra.BigOperators.Group.List.Basic
import Mathlib.Algebra.Ring.Int.Defs
import GoMetrics.Analysis
import GoMetrics.Proofs.Draft.Success
import GoMetrics.Proofs.Outcome

/-!
The report on a package. Thresholds are whole numbers here, so that everything can be compared with
them. A function is measured, taken into the report, and written about if it is flagged; what a
package comes to follows from that step by induction over its functions.
-/

namespace GoMetrics

theorem written_append (xs ys : List String) : written (xs ++ ys) = written xs ++ written ys := by
  simp [written, String.join_append]

/-! Totals -/

/-- The whole numbers of totals are sums over functions. -/
structure Totals.Sums (t : Totals) (xs : List FuncReport) : Prop where
  functions : t.functions = xs.length
  lines : t.lines = (xs.map (·.metrics.lines)).sum
  cyclomatic : t.cyclomatic = (xs.map (·.metrics.cyclomatic)).sum
  maintainability : t.maintainability = (xs.map (·.metrics.maintainability)).sum

theorem Totals.Sums.add {t : Totals} {xs : List FuncReport} (h : t.Sums xs) (x : FuncReport) :
    (t.add x.metrics).Sums (xs ++ [x]) := by
  constructor <;>
    simp [Totals.add, h.functions, h.lines, h.cyclomatic, h.maintainability]

/-! Measured functions -/

/-- A function with its place and its measures. -/
structure FuncReport.Measures (imports selfImports : Int) (f : Func) (x : FuncReport) : Prop where
  name : x.name = f.name
  pos : x.pos = f.pos
  metrics : f.measure imports selfImports = .ok x.metrics

def Func.report (imports selfImports : Int) (f : Func) : Except Unmeasured FuncReport :=
  FuncReport.mk f.name f.pos <$> f.measure imports selfImports

theorem Func.measures_of_report {imports selfImports : Int} {f : Func} {x : FuncReport}
    (h : f.report imports selfImports = .ok x) : x.Measures imports selfImports f := by
  obtain ⟨m, hm, rfl⟩ := Except.map_eq_ok.1 h
  exact ⟨rfl, rfl, hm⟩

/-- How many imports of a package are self imports. -/
def Package.selfImports (p : Package) (depth : Int) : Int :=
  Coupling.selfImports p.path p.imports depth

/-! Thresholds -/

/-- A reporter whose thresholds are whole numbers. -/
structure WholeReporter where
  cyclomaticOver : Int
  maintainabilityUnder : Int
  depth : Int
  style : Style
  totalsOnly : Bool

namespace WholeReporter

def thresholds (w : WholeReporter) : Thresholds :=
  .ofInts w.cyclomaticOver w.maintainabilityUnder w.depth

def reporter (w : WholeReporter) : Reporter :=
  ⟨w.thresholds, w.style, w.totalsOnly⟩

/-- Whether a function crosses a threshold. -/
def flags (w : WholeReporter) (x : FuncReport) : Bool :=
  w.cyclomaticOver < x.metrics.cyclomatic || x.metrics.maintainability < w.maintainabilityUnder

/-- What is said about a function, if it can be said. -/
def said (w : WholeReporter) (x : FuncReport) : List String :=
  (x.lines w.style w.thresholds).toOption.getD []

theorem isExceeded_eq (w : WholeReporter) (x : FuncReport) :
    w.thresholds.isExceeded x.metrics.cyclomatic x.metrics.maintainability = .ok (w.flags x) := by
  by_cases h : w.cyclomaticOver < x.metrics.cyclomatic
  · simp [thresholds, Thresholds.isExceeded, Thresholds.ofInts, Limit.exceededBy, flags, h, bind,
      Except.bind, pure, Except.pure]
  · simp [thresholds, Thresholds.isExceeded, Thresholds.ofInts, Limit.exceededBy,
      Limit.undercutBy, flags, h, bind, Except.bind]

theorem lines_eq (w : WholeReporter) (x : FuncReport) :
    x.lines w.style w.thresholds = .ok (w.said x) := by
  obtain ⟨_, _, _, style, _⟩ := w
  cases style <;> rfl

/-- In the text style there is a line for each threshold. -/
theorem length_textLines {w : WholeReporter} {x : FuncReport} {lines : List String}
    (h : x.textLines w.thresholds = .ok lines) :
    lines.length = (if w.cyclomaticOver < x.metrics.cyclomatic then 1 else 0) +
      if x.metrics.maintainability < w.maintainabilityUnder then 1 else 0 := by
  simp only [FuncReport.textLines, thresholds, Thresholds.ofInts, Limit.exceededBy,
    Limit.undercutBy, Except.bind_eq_ok, Except.pure_eq_ok, Except.ok.injEq, exists_eq_left'] at h
  rw [← h, List.length_append]
  congr 1 <;> split <;> simp_all

/-- What is written about a flagged function: one line for each threshold crossed, or one row. -/
structure Says (w : WholeReporter) (x : FuncReport) (lines : List String) : Prop where
  lines_eq : x.lines w.style w.thresholds = .ok lines
  text : w.style = .text → 1 ≤ lines.length ∧ lines.length ≤ 2
  csv : w.style = .csv → lines = [Csv.row x.csvFields]

theorem says_said {w : WholeReporter} {x : FuncReport} (h : w.flags x = true) :
    w.Says x (w.said x) := by
  refine ⟨w.lines_eq x, fun hs => ?_, fun hs => ?_⟩
  · have hl := w.lines_eq x
    rw [hs] at hl
    rw [length_textLines hl]
    rw [flags, Bool.or_eq_true, decide_eq_true_eq, decide_eq_true_eq] at h
    split <;> split <;> omega
  · rw [said, hs]
    rfl

/-! One function -/

open Outcome

/-- Take a measured function into a report. -/
def take (w : WholeReporter) (report : PackageReport) (x : FuncReport) : PackageReport :=
  { report with
    results := report.results ++ [x]
    flagged := report.flagged ++ [x].filter w.flags
    totals := if w.flags x then report.totals.add x.metrics else report.totals }

theorem take_flagged {w : WholeReporter} (report : PackageReport) {x : FuncReport}
    (h : w.flags x = true) :
    w.take report x =
      { report with
        results := report.results ++ [x]
        flagged := report.flagged ++ [x]
        totals := report.totals.add x.metrics } := by
  simp [take, h]

theorem take_unflagged {w : WholeReporter} (report : PackageReport) {x : FuncReport}
    (h : w.flags x = false) :
    w.take report x = { report with results := report.results ++ [x] } := by
  simp [take, h]

/-- A report into which the functions `xs` were taken. -/
structure Grown (w : WholeReporter) (report : PackageReport) (xs : List FuncReport)
    (report' : PackageReport) : Prop where
  path : report'.path = report.path
  name : report'.name = report.name
  results : report'.results = report.results ++ xs
  flagged : report'.flagged = report.flagged ++ xs.filter w.flags
  imports : report'.totals.imports = report.totals.imports
  selfImports : report'.totals.selfImports = report.totals.selfImports
  sums : report.totals.Sums report.flagged → report'.totals.Sums report'.flagged

theorem grown_take (w : WholeReporter) (report : PackageReport) (x : FuncReport) :
    w.Grown report [x] (w.take report x) := by
  cases hf : w.flags x with
  | false =>
      rw [take_unflagged report hf]
      exact ⟨rfl, rfl, rfl, by simp [hf], rfl, rfl, id⟩
  | true =>
      rw [take_flagged report hf]
      exact ⟨rfl, rfl, rfl, by simp [hf], rfl, rfl, fun h => h.add x⟩

theorem Grown.trans {w : WholeReporter} {report report' report'' : PackageReport}
    {xs ys : List FuncReport} (h : w.Grown report xs report') (h' : w.Grown report' ys report'') :
    w.Grown report (xs ++ ys) report'' where
  path := h'.path.trans h.path
  name := h'.name.trans h.name
  results := by rw [h'.results, h.results, List.append_assoc]
  flagged := by rw [h'.flagged, h.flagged, List.filter_append, List.append_assoc]
  imports := h'.imports.trans h.imports
  selfImports := h'.selfImports.trans h.selfImports
  sums := fun hs => h'.sums (h.sums hs)

theorem grown_foldl_take (w : WholeReporter) (report : PackageReport) (xs : List FuncReport) :
    w.Grown report xs (xs.foldl w.take report) := by
  induction xs generalizing report with
  | nil => exact ⟨rfl, rfl, by simp, by simp, rfl, rfl, id⟩
  | cons x xs ih => exact (w.grown_take report x).trans (ih _)

/-- What is written about single functions. -/
def wording (w : WholeReporter) (xs : List FuncReport) : String :=
  if w.totalsOnly then "" else written ((xs.filter w.flags).flatMap w.said)

theorem wording_cons (w : WholeReporter) (x : FuncReport) (xs : List FuncReport) :
    w.wording (x :: xs) = w.wording [x] ++ w.wording xs := by
  unfold wording
  split
  · rfl
  · rw [← written_append, ← List.flatMap_append, ← List.filter_append, List.singleton_append]

/-- One step: a function that can be measured is taken in, and written about if it is flagged. -/
theorem function_gives (w : WholeReporter) {report : PackageReport} {f : Func} {x : FuncReport}
    (h : x.Measures report.totals.imports report.totals.selfImports f) :
    Gives (w.reporter.function report f) (w.wording [x]) (.ok (w.take report x)) := by
  have hx : (⟨f.name, f.pos, x.metrics⟩ : FuncReport) = x := by rw [← h.name, ← h.pos]
  unfold Reporter.function
  refine Gives.silent (a := x.metrics) ?_ (Gives.silent (.record _ _) ?_)
  · rw [h.metrics]
    exact .ofExcept _ _
  refine Gives.silent (a := w.flags x) ?_ ?_
  · rw [reporter, isExceeded_eq]
    exact .ofExcept _ _
  rw [hx]
  cases hf : w.flags x with
  | false =>
      have hw : w.wording [x] = "" := by simp [wording, hf, written]
      rw [take_unflagged report hf, hw]
      exact .pure _
  | true =>
      rw [take_flagged report hf, wording, reporter]
      cases w.totalsOnly with
      | true => exact .pure _
      | false =>
          have hw : written (([x].filter w.flags).flatMap w.said) = written (w.said x) := by
            simp [hf]
          simp only [hw, Bool.false_eq_true, if_false]
          refine Gives.silent (a := w.said x) ?_ ((Gives.write _).followed (.pure _))
          rw [lines_eq]
          exact .ofExcept _ _

theorem function_fails {r : Reporter} {report : PackageReport} {f : Func} {why : Unmeasured}
    (h : f.measure report.totals.imports report.totals.selfImports = .error why) :
    Gives (r.function report f) "" (.error (.unmeasured why)) := by
  unfold Reporter.function
  refine Gives.failed ?_
  rw [h]
  exact .ofExcept _ _

/-! All functions -/

theorem functions_give (w : WholeReporter) {imports selfImports : Int} {fs : List Func}
    {xs : List FuncReport}
    (h : List.Forall₂ (fun f x => x.Measures imports selfImports f) fs xs)
    (report : PackageReport) (hi : report.totals.imports = imports)
    (hs : report.totals.selfImports = selfImports) :
    Gives (fs.foldlM w.reporter.function report) (w.wording xs) (.ok (xs.foldl w.take report)) := by
  induction h generalizing report with
  | nil =>
      have hw : w.wording [] = "" := by
        rw [wording]
        split <;> rfl
      rw [hw]
      exact .pure _
  | @cons f x fs xs hx _ ih =>
      rw [List.foldlM_cons, wording_cons, List.foldl_cons]
      have ht := w.grown_take report x
      rw [← hi, ← hs] at hx
      exact (w.function_gives hx).bind (ih _ (ht.imports.trans hi) (ht.selfImports.trans hs))

/-- The functions before the first that has no measures are taken in; that one ends the report. -/
theorem functions_fail (w : WholeReporter) {imports selfImports : Int} {fs : List Func}
    {why : Unmeasured} (h : fs.mapM (Func.report imports selfImports) = .error why)
    (report : PackageReport) (hi : report.totals.imports = imports)
    (hs : report.totals.selfImports = selfImports) :
    (∃ f ∈ fs, f.measure imports selfImports = .error why) ∧
      (fs.foldlM w.reporter.function report).result = .error (.unmeasured why) := by
  induction fs generalizing report with
  | nil => cases h
  | cons f fs ih =>
      rw [List.mapM_cons] at h
      rw [List.foldlM_cons]
      cases hf : f.report imports selfImports with
      | error e =>
          rw [hf] at h
          cases h
          have hm : f.measure imports selfImports = .error why := Except.map_eq_error.1 hf
          refine ⟨⟨f, List.mem_cons_self, hm⟩, (Gives.failed (function_fails ?_)).result⟩
          rw [hi, hs, hm]
      | ok x =>
          have hrest : fs.mapM (Func.report imports selfImports) = .error why := by
            rw [hf] at h
            exact Except.map_eq_error.1 h
          have hx := Func.measures_of_report hf
          have ht := w.grown_take report x
          obtain ⟨⟨g, hg, hm⟩, hr⟩ := ih hrest _ (ht.imports.trans hi) (ht.selfImports.trans hs)
          refine ⟨⟨g, List.mem_cons_of_mem f hg, hm⟩, ?_⟩
          rw [← hi, ← hs] at hx
          exact ((w.function_gives hx).bind ⟨rfl, hr⟩).result

/-! Packages -/

/-- A report on all functions of a package. -/
structure Covers (w : WholeReporter) (p : Package) (report : PackageReport) : Prop where
  path : report.path = p.path
  name : report.name = p.name
  /-- One entry for each function, file by file and in order of declaration. -/
  results : List.Forall₂ (fun f x => x.Measures p.imports.length (p.selfImports w.depth) f)
    p.functions report.results
  flagged : report.flagged = report.results.filter w.flags
  sums : report.totals.Sums report.flagged
  imports : report.totals.imports = p.imports.length
  selfImports : report.totals.selfImports = p.selfImports w.depth

/-- The report on a package, when it is begun. -/
def begun (w : WholeReporter) (p : Package) : PackageReport :=
  .start p p.imports.length (p.selfImports w.depth)

theorem covers_of_grown {w : WholeReporter} {p : Package} {xs : List FuncReport}
    {report : PackageReport}
    (h : List.Forall₂ (fun f x => x.Measures p.imports.length (p.selfImports w.depth) f)
      p.functions xs)
    (hg : w.Grown (w.begun p) xs report) : w.Covers p report := by
  have hr : report.results = xs := hg.results
  exact
    { path := hg.path
      name := hg.name
      results := hr.symm ▸ h
      flagged := hr.symm ▸ hg.flagged
      sums := hg.sums ⟨rfl, rfl, rfl, rfl⟩
      imports := hg.imports
      selfImports := hg.selfImports }

/-- What is written about a package. -/
def packageText (w : WholeReporter) (report : PackageReport) : String :=
  if w.totalsOnly then written [report.totals.csvRow report.name]
  else written (report.flagged.flatMap w.said)

/-- The end of a package: its row, if that is what is written. -/
theorem row_gives (totalsOnly : Bool) (row message : String) (report : PackageReport) :
    Gives (do
        if totalsOnly then Outcome.write row
        Outcome.record .debug message
        return report)
      (if totalsOnly then row else "") (.ok report) := by
  have hr : Gives (do
      Outcome.record .debug message
      return report) "" (.ok report) :=
    Gives.silent (.record _ _) (.pure _)
  cases totalsOnly with
  | true => exact (Gives.write row).followed hr
  | false => exact hr

/-- A package is analysed in full, or ended by the first function without measures. -/
theorem package_gives (w : WholeReporter) (p : Package) :
    (∃ f ∈ p.functions, ∃ why, f.measure p.imports.length (p.selfImports w.depth) = .error why ∧
      (w.reporter.package p).result = .error (.unmeasured why)) ∨
    ∃ report, w.Covers p report ∧
      Gives (w.reporter.package p) (w.packageText report) (.ok report) := by
  have hi : Gives (Outcome.ofExcept Failure.mismatch
      (w.reporter.thresholds.selfImportDepth.selfImports p.path p.imports)) ""
      (.ok (Coupling.selfImports p.path p.imports w.depth)) :=
    .ofExcept _ _
  cases hm : p.functions.mapM (Func.report p.imports.length (p.selfImports w.depth)) with
  | error why =>
      obtain ⟨⟨f, hf, hw⟩, hr⟩ := w.functions_fail hm (w.begun p) rfl rfl
      refine .inl ⟨f, hf, why, hw, ?_⟩
      exact (hi.silent (Gives.failed ⟨rfl, hr⟩)).result
  | ok xs =>
      have hx : List.Forall₂ (fun f x => x.Measures p.imports.length (p.selfImports w.depth) f)
          p.functions xs :=
        (Except.mapM_eq_ok.1 hm).imp fun _ _ h => Func.measures_of_report h
      have hg := w.functions_give hx (w.begun p) rfl rfl
      have hgrown := w.grown_foldl_take (w.begun p) xs
      generalize xs.foldl w.take (w.begun p) = report at hg hgrown
      have hc := covers_of_grown hx hgrown
      have ht : w.packageText report = w.wording xs ++
          if w.totalsOnly then written [report.totals.csvRow p.name] else "" := by
        have hf : report.flagged = xs.filter w.flags := hgrown.flagged
        rw [packageText, wording, hc.name, hf]
        split <;> simp
      refine .inr ⟨report, hc, ?_⟩
      rw [ht]
      exact hi.silent (hg.bind (row_gives w.totalsOnly _ _ report))

/-- The report on a package whose functions can all be measured has one entry for each of them. The
flagged ones are those that cross a threshold, the totals are sums over them, and the counts of
imports are those of the package. It is written about the flagged functions in order, or about the
package once, also if nothing is flagged. -/
theorem package_report (w : WholeReporter) (p : Package) :
    (∃ f ∈ p.functions, ∃ why, f.measure p.imports.length (p.selfImports w.depth) = .error why ∧
        (w.reporter.package p).result = .error (.unmeasured why)) ∨
      ∃ report, (w.reporter.package p).result = .ok report ∧ w.Covers p report ∧
        (∀ x ∈ report.results, w.thresholds.isExceeded x.metrics.cyclomatic
          x.metrics.maintainability = .ok (w.flags x)) ∧
        if w.totalsOnly then (w.reporter.package p).out = written [report.totals.csvRow p.name]
        else ∃ lines, List.Forall₂ w.Says report.flagged lines ∧
          (w.reporter.package p).out = written lines.flatten := by
  obtain h | ⟨report, hc, hg⟩ := w.package_gives p
  · exact .inl h
  refine .inr ⟨report, hg.result, hc, fun x _ => w.isExceeded_eq x, ?_⟩
  rw [hg.out, packageText]
  split
  · rw [hc.name]
  · refine ⟨report.flagged.map w.said, ?_, rfl⟩
    rw [List.forall₂_map_right_iff, List.forall₂_same, hc.flagged]
    intro x hx
    exact says_said (List.of_mem_filter hx)

/-- A package without functions has a row. -/
example : ((WholeReporter.reporter ⟨10, 20, -1, .text, true⟩).package ⟨"m/p", "p", []⟩).out =
    "p,-1,0,total,0,0,0.000,0.000,0,0,0\n" := by
  decide +kernel

end WholeReporter
end GoMetrics
