import Mathlib
import GoMetrics.Proofs.Report.Package
import GoMetrics.Proofs.Report.Rows

/-!
The two modes of tables. With a row for each flagged function and with one row for the package, the
same functions are flagged and the same columns are filled. So the row of the package adds up the
others: it counts them, sums what is measured of each function, and repeats what is counted once for
the package.
-/

namespace GoMetrics

namespace Csv

/-- The columns of a row, in order. -/
inductive Column
  | file | line | column | name | cyclomatic | maintainability | difficulty | volume | lines
  | imports | selfImports
  deriving DecidableEq, Repr

/-- The whole number in a column of a row. -/
def number? (c : Column) (row : String) : Option Int :=
  (read row)[c.ctorIdx]?.bind String.toInt?

/-- A row that adds up others. -/
structure AddsUp (rows : List String) (total : String) : Prop where
  count : number? .column total = some (rows.length : Int)
  sums : ∀ c ∈ [Column.cyclomatic, .maintainability, .lines], ∃ xs : List Int,
    rows.map (number? c) = xs.map some ∧ number? c total = some xs.sum
  repeated : ∀ c ∈ [Column.imports, .selfImports], ∃ n : Int,
    number? c total = some n ∧ ∀ row ∈ rows, number? c row = some n

theorem toInt?_toString (i : Int) : (toString i).toInt? = some i := by
  rw [Int.toString_eq_repr, Int.toInt?_repr]

theorem number?_row {fields : List String} {c : Column} {i : Int}
    (h : fields[c.ctorIdx]? = some (toString i)) : number? c (row fields) = some i := by
  have hne : fields ≠ [] := by
    rintro rfl
    cases h
  rw [number?, read_row hne, h, Option.bind_some, toInt?_toString]

end Csv

open Csv

/-- The row of a function. -/
def FuncReport.csvRow (x : FuncReport) : String :=
  Csv.row x.csvFields

/-- What a function puts into the columns of whole numbers. -/
theorem FuncReport.number?_csvRow (x : FuncReport) :
    number? .cyclomatic x.csvRow = some x.metrics.cyclomatic ∧
      number? .maintainability x.csvRow = some x.metrics.maintainability ∧
      number? .lines x.csvRow = some x.metrics.lines ∧
      number? .imports x.csvRow = some x.metrics.imports ∧
      number? .selfImports x.csvRow = some x.metrics.selfImports :=
  ⟨number?_row rfl, number?_row rfl, number?_row rfl, number?_row rfl, number?_row rfl⟩

/-- What totals put into the same columns, and into the one that counts functions. -/
theorem Totals.number?_csvRow (t : Totals) (name : String) :
    number? .column (t.csvRow name) = some t.functions ∧
      number? .cyclomatic (t.csvRow name) = some t.cyclomatic ∧
      number? .maintainability (t.csvRow name) = some t.maintainability ∧
      number? .lines (t.csvRow name) = some t.lines ∧
      number? .imports (t.csvRow name) = some t.imports ∧
      number? .selfImports (t.csvRow name) = some t.selfImports :=
  ⟨number?_row rfl, number?_row rfl, number?_row rfl, number?_row rfl, number?_row rfl,
    number?_row rfl⟩

/-- Totals add up functions that they are the sums of and whose imports they share. -/
theorem Totals.Sums.addsUp {t : Totals} {xs : List FuncReport} (h : t.Sums xs)
    (hi : ∀ x ∈ xs, x.metrics.imports = t.imports)
    (hs : ∀ x ∈ xs, x.metrics.selfImports = t.selfImports) (name : String) :
    AddsUp (xs.map FuncReport.csvRow) (t.csvRow name) := by
  obtain ⟨hcount, hcyc, hmaint, hlines, himp, hself⟩ := t.number?_csvRow name
  refine ⟨?_, ?_, ?_⟩
  · rw [hcount, h.functions, List.length_map]
  · simp only [List.mem_cons, List.not_mem_nil, or_false]
    rintro c (rfl | rfl | rfl)
    · refine ⟨xs.map (·.metrics.cyclomatic), ?_, h.cyclomatic ▸ hcyc⟩
      simp [FuncReport.number?_csvRow]
    · refine ⟨xs.map (·.metrics.maintainability), ?_, h.maintainability ▸ hmaint⟩
      simp [FuncReport.number?_csvRow]
    · refine ⟨xs.map (·.metrics.lines), ?_, h.lines ▸ hlines⟩
      simp [FuncReport.number?_csvRow]
  · simp only [List.mem_cons, List.not_mem_nil, or_false, List.forall_mem_map]
    rintro c (rfl | rfl)
    · refine ⟨t.imports, himp, fun x hx => ?_⟩
      rw [x.number?_csvRow.2.2.2.1, hi x hx]
    · refine ⟨t.selfImports, hself, fun x hx => ?_⟩
      rw [x.number?_csvRow.2.2.2.2, hs x hx]

/-! Measures of a function -/

theorem FuncReport.Measures.unique {imports selfImports : Int} {f : Func} {x y : FuncReport}
    (hx : x.Measures imports selfImports f) (hy : y.Measures imports selfImports f) : x = y := by
  have hn : x.name = y.name := hx.name.trans hy.name.symm
  have hp : x.pos = y.pos := hx.pos.trans hy.pos.symm
  have hm : x.metrics = y.metrics := Except.ok.inj (hx.metrics.symm.trans hy.metrics)
  cases x
  cases y
  simp_all

theorem FuncReport.Measures.imports_eq {imports selfImports : Int} {f : Func} {x : FuncReport}
    (h : x.Measures imports selfImports f) :
    x.metrics.imports = imports ∧ x.metrics.selfImports = selfImports := by
  have hm := h.metrics
  simp only [Func.measure, Except.bind_eq_ok, Except.pure_eq_ok] at hm
  obtain ⟨_, _, _, _, _, _, _, _, hm⟩ := hm
  rw [← hm]
  exact ⟨rfl, rfl⟩

namespace WholeReporter

/-- One row for each flagged function. -/
def eachRow (w : WholeReporter) : WholeReporter :=
  { w with style := .csv, totalsOnly := false }

/-- One row for a package. -/
def totalRow (w : WholeReporter) : WholeReporter :=
  { w with totalsOnly := true }

/-- Reports with the same thresholds flag the same functions. -/
theorem Covers.flagged_eq {w w' : WholeReporter} {p : Package} {report report' : PackageReport}
    (h : w.Covers p report) (h' : w'.Covers p report') (hd : w'.depth = w.depth)
    (hf : w'.flags = w.flags) : report'.flagged = report.flagged := by
  have hr : report'.results = report.results := by
    have hu : Relator.RightUnique fun (f : Func) (x : FuncReport) =>
        x.Measures p.imports.length (p.selfImports w.depth) f :=
      fun _ _ _ hx hy => hx.unique hy
    exact List.right_unique_forall₂' hu (hd ▸ h'.results) h.results
  rw [h'.flagged, h.flagged, hr, hf]

/-- Every function carries the imports of its package. -/
theorem Covers.imports_of_mem {w : WholeReporter} {p : Package} {report : PackageReport}
    (h : w.Covers p report) {x : FuncReport} (hx : x ∈ report.results) :
    x.metrics.imports = p.imports.length ∧ x.metrics.selfImports = p.selfImports w.depth := by
  have hr := h.results.flip.imp fun x f hm => And.intro hm.imports_eq hm
  exact ((List.forall₂_and_left _ _).1 hr).1 x hx

/-- In the table style a row is said about a function. -/
theorem packageText_eachRow (w : WholeReporter) (report : PackageReport) :
    w.eachRow.packageText report = written (report.flagged.map FuncReport.csvRow) := by
  have hs : w.eachRow.said = fun x => [x.csvRow] := rfl
  rw [packageText, hs, List.map_eq_flatMap]
  rfl

/-- If all functions of a package can be measured, the row for the package adds up the rows for its
flagged functions. -/
theorem modes_add_up (w : WholeReporter) (p : Package) :
    (∃ f ∈ p.functions, ∃ why, f.measure p.imports.length (p.selfImports w.depth) = .error why) ∨
      ∃ report rows total, (w.eachRow.reporter.package p).result = .ok report ∧
        rows = report.flagged.map FuncReport.csvRow ∧
        (w.eachRow.reporter.package p).out = written rows ∧
        (w.totalRow.reporter.package p).out = written [total] ∧ AddsUp rows total := by
  obtain ⟨f, hf, why, hw, -⟩ | ⟨report, hc, hg⟩ := w.eachRow.package_gives p
  · exact .inl ⟨f, hf, why, hw⟩
  obtain ⟨f, hf, why, hw, -⟩ | ⟨report', hc', hg'⟩ := w.totalRow.package_gives p
  · exact .inl ⟨f, hf, why, hw⟩
  have hflag : report'.flagged = report.flagged := hc.flagged_eq hc' rfl rfl
  have hsums := hc'.sums
  rw [hflag] at hsums
  have himp : ∀ x ∈ report.flagged, x.metrics.imports = report'.totals.imports ∧
      x.metrics.selfImports = report'.totals.selfImports := by
    intro x hx
    rw [hc.flagged] at hx
    rw [hc'.imports, hc'.selfImports]
    exact hc.imports_of_mem (List.mem_of_mem_filter hx)
  refine .inr ⟨report, _, _, hg.result, rfl, ?_, hg'.out,
    hsums.addsUp (fun x hx => (himp x hx).1) (fun x hx => (himp x hx).2) report'.name⟩
  rw [hg.out, packageText_eachRow]

end WholeReporter
end GoMetrics
