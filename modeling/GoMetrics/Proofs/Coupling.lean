import Mathlib.Data.Finset.Card
import Mathlib.Data.String.Basic
import GoMetrics.Proofs.Loading.Grouping
import GoMetrics.Proofs.Path
import GoMetrics.Proofs.Report.Partial

/-!
Counts of imports. What counts as an import of a package is a set of paths: neither the order of
files nor a path that is imported twice makes a difference. Sharing a root is decided by the first
segments of two paths; the deeper the root, the fewer paths share it, and below the first segment
all paths do.
-/

namespace GoMetrics

namespace Coupling

/-! Sharing a root -/

/-- Whether two paths agree at an index; there is no answer when one of them ends before it. -/
def agreesAt? (a b : List String) (i : Nat) : Option Bool := do
  return (← a[i]?) == (← b[i]?)

/-- Whether two paths share a root, found out one segment after the other. -/
def comparesRoot? (a b : List String) (depth : Int) : Option Bool :=
  if a.length < depth || b.length < depth then some false
  else (List.range (depth - 1).toNat).allM (agreesAt? a b)

theorem agreesAt?_eq {a b : List String} {i : Nat} (ha : i < a.length) (hb : i < b.length) :
    agreesAt? a b i = some (a[i]? == b[i]?) := by
  rw [agreesAt?, List.getElem?_eq_getElem ha, List.getElem?_eq_getElem hb]
  rfl

theorem allM_eq_some {α : Type} {f : α → Option Bool} {g : α → Bool} {l : List α}
    (h : ∀ a ∈ l, f a = some (g a)) : l.allM f = some (l.all g) := by
  induction l with
  | nil => rfl
  | cons a l ih =>
      have hl := ih fun b hb => h b (List.mem_cons_of_mem a hb)
      rw [List.allM_cons, h a List.mem_cons_self, hl, List.all_cons]
      cases g a <;> rfl

theorem all_range_eq (a b : List String) (n : Nat) :
    ((List.range n).all fun i => a[i]? == b[i]?) = (a.take n == b.take n) := by
  rw [Bool.eq_iff_iff, List.all_eq_true, beq_iff_eq, List.ext_getElem?_iff]
  refine forall_congr' fun i => ?_
  by_cases hi : i < n
  · simp [hi]
  · simp [hi]

theorem sharesRoot_iff {a b : List String} {depth : Int} :
    sharesRoot a b depth = true ↔
      depth ≤ a.length ∧ depth ≤ b.length ∧
        a.take (depth - 1).toNat = b.take (depth - 1).toNat := by
  simp [sharesRoot, and_assoc]

/-- No segment is asked for that is not there. -/
theorem comparesRoot?_eq (a b : List String) (depth : Int) :
    comparesRoot? a b depth = some (sharesRoot a b depth) := by
  unfold comparesRoot?
  split
  · next h =>
      have hs : ¬sharesRoot a b depth = true := by
        rw [sharesRoot_iff]
        simp only [Bool.or_eq_true, decide_eq_true_eq] at h
        omega
      rw [Bool.eq_false_iff.2 hs]
  · next h =>
      simp only [Bool.or_eq_true, decide_eq_true_eq, not_or, not_lt] at h
      have hall : (List.range (depth - 1).toNat).allM (agreesAt? a b) =
          some ((List.range (depth - 1).toNat).all fun i => a[i]? == b[i]?) := by
        refine allM_eq_some fun i hi => ?_
        rw [List.mem_range] at hi
        exact agreesAt?_eq (by omega) (by omega)
      rw [hall, all_range_eq]
      simp [sharesRoot, h]

theorem sharesRoot_symm {a b : List String} {depth : Int} (h : sharesRoot a b depth = true) :
    sharesRoot b a depth = true := by
  obtain ⟨ha, hb, hab⟩ := sharesRoot_iff.1 h
  exact sharesRoot_iff.2 ⟨hb, ha, hab.symm⟩

theorem sharesRoot_trans {a b c : List String} {depth : Int} (h : sharesRoot a b depth = true)
    (h' : sharesRoot b c depth = true) : sharesRoot a c depth = true := by
  obtain ⟨ha, -, hab⟩ := sharesRoot_iff.1 h
  obtain ⟨-, hc, hbc⟩ := sharesRoot_iff.1 h'
  exact sharesRoot_iff.2 ⟨ha, hc, hab.trans hbc⟩

theorem sharesRoot_self {a : List String} {depth : Int} :
    sharesRoot a a depth = true ↔ depth ≤ a.length := by
  simp [sharesRoot_iff]

/-- Paths that share a root share the roots above it. -/
theorem sharesRoot_above {a b : List String} {depth deeper : Int} (hd : depth ≤ deeper)
    (h : sharesRoot a b deeper = true) : sharesRoot a b depth = true := by
  obtain ⟨ha, hb, hab⟩ := sharesRoot_iff.1 h
  refine sharesRoot_iff.2 ⟨hd.trans ha, hd.trans hb, ?_⟩
  have hn : (depth - 1).toNat ≤ (deeper - 1).toNat := by omega
  rw [← Nat.min_eq_left hn, ← List.take_take, hab, List.take_take]

theorem segments_ne_nil (path : String) : segments path ≠ [] := by
  simp [segments, Text.split, Text.splitChars_ne_nil]

/-- All paths share what is above the first segment. -/
theorem sharesRoot_top {a b : List String} (ha : a ≠ []) (hb : b ≠ []) {depth : Int}
    (hd : depth ≤ 1) : sharesRoot a b depth = true := by
  have hla := List.length_pos_iff.2 ha
  have hlb := List.length_pos_iff.2 hb
  refine sharesRoot_iff.2 ⟨by omega, by omega, ?_⟩
  rw [show (depth - 1).toNat = 0 by omega, List.take_zero, List.take_zero]

/-! Self imports at different depths -/

variable {path : String} {imports : List String} {depth deeper : Int}

theorem selfImports_of_ne (h : depth ≠ disabled) :
    selfImports path imports depth =
      imports.countP fun i => sharesRoot (segments path) (segments i) depth :=
  if_neg h

theorem selfImports_antitone (hd : depth ≤ deeper) (h : depth ≠ disabled)
    (h' : deeper ≠ disabled) :
    selfImports path imports deeper ≤ selfImports path imports depth := by
  rw [selfImports_of_ne h, selfImports_of_ne h']
  exact List.countP_mono_left fun _ _ hs => sharesRoot_above hd hs

theorem selfImports_le_length : selfImports path imports depth ≤ imports.length := by
  unfold selfImports
  split
  · exact Nat.zero_le _
  · exact List.countP_le_length

theorem selfImports_top (hd : depth ≤ 1) (h : depth ≠ disabled) :
    selfImports path imports depth = imports.length := by
  rw [selfImports_of_ne h, List.countP_eq_length]
  exact fun i _ => sharesRoot_top (segments_ne_nil path) (segments_ne_nil i) hd

end Coupling

namespace Package

/-! The set of imports -/

/-- The import paths over all files. -/
def importSet (p : Package) : Finset String :=
  (p.files.flatMap GoFile.imports).toFinset

/-- The imports that share a root with the package. -/
def selfImportSet (p : Package) (depth : Int) : Finset String :=
  p.importSet.filter fun i =>
    Coupling.sharesRoot (Coupling.segments p.path) (Coupling.segments i) depth = true

theorem perm_imports (p : Package) :
    p.imports.Perm (p.files.flatMap GoFile.imports).eraseDups :=
  List.mergeSort_perm _ _

theorem nodup_imports (p : Package) : p.imports.Nodup :=
  p.perm_imports.nodup_iff.2 (nodup_eraseDups _)

theorem toFinset_imports (p : Package) : p.imports.toFinset = p.importSet := by
  ext i
  rw [List.mem_toFinset, p.perm_imports.mem_iff, List.mem_eraseDups, importSet, List.mem_toFinset]

theorem pairwise_imports (p : Package) : p.imports.Pairwise (· ≤ ·) := by
  have hs : p.imports.Pairwise fun a b => decide (a ≤ b) = true :=
    List.pairwise_mergeSort
      (fun a b c hab hbc => by
        simp only [decide_eq_true_eq] at hab hbc ⊢
        exact le_trans hab hbc)
      (fun a b => by
        simp only [Bool.or_eq_true, decide_eq_true_eq]
        exact le_total a b) _
  exact hs.imp of_decide_eq_true

theorem length_imports (p : Package) : p.imports.length = p.importSet.card := by
  rw [← toFinset_imports, List.toFinset_card_of_nodup p.nodup_imports]

theorem selfImports_eq_card (p : Package) {depth : Int} (h : depth ≠ Coupling.disabled) :
    Coupling.selfImports p.path p.imports depth = (p.selfImportSet depth).card := by
  rw [Coupling.selfImports_of_ne h, List.countP_eq_length_filter, selfImportSet,
    ← toFinset_imports, ← List.toFinset_filter,
    List.toFinset_card_of_nodup (p.nodup_imports.filter _)]

/-- Packages that import the same paths list them alike. -/
theorem imports_eq_of_importSet {p q : Package} (h : q.importSet = p.importSet) :
    q.imports = p.imports := by
  have hperm : q.imports.Perm p.imports :=
    (List.perm_ext_iff_of_nodup q.nodup_imports p.nodup_imports).2 fun i => by
      rw [← List.mem_toFinset, ← List.mem_toFinset, toFinset_imports, toFinset_imports, h]
  exact hperm.eq_of_pairwise (fun _ _ _ _ => le_antisymm) q.pairwise_imports p.pairwise_imports

/-- Without a depth to look at there are no self imports. -/
theorem selfImports_disabled (p : Package) : p.selfImports Coupling.disabled = 0 := by
  simp [selfImports, Coupling.selfImports]

end Package

/-! Reports -/

/-- The counts of imports that a report carries, in its totals and with each function. -/
structure PackageReport.Carries (report : PackageReport) (imports selfImports : Int) : Prop where
  totals : report.totals.imports = imports ∧ report.totals.selfImports = selfImports
  results : ∀ x ∈ report.results,
    x.metrics.imports = imports ∧ x.metrics.selfImports = selfImports

namespace Reporter

variable {r : Reporter} {imports selfImports : Int}

/-- A step keeps the counts and passes them on to the function. -/
theorem function_carries {report report' : PackageReport} {f : Func}
    (hc : report.Carries imports selfImports)
    (h : (r.function report f).result = .ok report') : report'.Carries imports selfImports := by
  obtain ⟨x, hx, ht⟩ := function_takes h
  have htotals := And.intro (ht.imports.1.trans hc.totals.1) (ht.imports.2.trans hc.totals.2)
  refine ⟨htotals, fun y hy => ?_⟩
  rw [ht.results, List.mem_append, List.mem_singleton] at hy
  obtain hy | rfl := hy
  · exact hc.results y hy
  · rw [← hc.totals.1, ← hc.totals.2]
    exact hx.imports_eq

theorem takenIn_carries {report : PackageReport} (hc : report.Carries imports selfImports)
    (fs : List Func) : (r.takenIn report fs).Carries imports selfImports := by
  induction fs generalizing report with
  | nil => exact hc
  | cons f fs ih =>
      rw [takenIn]
      cases h : (r.function report f).result with
      | ok report' => exact ih (function_carries hc h)
      | error e => exact hc

theorem soFar_carries {depth : Int} (h : r.thresholds.selfImportDepth = .whole depth)
    (p : Package) : (r.soFar p).Carries p.imports.length (p.selfImports depth) := by
  rw [soFar, h]
  exact takenIn_carries ⟨⟨rfl, rfl⟩, fun _ hx => absurd hx List.not_mem_nil⟩ p.functions

end Reporter

/-! All of it -/

/-- How the imports of a package are counted when self imports are looked for at a depth. -/
structure Package.Counted (p : Package) (r : Reporter) (depth : Int) : Prop where
  imports : p.imports.length = p.importSet.card
  selfImports : depth ≠ Coupling.disabled → p.selfImports depth = (p.selfImportSet depth).card
  disabled : depth = Coupling.disabled → p.selfImports depth = 0
  /-- A package with the same path and the same set of imports is counted alike. -/
  alike : ∀ q : Package, q.path = p.path → q.importSet = p.importSet →
    q.imports = p.imports ∧ q.selfImports depth = p.selfImports depth
  /-- What a report carries, as far as it gets. -/
  soFar : (r.soFar p).Carries p.imports.length (p.selfImports depth)
  finished : ∀ report, (r.package p).result = .ok report →
    report.Carries p.imports.length (p.selfImports depth)
  antitone : ∀ deeper, depth ≤ deeper → depth ≠ Coupling.disabled → deeper ≠ Coupling.disabled →
    p.selfImports deeper ≤ p.selfImports depth ∧ p.selfImports depth ≤ p.imports.length
  top : depth ≤ 1 → depth ≠ Coupling.disabled → p.selfImports depth = p.imports.length

/-- Sharing a root of some depth, as a relation between paths. -/
structure Coupling.Relates (depth : Int) : Prop where
  answers : ∀ a b, comparesRoot? a b depth = some (sharesRoot a b depth)
  symm : ∀ a b, sharesRoot a b depth = true → sharesRoot b a depth = true
  trans : ∀ a b c, sharesRoot a b depth = true → sharesRoot b c depth = true →
    sharesRoot a c depth = true
  refl_iff : ∀ a, sharesRoot a a depth = true ↔ depth ≤ a.length

theorem imports_counted (p : Package) {r : Reporter} {depth : Int}
    (h : r.thresholds.selfImportDepth = .whole depth) :
    p.Counted r depth ∧ Coupling.Relates depth := by
  constructor
  · refine ⟨p.length_imports, fun hd => ?_, fun hd => hd ▸ p.selfImports_disabled,
      fun q hpath hset => ?_, Reporter.soFar_carries h p, fun report hr => ?_,
      fun deeper hle hd hd' => ⟨?_, ?_⟩, fun hle hd => ?_⟩
    · exact congrArg Nat.cast (p.selfImports_eq_card hd)
    · have hi := Package.imports_eq_of_importSet hset
      exact ⟨hi, by rw [Package.selfImports, Package.selfImports, hpath, hi]⟩
    · exact Reporter.soFar_of_result hr ▸ Reporter.soFar_carries h p
    · exact Int.ofNat_le.2 (Coupling.selfImports_antitone hle hd hd')
    · exact Int.ofNat_le.2 Coupling.selfImports_le_length
    · exact congrArg Nat.cast (Coupling.selfImports_top hle hd)
  · exact ⟨fun a b => Coupling.comparesRoot?_eq a b depth, fun _ _ => Coupling.sharesRoot_symm,
      fun _ _ _ => Coupling.sharesRoot_trans, fun _ => Coupling.sharesRoot_self⟩

/-- A package of two files that both import one path. -/
def appPackage : Package where
  path := "github.com/acme/app/api"
  name := "api"
  files := [
    ⟨"a.go", "api", ["fmt", "github.com/acme/app/db"], []⟩,
    ⟨"b.go", "api", ["github.com/acme/app/db", "github.com/other/lib", "golang.org/x/net"], []⟩]

/-- A reporter for which paths from one host share a root. -/
def hostReporter : Reporter :=
  ⟨.ofInts 10 20 2, .text, false⟩

theorem imports_counted_appPackage :
    appPackage.imports.length = 4 ∧ appPackage.selfImports 2 = 2 ∧
      (hostReporter.soFar appPackage).totals.selfImports = 2 ∧ appPackage.selfImports 5 ≤ 2 := by
  obtain ⟨hcount, -⟩ :=
    imports_counted appPackage (rfl : hostReporter.thresholds.selfImportDepth = .whole 2)
  have himports : appPackage.imports.length = 4 := hcount.imports.trans (by decide)
  have hself : appPackage.selfImports 2 = 2 :=
    (hcount.selfImports (by decide)).trans (by decide)
  refine ⟨himports, hself, hcount.soFar.totals.2.trans hself, ?_⟩
  exact hself ▸ (hcount.antitone 5 (by decide) (by decide) (by decide)).1

end GoMetrics
