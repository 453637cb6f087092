import Mathlib.Algebra.BigOperators.Group.List.Basic
import GoMetrics.Proofs.Report.Partial

/-!
Whole tables read back. A record ends at a newline outside quotes, and its fields are read like
those of a row. A row has no line break of its own, and a field gets quotes for a comma or a double
quote alone. So a newline in a field without either ends the record there, and a table is read back
as its rows exactly if no field has such a newline.
-/

namespace GoMetrics

namespace Csv

/-! The reader -/

/-- The place behind a character. A newline outside quotes begins a new record. -/
def Place.next (p : Place) (c : Char) : Place :=
  if p = .quoted then if c = '"' then .closing else .quoted
  else if c = ',' ∨ c = '\n' then .opening
  else if c = '"' ∧ p ≠ .plain then .quoted
  else .plain

/-- The texts of the records from a place on. What follows the last newline is one more if it is not
empty. -/
def cut (p : Place) : List Char → List (List Char)
  | [] => []
  | c :: cs =>
    if c = '\n' ∧ p ≠ .quoted then [] :: cut .opening cs
    else match cut (p.next c) cs with
      | [] => [[c]]
      | record :: more => (c :: record) :: more

/-- The records of a text. -/
def records (text : String) : List (List String) :=
  (cut .opening text.toList).map fun record => read (String.ofList record)

/-! Places along a text -/

/-- The place behind a text. -/
def Place.after (p : Place) (cs : List Char) : Place :=
  cs.foldl Place.next p

/-- How many newlines of a text end a record. -/
def ends (p : Place) : List Char → Nat
  | [] => 0
  | c :: cs => (if c = '\n' ∧ p ≠ .quoted then 1 else 0) + ends (p.next c) cs

variable {p : Place} {cs ds rest : List Char} {c : Char}

theorem after_append : p.after (cs ++ ds) = (p.after cs).after ds :=
  List.foldl_append

theorem ends_append : ends p (cs ++ ds) = ends p cs + ends (p.after cs) ds := by
  induction cs generalizing p with
  | nil => exact (Nat.zero_add _).symm
  | cons c cs ih =>
      rw [List.cons_append, ends, ih, ends, Nat.add_assoc]
      rfl

theorem next_newline (h : p ≠ .quoted) : p.next '\n' = .opening := by
  simp [Place.next, h]

theorem cut_ne_nil (h : cs ≠ []) : cut p cs ≠ [] := by
  cases cs with
  | nil => exact absurd rfl h
  | cons c cs =>
      rw [cut]
      split
      · exact List.cons_ne_nil _ _
      · split <;> exact List.cons_ne_nil _ _

/-- A newline outside quotes sets what is before it apart from what is behind it. -/
theorem cut_append (h : p.after cs ≠ .quoted) :
    cut p (cs ++ '\n' :: rest) = cut p (cs ++ ['\n']) ++ cut .opening rest := by
  induction cs generalizing p with
  | nil =>
      have hp : p ≠ .quoted := h
      simp [cut, hp]
  | cons c cs ih =>
      rw [List.cons_append, List.cons_append, cut, cut]
      split
      · next hc =>
          obtain ⟨rfl, hp⟩ := hc
          have hnext : Place.after .opening cs ≠ .quoted := by rwa [← next_newline hp]
          rw [ih hnext, List.cons_append]
      · rw [ih h]
        obtain ⟨record, more, hcut⟩ := List.exists_cons_of_ne_nil
          (cut_ne_nil (p := p.next c) (List.concat_ne_nil '\n' cs))
        rw [hcut]
        rfl

/-- A text without such newlines is one record. -/
theorem cut_of_ends (h : p.after cs ≠ .quoted) (hends : ends p cs = 0) :
    cut p (cs ++ ['\n']) = [cs] := by
  induction cs generalizing p with
  | nil =>
      have hp : p ≠ .quoted := h
      simp [cut, hp]
  | cons c cs ih =>
      rw [ends, Nat.add_eq_zero_iff] at hends
      obtain ⟨hnone, hends⟩ := hends
      have hc : ¬(c = '\n' ∧ p ≠ .quoted) := fun hc => by
        rw [if_pos hc] at hnone
        cases hnone
      rw [List.cons_append, cut, if_neg hc, ih h hends]

/-- A text has one record more than newlines that end one. -/
theorem length_cut (h : p.after cs ≠ .quoted) :
    (cut p (cs ++ ['\n'])).length = ends p cs + 1 := by
  induction cs generalizing p with
  | nil =>
      have hp : p ≠ .quoted := h
      simp [cut, ends, hp]
  | cons c cs ih =>
      rw [List.cons_append, cut, ends]
      split
      · next hc =>
          obtain ⟨rfl, hp⟩ := hc
          have hlength := ih h
          rw [next_newline hp] at hlength ⊢
          rw [List.length_cons, hlength, Nat.add_comm 1, Nat.add_right_comm]
      · obtain ⟨record, more, hcut⟩ := List.exists_cons_of_ne_nil
          (cut_ne_nil (p := p.next c) (List.concat_ne_nil '\n' cs))
        have hlength := ih h
        rw [hcut] at hlength ⊢
        rw [Nat.zero_add, ← hlength]
        rfl

/-! Fields -/

/-- How many newlines of a field stand in a row without quotes around them. -/
def loose (cs : List Char) : Nat :=
  if needsQuotes cs then 0 else cs.count '\n'

theorem loose_eq_zero_iff :
    loose cs = 0 ↔ ('\n' ∈ cs → ',' ∈ cs ∨ '"' ∈ cs) := by
  have hq : needsQuotes cs = true ↔ ',' ∈ cs ∨ '"' ∈ cs := by
    simp [needsQuotes, and_or_left, exists_or]
  rw [← hq, loose]
  split
  · next h => exact ⟨fun _ _ => h, fun _ => rfl⟩
  · next h => rw [List.count_eq_zero]; exact ⟨fun hn hm => absurd hm hn, fun hm hn => h (hm hn)⟩

/-- Behind a field without a comma or a double quote the reader is not inside quotes, and met each
of its newlines. -/
theorem past_plain (hq : needsQuotes cs = false) (hp : p ≠ .quoted) :
    p.after cs ≠ .quoted ∧ ends p cs = cs.count '\n' := by
  induction cs generalizing p with
  | nil => exact ⟨hp, rfl⟩
  | cons c cs ih =>
      obtain ⟨hcomma, hquote, hcs⟩ := needsQuotes_cons hq
      have hnext : p.next c ≠ .quoted := by
        rw [Place.next, if_neg hp]
        split
        · decide
        · simp [hquote]
      obtain ⟨hafter, hends⟩ := ih hcs hnext
      refine ⟨hafter, ?_⟩
      rw [ends, hends, List.count_cons, Nat.add_comm]
      simp [hp]

/-- Inside quotes every double quote is followed by its second. -/
theorem past_doubled :
    Place.quoted.after (doubled cs) = .quoted ∧ ends .quoted (doubled cs) = 0 := by
  induction cs with
  | nil => exact ⟨rfl, rfl⟩
  | cons c cs ih =>
      by_cases hc : c = '"'
      · subst c
        simpa [doubled, ends, Place.after, Place.next] using ih
      · have hnext : Place.quoted.next c = .quoted := by simp [Place.next, hc]
        rw [doubled, if_neg hc, ends, hnext]
        simpa [Place.after, hnext] using ih

theorem past_field :
    Place.opening.after (field cs) ≠ .quoted ∧ ends .opening (field cs) = loose cs := by
  rw [field, loose]
  cases hq : needsQuotes cs with
  | false => exact past_plain hq (by decide)
  | true =>
      obtain ⟨hafter, hends⟩ := @past_doubled cs
      have hopen : Place.opening.after ('"' :: doubled cs ++ ['"']) =
          (Place.quoted.after (doubled cs)).after ['"'] := by
        rw [← after_append]
        rfl
      have hcount : ends .opening ('"' :: doubled cs ++ ['"']) =
          ends .quoted (doubled cs ++ ['"']) := by
        rw [List.cons_append, ends]
        exact Nat.zero_add _
      simp only [if_true]
      rw [hopen, hcount, ends_append, hends, hafter]
      exact ⟨by decide, rfl⟩

theorem next_comma (h : p ≠ .quoted) : p.next ',' = .opening := by
  simp [Place.next, h]

/-- Behind a row the reader is not inside quotes. -/
theorem past_joined (fields : List (List Char)) :
    Place.opening.after (joined (fields.map field)) ≠ .quoted ∧
      ends .opening (joined (fields.map field)) = (fields.map loose).sum := by
  induction fields with
  | nil => exact ⟨by decide, rfl⟩
  | cons f fields ih =>
      obtain ⟨hafter, hends⟩ := @past_field f
      cases fields with
      | nil => exact ⟨hafter, by simpa [joined] using hends⟩
      | cons g fields =>
          obtain ⟨hafter', hends'⟩ := ih
          change Place.opening.after (field f ++ ',' :: joined ((g :: fields).map field)) ≠ _ ∧
            ends .opening (field f ++ ',' :: joined ((g :: fields).map field)) = _
          have hcomma : (Place.opening.after (field f)).after
              (',' :: joined ((g :: fields).map field)) =
              Place.opening.after (joined ((g :: fields).map field)) := by
            rw [Place.after, List.foldl_cons, next_comma hafter]
            rfl
          rw [after_append, hcomma, ends_append, ends, next_comma hafter, hends, hends']
          exact ⟨hafter', by simp⟩

/-- A text that has no newline, unless it gets quotes for something else in it. -/
def IsFramed (s : String) : Prop :=
  '\n' ∈ s.toList → ',' ∈ s.toList ∨ '"' ∈ s.toList

instance : DecidablePred IsFramed := fun _ =>
  inferInstanceAs (Decidable (_ → _))

theorem loose_eq_zero {s : String} (h : '\n' ∉ s.toList) : loose s.toList = 0 :=
  loose_eq_zero_iff.2 fun hm => absurd hm h

/-! Tables -/

/-- How many newlines stand in a row without quotes around them. -/
def looseIn (fields : List String) : Nat :=
  (fields.map fun f => loose f.toList).sum

theorem past_row (fields : List String) :
    Place.opening.after (row fields).toList ≠ .quoted ∧
      ends .opening (row fields).toList = looseIn fields := by
  have hrow : (row fields).toList = joined ((fields.map String.toList).map field) := by
    rw [row, String.toList_ofList, List.map_map]
    rfl
  have hloose : looseIn fields = ((fields.map String.toList).map loose).sum := by
    rw [List.map_map]
    rfl
  rw [hrow, hloose]
  exact past_joined _

/-- Rows do not run into each other. -/
theorem cut_written (rows : List (List String)) :
    cut .opening (written (rows.map row)).toList =
      rows.flatMap fun fields => cut .opening ((row fields).toList ++ ['\n']) := by
  induction rows with
  | nil => rfl
  | cons fields rows ih =>
      have hrow : (written ((fields :: rows).map row)).toList =
          (row fields).toList ++ '\n' :: (written (rows.map row)).toList := by
        simp [written, String.join_cons]
      rw [hrow, cut_append (past_row fields).1, ih, List.flatMap_cons]

/-- Besides its rows, a table has a record for each newline without quotes around it. -/
theorem length_records (rows : List (List String)) :
    (records (written (rows.map row))).length = rows.length + (rows.map looseIn).sum := by
  have hlength : ∀ fields : List String,
      (cut .opening ((row fields).toList ++ ['\n'])).length = 1 + looseIn fields := by
    intro fields
    obtain ⟨hafter, hends⟩ := past_row fields
    rw [length_cut hafter, hends, Nat.add_comm]
  rw [records, List.length_map, cut_written, List.length_flatMap]
  simp only [hlength, List.sum_map_add]
  simp

/-- A table is read back as its rows exactly if no newline in it is without quotes. -/
theorem records_eq_iff {rows : List (List String)} (h : ∀ fields ∈ rows, fields ≠ []) :
    records (written (rows.map row)) = rows ↔ ∀ fields ∈ rows, looseIn fields = 0 := by
  constructor
  · intro heq
    have hlength := length_records rows
    rw [heq] at hlength
    have hsum : (rows.map looseIn).sum = 0 := by omega
    simpa using List.sum_eq_zero_iff.1 hsum
  · intro hloose
    have hcut : ∀ fields ∈ rows, cut .opening ((row fields).toList ++ ['\n']) =
        [(row fields).toList] := by
      intro fields hf
      obtain ⟨hafter, hends⟩ := past_row fields
      exact cut_of_ends hafter (hends.trans (hloose fields hf))
    have hflat : (rows.flatMap fun fields => cut .opening ((row fields).toList ++ ['\n'])) =
        rows.map fun fields => (row fields).toList := by
      rw [List.map_eq_flatMap]
      exact List.flatMap_congr hcut
    rw [records, cut_written, hflat, List.map_map]
    refine (List.map_congr_left fun fields hf => ?_).trans (List.map_id rows)
    rw [Function.comp_apply, String.ofList_toList, read_row (h fields hf)]
    rfl

end Csv

/-! Numbers hold no newlines -/

theorem Decimal.newline_not_mem_toDigits (n : Nat) : '\n' ∉ Nat.toDigits 10 n := by
  intro h
  exact absurd (Nat.isDigit_of_mem_toDigits (by decide) (by decide) h) (by decide)

theorem Decimal.newline_not_mem_nat (n : Nat) : '\n' ∉ (toString n).toList := by
  have hn : (toString n).toList = Nat.toDigits 10 n := by
    simp [Nat.repr_eq_ofList_toDigits]
  rw [hn]
  exact newline_not_mem_toDigits n

theorem Decimal.newline_not_mem_int (i : Int) : '\n' ∉ (toString i).toList := by
  rw [Int.toString_eq_repr, Int.repr_eq_if]
  split
  · exact newline_not_mem_nat i.toNat
  · simp [newline_not_mem_toDigits]

theorem Decimal.newline_not_mem_fixed (places : Nat) (x : Float) :
    '\n' ∉ (fixed places x).toList := by
  rw [fixed]
  cases parts x with
  | nan => simp [Parts.fixed]
  | infinite negative => cases negative <;> simp [Parts.fixed]
  | finite negative mantissa exponent =>
      have hpadded : ∀ n width, '\n' ∉ (padded n width).toList := by
        intro n width
        simp [padded, newline_not_mem_toDigits]
      simp only [Parts.fixed, String.toList_append, List.mem_append, not_or]
      refine ⟨⟨⟨?_, newline_not_mem_nat _⟩, by decide⟩, hpadded _ _⟩
      cases negative <;> decide

/-! Rows of functions -/

open Csv

/-- All other fields of the row of a function are numbers. -/
theorem FuncReport.looseIn_csvFields (x : FuncReport) :
    looseIn x.csvFields = loose x.pos.filename.toList + loose x.name.toList := by
  have hint : ∀ i : Int, loose (toString i).toList = 0 := fun i =>
    loose_eq_zero (Decimal.newline_not_mem_int i)
  have hmeasure : ∀ y : Float, loose (measure y).toList = 0 := fun y =>
    loose_eq_zero (Decimal.newline_not_mem_fixed 3 y)
  simp only [looseIn, csvFields, List.map_cons, List.map_nil, List.sum_cons, List.sum_nil, hint,
    hmeasure, Nat.add_zero, Nat.zero_add]

namespace Reporter

theorem writesRows_ofOptions {o : Options} (hstats : o.csvStats = true)
    (htotals : o.csvTotals = false) : (ofOptions o none).WritesRows where
  style := by simp [ofOptions, hstats]
  each := htotals

/-- What a run in the table style writes is read back as the rows of what it flagged, exactly if no
file or function name holds a newline that stands in its row without quotes. Each such newline makes
one record more. -/
theorem run_reads_back {o : Options} (hstats : o.csvStats = true) (htotals : o.csvTotals = false)
    (failOnIssues : Bool) (ps : List Package) :
    (∀ report, ((ofOptions o none).run false ps).result = .ok report →
      (ofOptions o none).flaggedSoFar ps = report.flagged) ∧
    (∀ x ∈ (ofOptions o none).flaggedSoFar ps, x.csvFields.length = 11) ∧
    (records ((ofOptions o none).run failOnIssues ps).out).length =
      ((ofOptions o none).flaggedSoFar ps).length +
        (((ofOptions o none).flaggedSoFar ps).map fun x =>
          loose x.pos.filename.toList + loose x.name.toList).sum ∧
    (records ((ofOptions o none).run failOnIssues ps).out =
        ((ofOptions o none).flaggedSoFar ps).map FuncReport.csvFields ↔
      ∀ x ∈ (ofOptions o none).flaggedSoFar ps, IsFramed x.pos.filename ∧ IsFramed x.name) := by
  have hr := writesRows_ofOptions hstats htotals
  have hout : ((ofOptions o none).run failOnIssues ps).out =
      written ((((ofOptions o none).flaggedSoFar ps).map FuncReport.csvFields).map row) := by
    rw [out_run_rows hr, List.map_map]
    rfl
  refine ⟨fun report h => flaggedSoFar_of_result h, fun _ _ => rfl, ?_, ?_⟩
  · rw [hout, length_records, List.length_map, List.map_map]
    simp only [Function.comp_def, FuncReport.looseIn_csvFields]
  · rw [hout, records_eq_iff (by simp [FuncReport.csvFields]), List.forall_mem_map]
    simp only [FuncReport.looseIn_csvFields, Nat.add_eq_zero_iff, loose_eq_zero_iff, IsFramed]

/-- Rows, and a threshold that every function crosses. -/
def everyRow : Options where
  thresholds := .ofInts 0 20 (-1)
  csvStats := true
  csvTotals := false
  failOnIssues := false
  includeTests := true
  strict := false
  verbosity := .normal

/-- The function `f` in a file of a given name. -/
def funcIn (filename : String) : Func :=
  ⟨"f", true, [], .funcType [] [] true, ⟨filename, 1, 1⟩, ⟨filename, 1, 11⟩,
    some (.block [] true true), none⟩

def packageOf (filename : String) : Package :=
  ⟨"m/p", "p", [⟨filename, "p", [], [(funcIn filename).node]⟩]⟩

/-- If the function can be measured at all, it is flagged. -/
theorem flaggedSoFar_packageOf (filename : String) :
    (∃ why, (funcIn filename).measure 0 0 = .error why) ∨
      ∃ x : FuncReport, (ofOptions everyRow none).flaggedSoFar [packageOf filename] = [x] ∧
        x.pos.filename = filename ∧ x.name = "f" := by
  let w : WholeReporter := ⟨0, 20, -1, .csv, false⟩
  have hfunctions : (packageOf filename).functions = [funcIn filename] := rfl
  have himports : (packageOf filename).imports = [] := by simp [Package.imports, packageOf]
  have hself : (packageOf filename).selfImports w.depth = 0 := rfl
  obtain ⟨f, hf, why, hwhy, -⟩ | ⟨report, hc, hg⟩ := w.package_gives (packageOf filename)
  · rw [hfunctions, List.mem_singleton] at hf
    rw [hf, himports, hself] at hwhy
    exact .inl ⟨why, hwhy⟩
  have hresults := hc.results
  rw [hfunctions, himports, hself] at hresults
  generalize hxs : report.results = xs at hresults
  obtain _ | ⟨hx, hnil⟩ := hresults
  obtain _ | _ := hnil
  rename_i x
  have hflags : w.flags x = true := by
    have hm := hx.metrics
    simp only [Func.measure, Except.bind_eq_ok, Except.pure_eq_ok] at hm
    obtain ⟨_, -, _, -, _, -, _, -, hm⟩ := hm
    have hpos : w.cyclomaticOver < ((funcIn filename).node.cyclomatic : Int) := Int.natCast_pos.2
      (Nat.succ_pos _)
    rw [WholeReporter.flags, ← hm, decide_eq_true hpos, Bool.true_or]
  refine .inr ⟨x, ?_, by rw [hx.pos]; rfl, hx.name⟩
  have hw : w.reporter = ofOptions everyRow none := rfl
  rw [hw] at hg
  rw [flaggedSoFar, reportsSoFar, soFar_of_result hg.result, hg.result]
  simp [reportsSoFar, hc.flagged, hxs, hflags]

/-- The newline in the name of the file makes two records out of one row. -/
theorem not_readable_brokenName :
    IsRowOf (FuncReport.csvFields ⟨"f", ⟨"a\nb.go", 1, 1⟩, ⟨1, 1, 0.0, 0.0, 50, 0, 0⟩⟩)
        "a\nb.go,1,1,f,1,50,0.000,0.000,1,0,0" ∧
      records "a\nb.go,1,1,f,1,50,0.000,0.000,1,0,0\n" =
        [["a"], ["b.go", "1", "1", "f", "1", "50", "0.000", "0.000", "1", "0", "0"]] ∧
      ((∃ why, (funcIn "a\nb.go").measure 0 0 = .error why) ∨
        ∃ x, (ofOptions everyRow none).flaggedSoFar [packageOf "a\nb.go"] = [x] ∧
          records ((ofOptions everyRow none).run false [packageOf "a\nb.go"]).out ≠
            [x.csvFields]) := by
  refine ⟨⟨by decide +kernel, by decide +kernel⟩, by decide +kernel, ?_⟩
  obtain hwhy | ⟨x, hflagged, hfile, -⟩ := flaggedSoFar_packageOf "a\nb.go"
  · exact .inl hwhy
  refine .inr ⟨x, hflagged, fun heq => ?_⟩
  rw [out_run_rows (writesRows_ofOptions rfl rfl), hflagged] at heq
  have hfields : ∀ fields ∈ [x.csvFields], fields ≠ [] := by simp [FuncReport.csvFields]
  have hloose := (records_eq_iff hfields).1 heq x.csvFields List.mem_cons_self
  rw [FuncReport.looseIn_csvFields, hfile] at hloose
  have hone : loose "a\nb.go".toList = 1 := by decide
  omega

/-- With a comma in the name of the file the row has quotes around the newline. -/
theorem run_reads_back_quotedName :
    everyRow.csvStats = true ∧ everyRow.csvTotals = false ∧
      ((∃ why, (funcIn "a\nb.go").measure 0 0 = .error why) ∨
        (records ((ofOptions everyRow none).run false [packageOf "a\nb.go"]).out).length = 2) ∧
      ((∃ why, (funcIn "a,\nb.go").measure 0 0 = .error why) ∨
        ∃ x : FuncReport, x.pos.filename = "a,\nb.go" ∧
          records ((ofOptions everyRow none).run false [packageOf "a,\nb.go"]).out =
            [x.csvFields]) := by
  refine ⟨rfl, rfl, ?_, ?_⟩
  · obtain hwhy | ⟨x, hflagged, hfile, hname⟩ := flaggedSoFar_packageOf "a\nb.go"
    · exact .inl hwhy
    obtain ⟨-, -, hlength, -⟩ := run_reads_back (o := everyRow) rfl rfl false [packageOf "a\nb.go"]
    rw [hflagged] at hlength
    simp only [List.map_singleton, hfile, hname] at hlength
    exact .inr (hlength.trans rfl)
  · obtain hwhy | ⟨x, hflagged, hfile, hname⟩ := flaggedSoFar_packageOf "a,\nb.go"
    · exact .inl hwhy
    obtain ⟨-, -, -, hiff⟩ := run_reads_back (o := everyRow) rfl rfl false [packageOf "a,\nb.go"]
    rw [hflagged] at hiff
    refine .inr ⟨x, hfile, hiff.2 ?_⟩
    rw [List.forall_mem_singleton, hfile, hname]
    decide

end Reporter
end GoMetrics
