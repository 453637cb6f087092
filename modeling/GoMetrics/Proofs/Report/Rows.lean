import Mathlib.Data.List.Basic
import GoMetrics.Report.Style

/-!
Reading rows back. Only commas and double quotes mean anything to the reader: a field that begins
with a quote goes up to its closing quote, where two quotes stand for one, and any other field goes
up to the next comma. A row is read back as the fields it was made of.
-/

namespace GoMetrics.Csv

/-- Where in a row the reader is. -/
inductive Place
  /-- At the beginning of a field. -/
  | opening
  /-- Inside a field without quotes, or behind a quoted one. -/
  | plain
  | quoted
  /-- Behind a quote in a quoted field, which may be the first of two. -/
  | closing
  deriving DecidableEq, Repr

/-- The fields from a place on; the first of them is what is left of the current one. -/
def scan : Place → List Char → List (List Char)
  | _, [] => [[]]
  | .quoted, c :: cs =>
    if c = '"' then scan .closing cs else (scan .quoted cs).modifyHead (c :: ·)
  | p, c :: cs =>
    if c = ',' then [] :: scan .opening cs
    else if c = '"' ∧ p = .opening then scan .quoted cs
    else if c = '"' ∧ p = .closing then (scan .quoted cs).modifyHead (c :: ·)
    else (scan .plain cs).modifyHead (c :: ·)

/-- The fields of a row. -/
def read (row : String) : List String :=
  (scan .opening row.toList).map String.ofList

theorem scan_quoted (cs rest : List Char) :
    scan .quoted (doubled cs ++ '"' :: rest) = (scan .closing rest).modifyHead (cs ++ ·) := by
  induction cs with
  | nil =>
      rw [doubled, List.nil_append, scan, if_pos rfl]
      cases scan .closing rest <;> rfl
  | cons c cs ih =>
      by_cases hc : c = '"'
      · subst c
        simp [doubled, scan, ih, Function.comp_def]
      · simp [doubled, scan, ih, hc, Function.comp_def]

theorem needsQuotes_cons {c : Char} {cs : List Char} (h : needsQuotes (c :: cs) = false) :
    c ≠ ',' ∧ c ≠ '"' ∧ needsQuotes cs = false := by
  simpa [needsQuotes, and_assoc] using h

/-- `tail` is what is left when a field ends before `rest`. -/
def Ends (rest : List Char) (tail : List (List Char)) : Prop :=
  ∀ p, p ≠ .quoted → scan p rest = [] :: tail

theorem ends_nil : Ends [] [] := by
  intro p _
  cases p <;> rfl

theorem ends_comma (rest : List Char) : Ends (',' :: rest) (scan .opening rest) := by
  intro p hp
  cases p with
  | quoted => exact absurd rfl hp
  | opening | plain | closing => rw [scan] <;> simp

theorem scan_plain {cs rest : List Char} {tail : List (List Char)} (hq : needsQuotes cs = false)
    (hr : Ends rest tail) {p : Place} (hp : p ≠ .quoted) : scan p (cs ++ rest) = cs :: tail := by
  induction cs generalizing p with
  | nil => exact hr p hp
  | cons c cs ih =>
      obtain ⟨hc, hd, hcs⟩ := needsQuotes_cons hq
      have hs : scan p (c :: (cs ++ rest)) = (scan .plain (cs ++ rest)).modifyHead (c :: ·) := by
        cases p with
        | quoted => exact absurd rfl hp
        | opening | plain | closing => rw [scan] <;> simp [hc, hd]
      rw [List.cons_append, hs, ih hcs (by decide)]
      rfl

theorem scan_field {f rest : List Char} {tail : List (List Char)} (hr : Ends rest tail) :
    scan .opening (field f ++ rest) = f :: tail := by
  rw [field]
  cases hq : needsQuotes f with
  | false => exact scan_plain hq hr (by decide)
  | true =>
      have hs : scan .opening ('"' :: (doubled f ++ '"' :: rest)) =
          scan .quoted (doubled f ++ '"' :: rest) := by
        rw [scan] <;> simp
      simp only [if_true, List.cons_append, List.append_assoc, List.nil_append]
      rw [hs, scan_quoted, hr .closing (by decide)]
      simp

theorem scan_joined {fields : List (List Char)} (h : fields ≠ []) :
    scan .opening (joined (fields.map field)) = fields := by
  induction fields with
  | nil => exact absurd rfl h
  | cons f fields ih =>
      cases fields with
      | nil =>
          rw [List.map_singleton, joined, ← List.append_nil (field f)]
          exact scan_field ends_nil
      | cons g fields =>
          have hr := ih (List.cons_ne_nil g fields)
          change scan .opening (field f ++ ',' :: joined ((g :: fields).map field)) = _
          rw [scan_field (ends_comma _), hr]

/-- A row is read back as its fields. -/
theorem read_row {fields : List String} (h : fields ≠ []) : read (row fields) = fields := by
  have hm : fields.map (fun f => field f.toList) = (fields.map String.toList).map field := by
    rw [List.map_map]
    rfl
  rw [read, row, String.toList_ofList, hm, scan_joined (by simpa using h), List.map_map]
  simp [Function.comp_def]

/-! Rows of the table style -/

/-- A row of a table: it is read back as the fields it was made of, which are eleven. -/
structure IsRowOf (fields : List String) (r : String) : Prop where
  read_eq : read r = fields
  length_read : (read r).length = 11

theorem isRowOf_row {fields : List String} (h : fields.length = 11) :
    IsRowOf fields (row fields) := by
  have hr : read (row fields) = fields := read_row (List.length_pos_iff.1 (by omega))
  exact ⟨hr, hr.symm ▸ h⟩

/-- Rows with different fields are different. -/
theorem IsRowOf.ne {fields fields' : List String} {r r' : String} (h : IsRowOf fields r)
    (h' : IsRowOf fields' r') (hne : fields ≠ fields') : r ≠ r' := by
  rintro rfl
  exact hne (h.read_eq.symm.trans h'.read_eq)

theorem isRowOf_lines (x : FuncReport) (t : Thresholds) :
    ∃ r, x.lines .csv t = .ok [r] ∧ IsRowOf x.csvFields r :=
  ⟨_, rfl, isRowOf_row rfl⟩

theorem isRowOf_csvRow (t : Totals) (name : String) :
    IsRowOf (t.csvFields name) (t.csvRow name) :=
  isRowOf_row rfl

/-- If totals can be written down, they are written as their row. -/
theorem csvRow?_eq_ok {t : Totals} {name r : String} (h : t.csvRow? name = .ok r) :
    r = t.csvRow name := by
  simp only [Totals.csvRow?] at h
  split at h
  · exact (Except.ok.inj h).symm
  · cases h

/-- A row of at least two fields is read back as these fields. So whatever is said about a function
or about totals in the table style is one row of eleven fields, and it is different wherever one of
the fields is. -/
theorem rows_decode :
    (∀ fields : List String, 2 ≤ fields.length → read (row fields) = fields) ∧
    (∀ fields fields' : List String, 2 ≤ fields.length → 2 ≤ fields'.length → fields ≠ fields' →
      row fields ≠ row fields') ∧
    (∀ (x : FuncReport) (t : Thresholds),
      ∃ r, x.lines .csv t = .ok [r] ∧ IsRowOf x.csvFields r) ∧
    (∀ (t : Totals) (name : String), IsRowOf (t.csvFields name) (t.csvRow name) ∧
      ∀ r, t.csvRow? name = .ok r → IsRowOf (t.csvFields name) r) ∧
    (∀ (x y : FuncReport) (t u : Thresholds), x.csvFields ≠ y.csvFields →
      x.lines .csv t ≠ y.lines .csv u) ∧
    (∀ (t u : Totals) (m n : String), t.csvFields m ≠ u.csvFields n →
      t.csvRow m ≠ u.csvRow n) := by
  have hread : ∀ fields : List String, 2 ≤ fields.length → read (row fields) = fields :=
    fun fields h => read_row (List.length_pos_iff.1 (by omega))
  refine ⟨hread, fun fields fields' h h' hne heq => hne ?_, isRowOf_lines, fun t name => ?_,
    fun x y t u hne heq => ?_, fun t u m n => (isRowOf_csvRow t m).ne (isRowOf_csvRow u n)⟩
  · rw [← hread fields h, heq, hread fields' h']
  · refine ⟨isRowOf_csvRow t name, fun r hr => ?_⟩
    rw [csvRow?_eq_ok hr]
    exact isRowOf_csvRow t name
  · obtain ⟨r, hx, hr⟩ := isRowOf_lines x t
    obtain ⟨r', hy, hr'⟩ := isRowOf_lines y u
    rw [hx, hy] at heq
    exact hr.ne hr' hne (List.singleton_inj.1 (Except.ok.inj heq))

/-- Quotes beside each other, at both ends and around a comma, a line break, and nothing. -/
def trickyFields : List String :=
  ["\"\"", "\"a,b\"", " x\ny ", "", ","]

theorem rows_decode_trickyFields :
    2 ≤ trickyFields.length ∧ read (row trickyFields) = trickyFields ∧
      row trickyFields = "\"\"\"\"\"\",\"\"\"a,b\"\"\", x\ny ,,\",\"" :=
  ⟨by decide, rows_decode.1 trickyFields (by decide), by decide⟩

end GoMetrics.Csv
