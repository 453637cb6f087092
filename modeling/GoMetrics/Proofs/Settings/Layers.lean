import Mathlib.Data.List.Basic
import GoMetrics.Proofs.Draft.Success
import GoMetrics.Settings.Sources

/-!
Settings under way. Layers are filled entry by entry, and an entry that sets something replaces what
was there. So after any number of tables a setting has the value of the last entry that sets it, be
it an entry of its own or one in a table of thresholds. The layers come to settings exactly if every
key is known and the verbosity is one that exists.
-/

namespace GoMetrics

/-! Tables -/

namespace Table

/-- The last value that a table gives to a name. -/
def last? (t : Table) (key : String) : Option Value :=
  t.reverse.lookup key

def names (t : Table) : List String :=
  t.map (·.1)

theorem get?_cons (k : String) (v : Value) (t : Table) (key : String) :
    get? ((k, v) :: t) key = if k = key then some v else t.get? key := by
  rw [get?, List.lookup_cons, get?]
  by_cases h : k = key
  · simp [h]
  · simp [h, beq_false_of_ne (Ne.symm h)]

theorem last?_cons (k : String) (v : Value) (t : Table) (key : String) :
    last? ((k, v) :: t) key = (t.last? key).or (if k = key then some v else none) := by
  rw [last?, List.reverse_cons, List.lookup_append]
  exact congrArg (Option.or _) (get?_cons k v [] key)

theorem get?_set (t : Table) (k : String) (v : Value) (key : String) :
    (t.set k v).get? key = if k = key then some v else t.get? key := by
  induction t with
  | nil => exact get?_cons k v [] key
  | cons entry t ih =>
      obtain ⟨k', u⟩ := entry
      rw [set]
      split
      · subst k'
        simp only [get?_cons]
        split <;> rfl
      · simp only [get?_cons, ih]
        grind

theorem get?_update (t u : Table) (key : String) :
    (t.update u).get? key = (u.last? key).or (t.get? key) := by
  induction u generalizing t with
  | nil => rfl
  | cons entry u ih =>
      obtain ⟨k, v⟩ := entry
      change ((t.set k v).update u).get? key = _
      rw [ih, get?_set, last?_cons, Option.or_assoc]
      congr 1
      split <;> rfl

theorem mem_names_set {t : Table} {k : String} {v : Value} {key : String} :
    key ∈ (t.set k v).names ↔ key = k ∨ key ∈ t.names := by
  induction t with
  | nil => simp [set, names]
  | cons entry t ih =>
      obtain ⟨k', u⟩ := entry
      rw [set]
      split
      · simp_all [names]
      · simp only [names, List.map_cons, List.mem_cons] at ih ⊢
        rw [ih]
        exact or_left_comm

theorem mem_names_update {t u : Table} {key : String} :
    key ∈ (t.update u).names ↔ key ∈ u.names ∨ key ∈ t.names := by
  induction u generalizing t with
  | nil => simp [update, names]
  | cons entry u ih =>
      obtain ⟨k, v⟩ := entry
      change key ∈ ((t.set k v).update u).names ↔ key ∈ k :: names u ∨ key ∈ t.names
      rw [ih, mem_names_set, List.mem_cons]
      tauto

end Table

/-! Settings by name -/

/-- What can be set. -/
inductive Setting
  | cyclomaticOver | maintainabilityUnder | selfImportDepth
  | csvStats | csvTotals | failOnIssues | includeTests | strict | verbosity
  deriving DecidableEq, Repr

namespace Setting

def key : Setting → String
  | .cyclomaticOver => "cyclomatic_over"
  | .maintainabilityUnder => "maintainability_under"
  | .selfImportDepth => "self_import_depth"
  | .csvStats => "csv_stats"
  | .csvTotals => "csv_totals"
  | .failOnIssues => "fail_on_issues"
  | .includeTests => "include_tests"
  | .strict => "strict"
  | .verbosity => "verbosity"

def isThreshold : Setting → Bool
  | .cyclomaticOver | .maintainabilityUnder | .selfImportDepth => true
  | _ => false

/-- The value of a setting that nothing sets. -/
def standard : Setting → Value
  | .cyclomaticOver => .int 10
  | .maintainabilityUnder => .int 20
  | .selfImportDepth => .int (-1)
  | .includeTests => .bool true
  | .verbosity => .text "normal"
  | _ => .bool false

theorem key_ne_thresholds (f : Setting) : f.key ≠ "thresholds" := by
  cases f <;> decide

theorem key_mem_thresholdKeys (f : Setting) :
    f.key ∈ ThresholdSettings.keys ↔ f.isThreshold = true := by
  cases f <;> decide

theorem exists_threshold_iff {k : String} :
    (∃ f : Setting, f.isThreshold = true ∧ f.key = k) ↔ k ∈ ThresholdSettings.keys := by
  constructor
  · rintro ⟨f, hf, rfl⟩
    exact f.key_mem_thresholdKeys.2 hf
  · simp only [ThresholdSettings.keys, List.mem_cons, List.not_mem_nil, or_false]
    rintro (rfl | rfl | rfl)
    · exact ⟨.cyclomaticOver, rfl, rfl⟩
    · exact ⟨.maintainabilityUnder, rfl, rfl⟩
    · exact ⟨.selfImportDepth, rfl, rfl⟩

theorem exists_key_iff {k : String} :
    (∃ f : Setting, f.key = k) ↔ k ∈ ThresholdSettings.keys ∨ k ∈ Settings.keys := by
  constructor
  · rintro ⟨f, rfl⟩
    cases f <;> decide
  · rintro (h | h)
    · obtain ⟨f, -, hf⟩ := exists_threshold_iff.2 h
      exact ⟨f, hf⟩
    · simp only [Settings.keys, List.mem_cons, List.not_mem_nil, or_false] at h
      obtain rfl | rfl | rfl | rfl | rfl | rfl := h
      · exact ⟨.csvStats, rfl⟩
      · exact ⟨.csvTotals, rfl⟩
      · exact ⟨.failOnIssues, rfl⟩
      · exact ⟨.includeTests, rfl⟩
      · exact ⟨.strict, rfl⟩
      · exact ⟨.verbosity, rfl⟩

/-- The value that an entry gives to a setting. A threshold is set by an entry of its own, or inside
a table of thresholds. -/
def setBy? (f : Setting) (key : String) (v : Value) : Option Value :=
  if key = f.key then some v
  else if key = "thresholds" ∧ f.isThreshold then
    match v with
    | .table t => Table.last? t f.key
    | _ => none
  else none

/-- The value that a table gives to a setting: that of the last entry that sets it. -/
def givenBy? (f : Setting) (t : Table) : Option Value :=
  t.reverse.findSome? fun (key, v) => f.setBy? key v

theorem givenBy?_cons (f : Setting) (key : String) (v : Value) (t : Table) :
    f.givenBy? ((key, v) :: t) = (f.givenBy? t).or (f.setBy? key v) := by
  rw [givenBy?, List.reverse_cons, List.findSome?_append, givenBy?]
  cases h : f.setBy? key v <;> simp [h]

/-- Of several tables the last one that sets something counts. -/
theorem givenBy?_append (f : Setting) (t u : Table) :
    f.givenBy? (t ++ u) = (f.givenBy? u).or (f.givenBy? t) := by
  rw [givenBy?, List.reverse_append, List.findSome?_append]
  rfl

/-- An entry that belongs to settings: the value of one of them, or a table that holds thresholds
only. -/
inductive Belongs : String → Value → Prop
  | single (f : Setting) (v : Value) : Belongs f.key v
  | thresholds (u : Table) (h : ∀ k ∈ u.names, ∃ f : Setting, f.isThreshold = true ∧ f.key = k) :
      Belongs "thresholds" (.table u)

end Setting

/-- The value of a setting. -/
def Settings.value (s : Settings) : Setting → Value
  | .cyclomaticOver => s.thresholds.cyclomaticOver
  | .maintainabilityUnder => s.thresholds.maintainabilityUnder
  | .selfImportDepth => s.thresholds.selfImportDepth
  | .csvStats => s.csvStats
  | .csvTotals => s.csvTotals
  | .failOnIssues => s.failOnIssues
  | .includeTests => s.includeTests
  | .strict => s.strict
  | .verbosity => .text s.verbosity.name

/-! Layers -/

namespace Layers

open Setting

variable {l l' : Layers} {key : String} {v : Value}

/-- The value of a setting so far. -/
def get? (l : Layers) (f : Setting) : Option Value :=
  if f.isThreshold then l.thresholds.get? f.key else l.rest.get? f.key

/-- Every key so far is one that can be set. -/
structure Known (l : Layers) : Prop where
  thresholds : ∀ k ∈ l.thresholds.names, k ∈ ThresholdSettings.keys
  rest : ∀ k ∈ l.rest.names, k ∈ Settings.keys ++ ["thresholds"]

/-- One step. An entry has one of three places: all of the thresholds, one of them, or the rest. -/
theorem put_eq_ok : l.put key v = .ok l' ↔
    (key = "thresholds" ∧ ∃ u, v = .table u ∧ l' = { l with thresholds := l.thresholds.update u }) ∨
    (key ∈ ThresholdSettings.keys ∧ l' = { l with thresholds := l.thresholds.set key v }) ∨
    (key ≠ "thresholds" ∧ key ∉ ThresholdSettings.keys ∧
      l' = { l with rest := l.rest.set key v }) := by
  have htable : "thresholds" ∉ ThresholdSettings.keys := by decide
  unfold put
  by_cases hk : key = "thresholds"
  · subst hk
    rw [if_pos rfl]
    cases v <;> simp [htable, eq_comm]
  · rw [if_neg hk]
    by_cases hmem : key ∈ ThresholdSettings.keys
    · simp [hk, hmem, eq_comm]
    · simp [hk, hmem, eq_comm]

/-- An entry sets what it sets, and nothing else changes. -/
theorem get?_put (h : l.put key v = .ok l') (f : Setting) :
    l'.get? f = (f.setBy? key v).or (l.get? f) := by
  have hf := f.key_mem_thresholdKeys
  obtain ⟨rfl, u, rfl, rfl⟩ | ⟨hk, rfl⟩ | ⟨hne, hk, rfl⟩ := put_eq_ok.1 h
  · cases ht : f.isThreshold <;>
      simp [get?, setBy?, ht, Table.get?_update, f.key_ne_thresholds.symm]
  · have hne : key ≠ "thresholds" := by
      rintro rfl
      exact absurd hk (by decide)
    simp only [get?, setBy?, hne, false_and, if_false, Table.get?_set]
    grind
  · simp only [get?, setBy?, hne, false_and, if_false, Table.get?_set]
    grind

theorem merge_cons (t : Table) :
    l.merge ((key, v) :: t) = l.put key v >>= fun l => l.merge t :=
  rfl

theorem merge_append (t u : Table) : l.merge (t ++ u) = l.merge t >>= fun l => l.merge u :=
  List.foldlM_append

/-- A run of entries: each setting has the value of the last entry that sets it. -/
theorem get?_merge {t : Table} (h : l.merge t = .ok l') (f : Setting) :
    l'.get? f = (f.givenBy? t).or (l.get? f) := by
  induction t generalizing l with
  | nil =>
      cases h
      rfl
  | cons entry t ih =>
      obtain ⟨key, v⟩ := entry
      obtain ⟨mid, hput, hrest⟩ := Except.bind_eq_ok.1 h
      rw [ih hrest, get?_put hput, givenBy?_cons, Option.or_assoc]

/-- One step keeps the keys known exactly if the entry belongs to settings. -/
theorem put_known : (∃ l', l.put key v = .ok l' ∧ l'.Known) ↔ Belongs key v ∧ l.Known := by
  constructor
  · rintro ⟨l', h, hnew⟩
    obtain ⟨rfl, u, rfl, rfl⟩ | ⟨hk, rfl⟩ | ⟨hne, hk, rfl⟩ := put_eq_ok.1 h
    · have hu (k) (hmem : k ∈ Table.names u ∨ k ∈ l.thresholds.names) :=
        hnew.thresholds k (Table.mem_names_update.2 hmem)
      exact ⟨.thresholds u fun k hmem => exists_threshold_iff.2 (hu k (.inl hmem)),
        fun k hmem => hu k (.inr hmem), hnew.rest⟩
    · obtain ⟨f, -, rfl⟩ := exists_threshold_iff.2 hk
      exact ⟨.single f v, fun k hmem => hnew.thresholds k (Table.mem_names_set.2 (.inr hmem)),
        hnew.rest⟩
    · have hrest (k) (hmem : k = key ∨ k ∈ l.rest.names) :=
        hnew.rest k (Table.mem_names_set.2 hmem)
      have hkey : key ∈ Settings.keys := by simpa [hne] using hrest key (.inl rfl)
      obtain ⟨f, rfl⟩ := exists_key_iff.2 (.inr hkey)
      exact ⟨.single f v, hnew.thresholds, fun k hmem => hrest k (.inr hmem)⟩
  · rintro ⟨hb, hl⟩
    cases hb with
    | single f v =>
        by_cases hf : f.key ∈ ThresholdSettings.keys
        · refine ⟨_, put_eq_ok.2 (.inr (.inl ⟨hf, rfl⟩)), fun k hmem => ?_, hl.rest⟩
          obtain rfl | hmem := Table.mem_names_set.1 hmem
          · exact hf
          · exact hl.thresholds k hmem
        · refine ⟨_, put_eq_ok.2 (.inr (.inr ⟨f.key_ne_thresholds, hf, rfl⟩)), hl.thresholds,
            fun k hmem => ?_⟩
          obtain rfl | hmem := Table.mem_names_set.1 hmem
          · exact List.mem_append_left _ ((exists_key_iff.1 ⟨f, rfl⟩).resolve_left hf)
          · exact hl.rest k hmem
    | thresholds u hu =>
        refine ⟨_, put_eq_ok.2 (.inl ⟨rfl, u, rfl, rfl⟩), fun k hmem => ?_, hl.rest⟩
        obtain hmem | hmem := Table.mem_names_update.1 hmem
        · exact exists_threshold_iff.1 (hu k hmem)
        · exact hl.thresholds k hmem

/-- A run of entries keeps the keys known exactly if each of them belongs to settings. -/
theorem merge_known {t : Table} : (∃ l', l.merge t = .ok l' ∧ l'.Known) ↔
    (∀ key v, (key, v) ∈ t → Belongs key v) ∧ l.Known := by
  induction t generalizing l with
  | nil => simp [merge, pure, Except.pure]
  | cons entry t ih =>
      obtain ⟨key, v⟩ := entry
      calc (∃ l', l.merge ((key, v) :: t) = .ok l' ∧ l'.Known)
        _ ↔ ∃ mid, l.put key v = .ok mid ∧ ∃ l', mid.merge t = .ok l' ∧ l'.Known := by
            simp only [merge_cons, Except.bind_eq_ok]
            tauto
        _ ↔ (∀ key v, (key, v) ∈ t → Belongs key v) ∧ Belongs key v ∧ l.Known := by
            simp only [ih, ← put_known]
            tauto
        _ ↔ _ := by
            simp only [List.mem_cons, Prod.mk.injEq]
            grind

end Layers

/-! What layers come to -/

namespace Settings

open Setting

variable {t : Table}

theorem strayKey?_eq_none (owner : String) {known : List String} :
    strayKey? owner known t = none ↔ ∀ k ∈ t.names, k ∈ known := by
  simp only [strayKey?, List.findSome?_eq_none_iff, Table.names, List.mem_map]
  constructor
  · rintro h k ⟨entry, hmem, rfl⟩
    by_contra hk
    have := h entry hmem
    grind
  · intro h entry hmem
    simp [h entry.1 ⟨entry, hmem, rfl⟩]

theorem verbosityOf_eq_ok {v : Value} {w : Verbosity} :
    verbosityOf v = .ok w ↔ v = .text w.name := by
  have hname (x : String) : Verbosity.ofName? x = some w ↔ x = w.name := by
    unfold Verbosity.ofName?
    split <;> cases w <;> simp_all [Verbosity.name]
  cases v with
  | text x =>
      rw [Value.text.injEq, ← hname, verbosityOf]
      cases Verbosity.ofName? x <;> simp
  | none | bool _ | int _ | float _ | list _ | table _ => simp [verbosityOf]

theorem thresholdsOf_eq_ok {th : ThresholdSettings} : thresholdsOf t = .ok th ↔
    (∀ k ∈ t.names, k ∈ ThresholdSettings.keys) ∧
      th = ⟨(t.get? "cyclomatic_over").getD (.int 10),
        (t.get? "maintainability_under").getD (.int 20),
        (t.get? "self_import_depth").getD (.int (-1))⟩ := by
  rw [thresholdsOf, ← strayKey?_eq_none "Thresholds"]
  cases strayKey? "Thresholds" ThresholdSettings.keys t <;> simp [eq_comm]

theorem ofTable_eq_ok {th : ThresholdSettings} {s : Settings} : ofTable t th = .ok s ↔
    (∀ k ∈ t.names, k ∈ keys ++ ["thresholds"]) ∧
      ∃ w : Verbosity, (t.get? "verbosity").getD (.text "normal") = .text w.name ∧
        s = ⟨th, (t.get? "csv_stats").getD (.bool false), (t.get? "csv_totals").getD (.bool false),
          (t.get? "fail_on_issues").getD (.bool false), (t.get? "include_tests").getD (.bool true),
          (t.get? "strict").getD (.bool false), w⟩ := by
  rw [ofTable, ← strayKey?_eq_none "AnalysisConfig"]
  cases strayKey? "AnalysisConfig" (keys ++ ["thresholds"]) t with
  | none =>
      simp [Except.map_eq_ok, verbosityOf_eq_ok, eq_comm (a := s)]
  | some m =>
      simp [bind, Except.bind, throw, throwThe, MonadExceptOf.throw]

end Settings

namespace Layers

/-- Layers come to settings exactly if their keys are known and the verbosity exists; then each
setting has its value, or the standard one. -/
theorem settle_eq_ok {l : Layers} {s : Settings} :
    l.settle = .ok s ↔ l.Known ∧ ∀ f, s.value f = (l.get? f).getD f.standard := by
  simp only [settle, Except.mapError_eq_ok, Except.bind_eq_ok, Settings.thresholdsOf_eq_ok,
    Settings.ofTable_eq_ok]
  constructor
  · rintro ⟨th, ⟨hth, rfl⟩, hrest, w, hw, rfl⟩
    refine ⟨⟨hth, hrest⟩, fun f => ?_⟩
    cases f with
    | verbosity => exact hw.symm
    | _ => rfl
  · rintro ⟨hknown, hval⟩
    refine ⟨s.thresholds, ⟨hknown.thresholds, ?_⟩, hknown.rest, s.verbosity,
      (hval .verbosity).symm, ?_⟩
    · rw [ThresholdSettings.mk.injEq]
      exact ⟨hval .cyclomaticOver, hval .maintainabilityUnder, hval .selfImportDepth⟩
    · rw [Settings.mk.injEq]
      exact ⟨rfl, hval .csvStats, hval .csvTotals, hval .failOnIssues, hval .includeTests,
        hval .strict, rfl⟩

end Layers
end GoMetrics
