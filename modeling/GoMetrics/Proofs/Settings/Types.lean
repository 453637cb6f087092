import GoMetrics.Proofs.Report.Mismatch
import GoMetrics.Proofs.Settings.Precedence

/-!
Which settings have values of their own type. The verbosity is checked wherever it comes from, and
the environment and the options of the command give values of the right type only. What a file or a
direct override gives to another setting is taken as it stands. So settings are well typed exactly
if what is taken as it stands has the right type, and a run with settings that are ends in no
comparison.
-/

namespace GoMetrics

/-! Failures of a kind -/

namespace Except

variable {ε ε' α β : Type} {P : ε → Prop}

/-- Every failure that a step can end in is of a kind. -/
def FailsOnly (P : ε → Prop) (x : Except ε α) : Prop :=
  ∀ e, x = .error e → P e

namespace FailsOnly

theorem ok (a : α) : FailsOnly P (.ok a) :=
  nofun

theorem error {e : ε} (h : P e) : FailsOnly P (.error e : Except ε α) := by
  rintro _ ⟨⟩
  exact h

theorem mapError {x : Except ε' α} {embed : ε' → ε} (h : FailsOnly (fun e => P (embed e)) x) :
    FailsOnly P (x.mapError embed) := by
  cases x with
  | error e => exact error (h e rfl)
  | ok a => exact ok a

theorem bind {x : Except ε α} {f : α → Except ε β} (hx : FailsOnly P x)
    (hf : ∀ a, FailsOnly P (f a)) : FailsOnly P (x >>= f) := by
  cases x with
  | error e => exact error (hx e rfl)
  | ok a => exact hf a

theorem foldlM {f : β → α → Except ε β} {xs : List α} (h : ∀ b, ∀ a ∈ xs, FailsOnly P (f b a))
    (b : β) : FailsOnly P (xs.foldlM f b) := by
  induction xs generalizing b with
  | nil => exact ok b
  | cons x xs ih =>
      rw [List.foldlM_cons]
      exact (h b x List.mem_cons_self).bind fun b =>
        ih (fun b a ha => h b a (List.mem_cons_of_mem x ha)) b

theorem filterMapM {f : α → Except ε (Option β)} (h : ∀ a, FailsOnly P (f a)) (xs : List α) :
    FailsOnly P (xs.filterMapM f) := by
  induction xs with
  | nil => exact ok []
  | cons x xs ih =>
      rw [List.filterMapM_cons]
      refine (h x).bind fun o => ?_
      cases o with
      | none => exact ih
      | some b => exact ih.bind fun _ => ok _

end FailsOnly
end Except

/-- A failure that is explained as one of the configuration. -/
def Failure.isOfSettings : Failure → Bool
  | .complaint (.configuration _) | .complaint (.invalidSetting ..) => true
  | _ => false

/-! Values of the right type -/

namespace Setting

variable {f : Setting} {v : Value}

/-- Whether a value has the type of a setting: thresholds are whole numbers, the verbosity is one of
three words, and everything else is a switch. -/
def admits (f : Setting) : Value → Bool
  | .int _ => f.isThreshold
  | .bool _ => !f.isThreshold && f != .verbosity
  | .text s => f == .verbosity && ["quiet", "normal", "verbose"].contains s
  | _ => false

theorem admits_verbosity : admits .verbosity v = true ↔ ∃ w : Verbosity, v = .text w.name := by
  cases v with
  | text s =>
      simp only [admits, List.contains_eq_mem, List.mem_cons, List.not_mem_nil, or_false,
        beq_self_eq_true, Bool.true_and, decide_eq_true_eq, Value.text.injEq]
      constructor
      · rintro (rfl | rfl | rfl)
        · exact ⟨.quiet, rfl⟩
        · exact ⟨.normal, rfl⟩
        · exact ⟨.verbose, rfl⟩
      · rintro ⟨w, rfl⟩
        cases w <;> simp [Verbosity.name]
  | _ => exact iff_of_false Bool.false_ne_true (by rintro ⟨_, ⟨⟩⟩)

theorem admits_threshold (hf : f.isThreshold = true) :
    f.admits v = true ↔ ∃ i, v = .int i := by
  have hne : f ≠ .verbosity := by
    rintro rfl
    cases hf
  cases v <;> simp [admits, hf, hne]

theorem admits_standard (f : Setting) : f.admits f.standard = true := by
  cases f <;> decide

/-- Every text in the environment is read as a value of the right type; only the verbosity is taken
as it stands. -/
theorem admits_read {text : String} (hf : f ≠ .verbosity) (h : f.read? text = some v) :
    f.admits v = true := by
  unfold read? at h
  cases ht : f.isThreshold with
  | true =>
      rw [ht, if_pos rfl] at h
      obtain ⟨i, -, rfl⟩ := Option.map_eq_some_iff.1 h
      exact ht
  | false =>
      rw [ht, if_neg Bool.false_ne_true, if_neg hf] at h
      obtain ⟨b, -, rfl⟩ := Option.map_eq_some_iff.1 h
      simp [admits, ht, hf]

/-- So is every option of the command. -/
theorem admits_option {g : CommandLine.Given} {c : CommandLine.Checked}
    (h : f.option? g c = some v) : f.admits v = true := by
  cases f with
  | cyclomaticOver | maintainabilityUnder | selfImportDepth | includeTests =>
      obtain ⟨_, -, rfl⟩ := Option.map_eq_some_iff.1 h
      rfl
  | csvStats | csvTotals | failOnIssues =>
      obtain ⟨-, ⟨⟩⟩ := Option.ite_none_right_eq_some.1 h
      rfl
  | strict => cases h
  | verbosity =>
      rw [option?] at h
      split at h
      · cases h
        decide
      · obtain ⟨-, ⟨⟩⟩ := Option.ite_none_right_eq_some.1 h
        decide

end Setting

namespace Settings

open Setting

/-- Every setting has a value of its own type. -/
def WellTyped (s : Settings) : Prop :=
  ∀ f : Setting, f.admits (s.value f) = true

/-- The configuration files can be read and parsed, or are not needed. -/
structure FilesUsable (fs : FileTree) (explicit : Option Path) : Prop where
  user : Usable fs (userFile fs)
  project : Usable fs (projectFile fs)
  named : ∀ p, explicit = some p → fs.exists? p = .ok true ∧ (fs.settingsAt? p).isSome

/-- What the files give to a setting: the explicit one counts for more than the project's, and that
for more than the user's. -/
def inFiles? (fs : FileTree) (explicit : Option Path) (f : Setting) : Option Value :=
  ((explicit.bind fs.settingsAt?).bind f.givenBy?).or
    (((fs.settingsAt? (projectFile fs)).bind f.givenBy?).or
      ((fs.settingsAt? (userFile fs)).bind f.givenBy?))

/-- The value of a setting that is taken as it stands: that of a direct override, or that of the
files unless the environment has another one. -/
def unchecked? (fs : FileTree) (env : List (String × String)) (explicit : Option Path)
    (overrides : Table) (f : Setting) : Option Value :=
  (f.overriddenBy? overrides).or
    (if (f.inEnvironment? env).isSome then none else inFiles? fs explicit f)

variable {fs : FileTree} {env : List (String × String)} {explicit : Option Path}
  {overrides : Table} {s : Settings} {f : Setting}

theorem chosen_eq : chosen fs env explicit overrides f =
    ((f.overriddenBy? overrides).or ((f.inEnvironment? env).or (inFiles? fs explicit f))).getD
      f.standard := by
  simp [chosen, givers, inFiles?, findSome?_id_cons]

/-- What is chosen has the right type exactly if it is not taken as it stands, or has it then. -/
theorem admits_chosen (hf : f ≠ .verbosity) :
    f.admits (chosen fs env explicit overrides f) = true ↔
      ∀ v ∈ unchecked? fs env explicit overrides f, f.admits v = true := by
  rw [chosen_eq, unchecked?]
  cases f.overriddenBy? overrides with
  | some v => simp
  | none =>
      cases he : f.inEnvironment? env with
      | some v =>
          obtain ⟨text, -, hv⟩ := Option.bind_eq_some_iff.1 he
          simp [admits_read hf hv]
      | none => cases inFiles? fs explicit f <;> simp [f.admits_standard]

/-! Failures of loading -/

open GoMetrics.Except (FailsOnly)

theorem failsOnly_put (l : Layers) (key : String) (v : Value) :
    FailsOnly (fun c => (Failure.complaint c).isOfSettings = true) (l.put key v) := by
  unfold Layers.put
  split
  · cases v with
    | table t => exact .ok _
    | _ => exact .error rfl
  · split <;> exact .ok _

theorem failsOnly_environment (env : List (String × String)) :
    FailsOnly (fun c => (Failure.complaint c).isOfSettings = true) (Environment.table env) := by
  have hvalue (key text : String) : FailsOnly
      (fun c => (Failure.complaint c).isOfSettings = true) (Environment.value key text) := by
    unfold Environment.value
    split
    · split
      · exact .ok _
      · exact .error rfl
    split
    · exact .ok _
    split
    · exact .ok _
    · exact .error rfl
  refine .filterMapM (fun key => ?_) _
  split
  · exact .ok _
  · exact .bind (hvalue _ _) fun _ => .ok _

/-- What is said about a verbosity that does not exist. -/
def unknownVerbosity (v : Value) : Failure :=
  .complaint (.invalidSetting "verbosity" v.render "expected quiet, normal or verbose")

theorem verbosityOf_eq_error {v : Value} {e : Failure} :
    verbosityOf v = .error e ↔ admits .verbosity v = false ∧ e = unknownVerbosity v := by
  cases hv : verbosityOf v with
  | ok w =>
      have hw := admits_verbosity.2 ⟨w, verbosityOf_eq_ok.1 hv⟩
      simp [hw]
  | error e' =>
      have hno : admits .verbosity v = false := by
        refine Bool.eq_false_iff.2 fun h => ?_
        obtain ⟨w, hw⟩ := admits_verbosity.1 h
        cases hv.symm.trans (verbosityOf_eq_ok.2 hw)
      have he : e' = unknownVerbosity v := by
        simp only [verbosityOf] at hv
        split at hv
        · cases hv
        · exact (Except.error.inj hv).symm
      simp [hno, he, eq_comm]

theorem failsOnly_settle (l : Layers) : FailsOnly (·.isOfSettings = true) l.settle := by
  unfold Layers.settle
  refine .mapError (.bind (.mapError ?_) fun th => ?_)
  · exact fun m _ => rfl
  · unfold ofTable
    split
    · exact .error rfl
    · refine .bind (fun e he => ?_) fun _ => .ok _
      rw [(verbosityOf_eq_error.1 he).2]
      rfl

/-- With files that can be used, loading fails with an explanation if it fails. -/
theorem failsOnly_load (hk : Keywords overrides) (h : FilesUsable fs explicit) :
    FailsOnly (·.isOfSettings = true) (load fs env explicit overrides) := by
  have hsources : ∀ source ∈ sources fs env explicit overrides,
      FailsOnly (·.isOfSettings = true) source := by
    simp only [sources, List.forall_mem_cons, optionalFile_eq_ok.2 ⟨h.user, rfl⟩,
      optionalFile_eq_ok.2 ⟨h.project, rfl⟩, explicitFile_eq_ok.2 ⟨h.named, rfl⟩]
    exact ⟨.ok _, .ok _, .ok _, .mapError (failsOnly_environment env), .ok _,
      List.forall_mem_nil _⟩
  rw [load_eq hk]
  refine .bind (.foldlM (fun l source hmem => ?_) _) failsOnly_settle
  exact (hsources source hmem).bind fun t => .mapError
    (.foldlM (fun l entry _ => failsOnly_put l entry.1 entry.2) l)

/-- Layers with known keys fail by the verbosity alone. -/
theorem settle_of_verbosity {l : Layers} (hl : l.Known) {v : Value}
    (hv : (l.get? .verbosity).getD (standard .verbosity) = v)
    (h : admits .verbosity v = false) : l.settle = .error (unknownVerbosity v) := by
  have hstray : strayKey? "AnalysisConfig" (keys ++ ["thresholds"]) l.rest = none :=
    (strayKey?_eq_none _).2 hl.rest
  have hverb : verbosityOf ((l.rest.get? "verbosity").getD (.text "normal")) =
      .error (unknownVerbosity v) := by
    subst hv
    exact verbosityOf_eq_error.2 ⟨h, rfl⟩
  rw [Layers.settle, thresholdsOf_eq_ok.2 ⟨hl.thresholds, rfl⟩]
  simp only [ofTable, hstray, hverb]
  rfl

/-- A verbosity that does not exist is refused if it is the one that counts, wherever it is from. -/
theorem load_of_verbosity (hk : Keywords overrides) (hr : Readable fs env explicit overrides)
    (h : admits .verbosity (chosen fs env explicit overrides .verbosity) = false) :
    load fs env explicit overrides =
      .error (unknownVerbosity (chosen fs env explicit overrides .verbosity)) := by
  obtain ⟨l, hl, hget, heq⟩ := load_eq_settle hk hr
  rw [heq, settle_of_verbosity hl (hget .verbosity) h]

/-! Runs with settings -/

/-- Well-typed settings have whole numbers as thresholds. -/
theorem WellTyped.exists_reporter (h : s.WellTyped) (style : Option Style) :
    ∃ w : WholeReporter, Reporter.ofOptions s.options style = w.reporter := by
  obtain ⟨a, ha⟩ := (admits_threshold (f := .cyclomaticOver) rfl).1 (h _)
  obtain ⟨b, hb⟩ := (admits_threshold (f := .maintainabilityUnder) rfl).1 (h _)
  obtain ⟨d, hd⟩ := (admits_threshold (f := .selfImportDepth) rfl).1 (h _)
  have hlimits : s.options.thresholds = .ofInts a b d := by
    change Thresholds.mk (.ofValue (s.value .cyclomaticOver))
      (.ofValue (s.value .maintainabilityUnder)) (.ofValue (s.value .selfImportDepth)) = _
    rw [ha, hb, hd]
    rfl
  refine ⟨⟨a, b, d, style.getD (if s.options.csvStats then .csv else .text), s.options.csvTotals⟩,
    ?_⟩
  rw [Reporter.ofOptions, hlimits]
  rfl

/-- What comparisons with the thresholds of settings come to. -/
structure Compares (s : Settings) : Prop where
  /-- They are never the end of a run if the settings are well typed. -/
  never : s.WellTyped → ∀ style : Option Style,
    (∀ failOnIssues ps,
      ((Reporter.ofOptions s.options style).run failOnIssues ps).Avoids .mismatch) ∧
    ∀ o fs targets, ((Reporter.ofOptions s.options style).runTargets o fs targets).Avoids .mismatch
  /-- One of them fails exactly if its limit is no number and it comes to be looked at. -/
  fails : ∀ cyclomatic maintainability m,
    s.options.thresholds.isExceeded cyclomatic maintainability = .error m ↔
      (∃ type, s.options.thresholds.cyclomaticOver = .other type ∧ m = .incomparable ">" type) ∨
      s.options.thresholds.cyclomaticOver.exceededBy cyclomatic = .ok false ∧
        ∃ type, s.options.thresholds.maintainabilityUnder = .other type ∧
          m = .incomparable "<" type
  /-- If the first limit is no number, it ends every run over packages with a function. -/
  ends : ∀ type d, s.options.thresholds.cyclomaticOver = .other type →
    s.options.thresholds.selfImportDepth = .whole d → ∀ ps : List Package,
      (∀ p ∈ ps, ∀ f ∈ p.functions, ∃ m,
        f.measure p.imports.length (p.selfImports d) = .ok m) →
      (∃ p ∈ ps, p.functions ≠ []) → ∀ style failOnIssues,
        ((Reporter.ofOptions s.options style).run failOnIssues ps).result =
          .error (.mismatch (.incomparable ">" type))

theorem compares (s : Settings) : s.Compares where
  never h style := by
    obtain ⟨w, hw⟩ := h.exists_reporter style
    rw [hw]
    exact ⟨w.avoids_mismatch_run, w.avoids_mismatch_runTargets⟩
  fails _ _ _ := Thresholds.isExceeded_eq_error
  ends _ _ hc hd _ hm hne _ failOnIssues := Reporter.run_incomparable hd hc hm hne failOnIssues

/-! All of it -/

/-- What is checked on the way to settings. -/
structure Typing (fs : FileTree) (env : List (String × String)) (explicit : Option Path)
    (overrides : Table) : Prop where
  /-- Files that can be used leave settings or a refusal that is explained. -/
  decided : FilesUsable fs explicit → (∃ s, load fs env explicit overrides = .ok s) ∨
    ∃ e, load fs env explicit overrides = .error e ∧ e.isOfSettings = true
  verbosity : Readable fs env explicit overrides →
    admits .verbosity (chosen fs env explicit overrides .verbosity) = false →
      load fs env explicit overrides =
        .error (unknownVerbosity (chosen fs env explicit overrides .verbosity))
  /-- A text in the environment that is no value of the right type is refused too. -/
  environment : ∀ s, load fs env explicit overrides = .ok s → ∀ f : Setting, f ≠ .verbosity →
    ∀ text, f.textIn? env = some text → ∃ v, f.read? text = some v ∧ f.admits v = true
  accepted : ∀ s, load fs env explicit overrides = .ok s →
    admits .verbosity (s.value .verbosity) = true ∧
      (s.WellTyped ↔ ∀ f ≠ .verbosity, ∀ v ∈ unchecked? fs env explicit overrides f,
        f.admits v = true)

theorem typing (hk : Keywords overrides) : Typing fs env explicit overrides where
  decided h := by
    cases hl : load fs env explicit overrides with
    | ok s => exact .inl ⟨s, rfl⟩
    | error e => exact .inr ⟨e, rfl, failsOnly_load hk h e hl⟩
  verbosity := load_of_verbosity hk
  environment s hs f hf text ht := by
    obtain ⟨v, hv⟩ := Option.isSome_iff_exists.1 (((load_eq_ok hk).1 hs).1.environment f text ht)
    exact ⟨v, hv, admits_read hf hv⟩
  accepted s hs := by
    have hverb : admits .verbosity (s.value .verbosity) = true := admits_verbosity.2 ⟨_, rfl⟩
    refine ⟨hverb, forall_congr' fun f => ?_⟩
    by_cases hf : f = .verbosity
    · subst hf
      exact iff_of_true hverb fun h => absurd rfl h
    · rw [((load_eq_ok hk).1 hs).2 f, admits_chosen hf]
      exact ⟨fun h _ => h, fun h => h hf⟩

variable (fs env explicit) in
/-- Accepted settings have a verbosity that exists, and are well typed exactly if what is taken as
it stands has the right type; the command never gives anything else. A run with well-typed settings
ends in no comparison with a threshold, and one whose first threshold is no number ends in the first
comparison. -/
theorem load_types (hk : Keywords overrides) :
    Typing fs env explicit overrides ∧
      (∀ (g : CommandLine.Given) (c : CommandLine.Checked) (f : Setting),
        ∀ v ∈ f.overriddenBy? (CommandLine.overrides g c), f.admits v = true) ∧
      ∀ s : Settings, s.Compares := by
  refine ⟨typing hk, fun g c f v hv => ?_, compares⟩
  rw [overriddenBy?_overrides] at hv
  exact admits_option hv

theorem load_types_layeredTree : Keywords layeredOverrides ∧
    ∃ s, load layeredTree [("GO_COMPLEXITY_STRICT", "Yes")] none layeredOverrides = .ok s ∧
      s.WellTyped ∧ ∀ style failOnIssues ps,
        ((Reporter.ofOptions s.options style).run failOnIssues ps).Avoids .mismatch := by
  have hk : Keywords layeredOverrides := ⟨by decide, by decide⟩
  obtain ⟨htyping, -, hcompares⟩ := load_types layeredTree [("GO_COMPLEXITY_STRICT", "Yes")] none hk
  obtain ⟨s, hs⟩ := Except.exists_eq_ok
    (x := load layeredTree [("GO_COMPLEXITY_STRICT", "Yes")] none layeredOverrides)
    (by decide +kernel)
  have htyped : s.WellTyped := by
    refine (htyping.accepted s hs).2.2 fun f _ => ?_
    cases f <;> decide +kernel
  exact ⟨hk, s, hs, htyped, fun style => ((hcompares s).never htyped style).1⟩

/-- A project's file in which the number of a threshold stands in quotes. -/
def textTree : FileTree where
  entries := [(["work"], .dir),
    (["work", "go-complexity.toml"], .file ⟨[], .empty, .table [("cyclomatic_over", .text "12")]⟩)]
  work := ["work"]
  home := ["home"]

theorem not_wellTyped_textTree : ∃ s, load textTree [] none [] = .ok s ∧ ¬ s.WellTyped ∧
    ∀ cyclomatic maintainability,
      s.options.thresholds.isExceeded cyclomatic maintainability =
        .error (.incomparable ">" "str") := by
  have hk : Keywords ([] : Table) := ⟨by decide, by decide⟩
  obtain ⟨s, hs⟩ := Except.exists_eq_ok (x := load textTree [] none []) (by decide +kernel)
  have hval : s.value .cyclomaticOver = .text "12" := by
    rw [((load_eq_ok hk).1 hs).2]
    with_unfolding_all rfl
  refine ⟨s, hs, fun h => ?_, fun cyclomatic maintainability => ?_⟩
  · have := h .cyclomaticOver
    rw [hval] at this
    cases this
  · refine Thresholds.isExceeded_eq_error.2 (.inl ⟨"str", ?_, rfl⟩)
    change Limit.ofValue (s.value .cyclomaticOver) = _
    rw [hval]
    rfl

end Settings
end GoMetrics
