import GoMetrics.CommandLine.Run
import GoMetrics.Proofs.Settings.Sources

/-!
Where a setting has its value from. Five sources may give one: the user's file, the project's file,
a file named explicitly, the environment and direct overrides. Loading succeeds exactly if each
source can be read and holds only what belongs to settings, and the verbosity exists. Then every
setting has the value of the last source that gives one, or the standard value.
-/

namespace GoMetrics

open Setting

/-! Options of the command -/

namespace Setting

open CommandLine

/-- The value that the options of the command give to a setting. An option that is left alone gives
none, and none sets `strict`. -/
def option? (g : Given) (c : Checked) : Setting → Option Value
  | .cyclomaticOver => c.cyclomaticOver.map .int
  | .maintainabilityUnder => c.maintainabilityUnder.map .int
  | .selfImportDepth => c.selfImportDepth.map .int
  | .includeTests => g.tests?.map .bool
  | .csvStats => if g.has .csvStats then some (.bool true) else none
  | .csvTotals => if g.has .csvTotals then some (.bool true) else none
  | .failOnIssues => if g.has .mustFail then some (.bool true) else none
  | .strict => none
  | .verbosity =>
    if g.has .quiet then some (.text "quiet")
    else if g.has .verbose then some (.text "verbose")
    else none

theorem keywords_overrides (g : Given) (c : Checked) : Keywords (overrides g c) := by
  have hnames : (overrides g c).names = ["cyclomatic_over", "maintainability_under",
      "self_import_depth", "include_tests", "verbose", "quiet"] ++
      (if g.has .csvStats then ["csv_stats"] else []) ++
      (if g.has .csvTotals then ["csv_totals"] else []) ++
      (if g.has .mustFail then ["fail_on_issues"] else []) := by
    simp only [Table.names, overrides, List.map_append, apply_ite (List.map _)]
    rfl
  constructor <;> rw [hnames]
  · cases g.has .csvStats <;> cases g.has .csvTotals <;> cases g.has .mustFail <;> decide
  · cases g.has .csvStats <;> cases g.has .csvTotals <;> cases g.has .mustFail <;> decide

theorem filter_cons_standsAlone {α : Type} {key : String} (h : key ≠ "verbose" ∧ key ≠ "quiet")
    (wrap : α → Value) (hwrap : ∀ a, (wrap a).isNone = false) (o : Option α) (t : Table) :
    List.filter standsAlone ((key, (o.map wrap).getD .none) :: t) =
      ((o.map wrap).map (key, ·)).toList ++ t.filter standsAlone := by
  cases o with
  | none => simp [standsAlone, Value.isNone]
  | some a => exact List.filter_cons_of_pos (by simp [standsAlone, h, hwrap])

theorem filter_flag {key : String} (h : key ≠ "verbose" ∧ key ≠ "quiet") (b : Bool) :
    List.filter standsAlone (if b then [(key, .bool true)] else []) =
      ((if b then some (.bool true) else none : Option Value).map (key, ·)).toList := by
  cases b <;> simp [standsAlone, h, Value.isNone]

/-- The options that were given, as entries. -/
theorem filter_overrides (g : Given) (c : Checked) : (overrides g c).filter standsAlone =
    [cyclomaticOver, maintainabilityUnder, selfImportDepth, includeTests, csvStats, csvTotals,
      failOnIssues].filterMap fun f => (f.option? g c).map (f.key, ·) := by
  have hcons (f : Setting) (fs : List Setting) :
      (f :: fs).filterMap (fun f => (f.option? g c).map (f.key, ·)) =
        ((f.option? g c).map (f.key, ·)).toList ++
          fs.filterMap fun f => (f.option? g c).map (f.key, ·) := by
    rw [List.filterMap_cons]
    cases f.option? g c <;> rfl
  simp only [overrides, List.filter_append, hcons, List.filterMap_nil, List.append_assoc]
  simp (disch := decide) only [filter_flag]
  rw [filter_cons_standsAlone (by decide) Value.int fun _ => rfl,
    filter_cons_standsAlone (by decide) Value.int fun _ => rfl,
    filter_cons_standsAlone (by decide) Value.int fun _ => rfl,
    filter_cons_standsAlone (by decide) Value.bool fun _ => rfl]
  simp [option?, key, standsAlone]

theorem overriddenBy?_overrides (f : Setting) (g : Given) (c : Checked) :
    f.overriddenBy? (overrides g c) = f.option? g c := by
  have hquiet : asks (overrides g c) "quiet" = g.has .quiet := by
    simp [asks, Table.get?, overrides, List.lookup_cons, Value.isSet]
  have hverbose : asks (overrides g c) "verbose" = g.has .verbose := by
    simp [asks, Table.get?, overrides, List.lookup_cons, Value.isSet]
  rw [overriddenBy?, hquiet, hverbose, filter_overrides, givenBy?_filterMap (by decide)]
  cases f with
  | strict => rfl
  | verbosity => simp [option?]
  | _ => simp

end Setting

/-! All sources together -/

/-- Sources that can all be read are merged like one long table. -/
theorem Layers.foldlM_merge_eq_ok {sources : List (Except Failure Table)} {l l' : Layers} :
    sources.foldlM (fun (l : Layers) source => do
        (l.merge (← source)).mapError Failure.complaint) l = .ok l' ↔
      ∃ ts, List.Forall₂ (fun source t => source = .ok t) sources ts ∧
        l.merge ts.flatten = .ok l' := by
  induction sources generalizing l with
  | nil => simp [List.forall₂_nil_left_iff, merge, Except.pure_eq_ok]
  | cons source sources ih =>
      simp only [List.foldlM_cons, Except.bind_eq_ok, Except.mapError_eq_ok, ih,
        List.forall₂_cons_left_iff]
      constructor
      · rintro ⟨mid, ⟨t, ht, hmid⟩, ts, hts, hl⟩
        refine ⟨t :: ts, ⟨t, ts, ht, hts, rfl⟩, ?_⟩
        rw [List.flatten_cons, merge_append, hmid]
        exact hl
      · rintro ⟨_, ⟨t, ts, ht, hts, rfl⟩, hl⟩
        rw [List.flatten_cons, merge_append] at hl
        obtain ⟨mid, hmid, hl⟩ := Except.bind_eq_ok.1 hl
        exact ⟨mid, ⟨t, ht, hmid⟩, ts, hts, hl⟩

namespace Settings

variable {fs : FileTree} {env : List (String × String)} {explicit : Option Path}
  {overrides : Table} {s : Settings}

/-- What each source gives to a setting, from the weakest to the strongest. -/
def givers (fs : FileTree) (env : List (String × String)) (explicit : Option Path)
    (overrides : Table) (f : Setting) : List (Option Value) :=
  [(fs.settingsAt? (userFile fs)).bind f.givenBy?,
    (fs.settingsAt? (projectFile fs)).bind f.givenBy?,
    (explicit.bind fs.settingsAt?).bind f.givenBy?, f.inEnvironment? env,
    f.overriddenBy? overrides]

/-- The value of the last source that gives one, or the standard value. -/
def chosen (fs : FileTree) (env : List (String × String)) (explicit : Option Path)
    (overrides : Table) (f : Setting) : Value :=
  ((givers fs env explicit overrides f).reverse.findSome? id).getD f.standard

/-- Every source can be read and holds only what belongs to settings. A file that was asked for by
name has to exist; the other two need not. -/
structure Readable (fs : FileTree) (env : List (String × String)) (explicit : Option Path)
    (overrides : Table) : Prop where
  user : Usable fs (userFile fs)
  project : Usable fs (projectFile fs)
  named : ∀ p, explicit = some p → fs.exists? p = .ok true ∧ (fs.settingsAt? p).isSome
  environment : ∀ f : Setting, ∀ text, f.textIn? env = some text → (f.read? text).isSome
  tables : ∀ p, p = userFile fs ∨ p = projectFile fs ∨ explicit = some p →
    ∀ t, fs.settingsAt? p = some t → ∀ key v, (key, v) ∈ t → Belongs key v
  keywords : ∀ key v, (key, v) ∈ overrides.filter standsAlone → Belongs key v

/-- What loading needs: readable sources, and a verbosity that exists in the end. -/
structure Loadable (fs : FileTree) (env : List (String × String)) (explicit : Option Path)
    (overrides : Table) : Prop extends Readable fs env explicit overrides where
  verbosity : ∃ w : Verbosity, chosen fs env explicit overrides .verbosity = .text w.name

/-- The tables of all sources, that of the environment being `t`. -/
def tablesWith (fs : FileTree) (explicit : Option Path) (overrides t : Table) : List Table :=
  [(fs.settingsAt? (userFile fs)).getD [], (fs.settingsAt? (projectFile fs)).getD [],
    (explicit.bind fs.settingsAt?).getD [], t, overrideTable overrides]

theorem sources_eq_ok {ts : List Table} :
    List.Forall₂ (fun source t => source = .ok t) (sources fs env explicit overrides) ts ↔
      Usable fs (userFile fs) ∧ Usable fs (projectFile fs) ∧
        (∀ p, explicit = some p → fs.exists? p = .ok true ∧ (fs.settingsAt? p).isSome) ∧
        ∃ t, Environment.table env = .ok t ∧ ts = tablesWith fs explicit overrides t := by
  simp only [sources, List.forall₂_cons_left_iff, List.forall₂_nil_left_iff, optionalFile_eq_ok,
    explicitFile_eq_ok, Except.mapError_eq_ok, Except.ok.injEq]
  constructor
  · rintro ⟨_, _, ⟨hu, rfl⟩, ⟨_, _, ⟨hp, rfl⟩, ⟨_, _, ⟨he, rfl⟩,
      ⟨t, _, ht, ⟨_, _, rfl, rfl, rfl⟩, rfl⟩, rfl⟩, rfl⟩, rfl⟩
    exact ⟨hu, hp, he, t, ht, rfl⟩
  · rintro ⟨hu, hp, he, t, ht, rfl⟩
    exact ⟨_, _, ⟨hu, rfl⟩, ⟨_, _, ⟨hp, rfl⟩, ⟨_, _, ⟨he, rfl⟩,
      ⟨t, _, ht, ⟨_, _, rfl, rfl, rfl⟩, rfl⟩, rfl⟩, rfl⟩, rfl⟩

theorem givenBy?_getD (f : Setting) (t : Option Table) :
    f.givenBy? (t.getD []) = t.bind f.givenBy? := by
  cases t <;> rfl

theorem mem_getD {t : Option Table} {entry : String × Value} :
    entry ∈ t.getD [] ↔ ∃ u, t = some u ∧ entry ∈ u := by
  cases t <;> simp

theorem findSome?_id_cons {α : Type} (o : Option α) (os : List (Option α)) :
    (o :: os).findSome? id = o.or (os.findSome? id) := by
  cases o <;> rfl

/-- The last entry of all tables that sets something is in the last table that does. -/
theorem givenBy?_tablesWith (hk : Keywords overrides) {t : Table}
    (ht : Environment.table env = .ok t) (f : Setting) :
    f.givenBy? (tablesWith fs explicit overrides t).flatten =
      (givers fs env explicit overrides f).reverse.findSome? id := by
  simp only [tablesWith, List.flatten_cons, List.flatten_nil, givenBy?_append, givenBy?_getD,
    givenBy?_environment ht, givenBy?_overrideTable hk]
  simp [givers, givenBy?, Option.or_assoc, findSome?_id_cons]

theorem belongs_tablesWith {t : Table} (ht : Environment.table env = .ok t) :
    (∀ key v, (key, v) ∈ (tablesWith fs explicit overrides t).flatten → Belongs key v) ↔
      (∀ p, p = userFile fs ∨ p = projectFile fs ∨ explicit = some p →
        ∀ t, fs.settingsAt? p = some t → ∀ key v, (key, v) ∈ t → Belongs key v) ∧
      ∀ key v, (key, v) ∈ overrides.filter standsAlone → Belongs key v := by
  rw [← belongs_overrideTable]
  simp only [tablesWith, List.flatten_cons, List.flatten_nil, List.mem_append, mem_getD,
    List.not_mem_nil, or_false]
  constructor
  · intro h
    refine ⟨fun p hp t ht key v hmem => h key v ?_, fun key v hmem => h key v ?_⟩
    · obtain rfl | rfl | rfl := hp
      · exact .inl ⟨t, ht, hmem⟩
      · exact .inr (.inl ⟨t, ht, hmem⟩)
      · exact .inr (.inr (.inl ⟨t, ht, hmem⟩))
    · exact .inr (.inr (.inr (.inr hmem)))
  · rintro ⟨hfiles, hover⟩ key v (⟨t, h, hmem⟩ | ⟨t, h, hmem⟩ | ⟨t, h, hmem⟩ | hmem | hmem)
    · exact hfiles _ (.inl rfl) t h key v hmem
    · exact hfiles _ (.inr (.inl rfl)) t h key v hmem
    · obtain ⟨p, rfl, hp⟩ := Option.bind_eq_some_iff.1 h
      exact hfiles p (.inr (.inr rfl)) t hp key v hmem
    · exact belongs_environment ht hmem
    · exact hover key v hmem

theorem get?_eq_none {t : Table} {key : String} (h : key ∉ t.names) : t.get? key = none := by
  refine List.lookup_eq_none_iff.2 fun entry hmem => bne_iff_ne.2 ?_
  rintro rfl
  exact h (List.mem_map_of_mem hmem)

theorem load_eq (hk : Keywords overrides) : load fs env explicit overrides =
    (sources fs env explicit overrides).foldlM (fun (l : Layers) source => do
      (l.merge (← source)).mapError Failure.complaint) {} >>= Layers.settle := by
  rw [load, get?_eq_none hk.file]
  rfl

/-- The tables of all sources, merged: every setting is the one that is chosen. -/
theorem get?_merge_tablesWith (hk : Keywords overrides) {t : Table}
    (ht : Environment.table env = .ok t) {l : Layers}
    (hl : ({} : Layers).merge (tablesWith fs explicit overrides t).flatten = .ok l) (f : Setting) :
    (l.get? f).getD f.standard = chosen fs env explicit overrides f := by
  have hnone : ({} : Layers).get? f = none := by
    cases f <;> rfl
  rw [Layers.get?_merge hl, hnone, Option.or_none, givenBy?_tablesWith hk ht, chosen]

/-- Readable sources come to layers that hold what is chosen. -/
theorem load_eq_settle (hk : Keywords overrides) (hr : Readable fs env explicit overrides) :
    ∃ l : Layers, l.Known ∧
      (∀ f, (l.get? f).getD f.standard = chosen fs env explicit overrides f) ∧
      load fs env explicit overrides = l.settle := by
  have ht := table_eq_ok.2 ⟨hr.environment, rfl⟩
  obtain ⟨l, hl, hknown⟩ := Layers.merge_known.2
    ⟨(belongs_tablesWith ht).2 ⟨hr.tables, hr.keywords⟩, (⟨nofun, nofun⟩ : ({} : Layers).Known)⟩
  refine ⟨l, hknown, get?_merge_tablesWith hk ht hl, ?_⟩
  rw [load_eq hk, Layers.foldlM_merge_eq_ok.2
    ⟨_, sources_eq_ok.2 ⟨hr.user, hr.project, hr.named, _, ht, rfl⟩, hl⟩]
  rfl

/-- Loading with readable sources: every setting is the one that was chosen. -/
theorem load_eq_ok (hk : Keywords overrides) : load fs env explicit overrides = .ok s ↔
    Readable fs env explicit overrides ∧ ∀ f, s.value f = chosen fs env explicit overrides f := by
  constructor
  · rw [load_eq hk]
    simp only [Except.bind_eq_ok, Layers.foldlM_merge_eq_ok, sources_eq_ok, Layers.settle_eq_ok]
    rintro ⟨l, ⟨_, ⟨hu, hp, he, t, ht, rfl⟩, hl⟩, hknown, hval⟩
    have hb := (belongs_tablesWith ht).1 (Layers.merge_known.1 ⟨l, hl, hknown⟩).1
    refine ⟨⟨hu, hp, he, (table_eq_ok.1 ht).1, hb.1, hb.2⟩, fun f => ?_⟩
    rw [hval, get?_merge_tablesWith hk ht hl]
  · rintro ⟨hr, hval⟩
    obtain ⟨l, hknown, hget, heq⟩ := load_eq_settle hk hr
    rw [heq, Layers.settle_eq_ok]
    exact ⟨hknown, fun f => (hval f).trans (hget f).symm⟩

theorem exists_value {value : Setting → Value} {w : Verbosity}
    (hw : value .verbosity = .text w.name) : ∃ s : Settings, ∀ f, s.value f = value f := by
  refine ⟨⟨⟨value .cyclomaticOver, value .maintainabilityUnder, value .selfImportDepth⟩,
    value .csvStats, value .csvTotals, value .failOnIssues, value .includeTests, value .strict, w⟩,
    fun f => ?_⟩
  cases f with
  | verbosity => exact hw.symm
  | _ => rfl

variable (fs env explicit) in
/-- Loading succeeds exactly if the sources are loadable, and then every setting has the value of
the last source that gives one, or the standard value. What sets one setting does not touch another,
and options of the command that are left alone set nothing. -/
theorem load_precedence (hk : Keywords overrides) :
    ((∃ s, load fs env explicit overrides = .ok s) ↔ Loadable fs env explicit overrides) ∧
      (∀ s, load fs env explicit overrides = .ok s →
        ∀ f, s.value f = chosen fs env explicit overrides f) ∧
      (∀ f g : Setting, g ≠ f → ∀ v, f.setBy? g.key v = none ∧
        ∀ t : Table, (∀ k ∈ t.names, k = g.key) → f.setBy? "thresholds" (.table t) = none) ∧
      ∀ (g : CommandLine.Given) (c : CommandLine.Checked),
        Keywords (CommandLine.overrides g c) ∧
          ∀ f : Setting, f.overriddenBy? (CommandLine.overrides g c) = f.option? g c := by
  refine ⟨?_, fun s hs => ((load_eq_ok hk).1 hs).2, fun f g hne v => setBy?_other hne v,
    fun g c => ⟨keywords_overrides g c, fun f => overriddenBy?_overrides f g c⟩⟩
  constructor
  · rintro ⟨s, hs⟩
    obtain ⟨hr, hval⟩ := (load_eq_ok hk).1 hs
    exact ⟨hr, s.verbosity, (hval .verbosity).symm⟩
  · rintro ⟨hr, w, hw⟩
    obtain ⟨s, hval⟩ := exists_value hw
    exact ⟨s, (load_eq_ok hk).2 ⟨hr, hval⟩⟩

/-- A user's file with two thresholds in a table, and a project's file with one of them flat. -/
def layeredTree : FileTree where
  entries :=
    [(["home"], .dir),
      (["home", ".go-complexity.toml"], .file ⟨[], .empty, .table [("thresholds", .table
        [("cyclomatic_over", .int 15), ("maintainability_under", .int 30)])]⟩),
      (["work"], .dir),
      (["work", "go-complexity.toml"], .file ⟨[], .empty, .table [("cyclomatic_over", .int 12)]⟩)]
  work := ["work"]
  home := ["home"]

def layeredOverrides : Table :=
  [("self_import_depth", .none), ("quiet", .bool true)]

/-- The project's file wins over the user's where it says something, and only there. -/
theorem load_precedence_layeredTree : Keywords layeredOverrides ∧
    ∃ s, load layeredTree [("GO_COMPLEXITY_STRICT", "Yes")] none layeredOverrides = .ok s ∧
      s.value .cyclomaticOver = .int 12 ∧ s.value .maintainabilityUnder = .int 30 ∧
      s.value .selfImportDepth = .int (-1) ∧ s.value .strict = .bool true ∧
      s.value .verbosity = .text "quiet" := by
  have hk : Keywords layeredOverrides := ⟨by decide, by decide⟩
  obtain ⟨-, hval, -⟩ :=
    load_precedence layeredTree [("GO_COMPLEXITY_STRICT", "Yes")] none hk
  obtain ⟨s, hs⟩ := Except.exists_eq_ok
    (x := load layeredTree [("GO_COMPLEXITY_STRICT", "Yes")] none layeredOverrides)
    (by decide +kernel)
  refine ⟨hk, s, hs, ?_, ?_, ?_, ?_, ?_⟩ <;> rw [hval s hs] <;> with_unfolding_all rfl

end Settings
end GoMetrics
