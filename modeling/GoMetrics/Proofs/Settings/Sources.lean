import Mathlib.Data.List.Nodup
import GoMetrics.Proofs.Settings.Layers

/-!
What each source of settings gives. A file gives the table that it holds, the environment an entry
for every variable that is there, and direct overrides what is not `Value.none`, with questions for
more or less output answered by a verbosity.
-/

namespace GoMetrics

open Setting

/-! Files -/

namespace FileTree

variable {fs : FileTree} {p : Path} {t : Table}

/-- The table that a configuration file holds, if it can be read and parsed. -/
def settingsAt? (fs : FileTree) (p : Path) : Option Table :=
  match fs.read p with
  | .ok ⟨_, _, .table t⟩ => some t
  | _ => none

theorem exists?_of_read {doc : Document} (h : fs.read p = .ok doc) : fs.exists? p = .ok true := by
  obtain ⟨place, hplace, hdoc⟩ := Except.bind_eq_ok.1 h
  cases hg : fs.get? place with
  | none =>
      rw [hg] at hdoc
      cases hdoc
  | some e =>
      rw [exists?, entry?, hplace]
      simp only [hg]
      rfl

theorem exists?_of_settingsAt? (h : fs.settingsAt? p = some t) : fs.exists? p = .ok true := by
  cases hr : fs.read p with
  | error f =>
      rw [settingsAt?, hr] at h
      cases h
  | ok doc => exact exists?_of_read hr

theorem settingsAt?_of_absent (h : fs.exists? p = .ok false) : fs.settingsAt? p = none :=
  Option.eq_none_iff_forall_ne_some.2 fun _ ht =>
    nomatch h.symm.trans (exists?_of_settingsAt? ht)

end FileTree

namespace Settings

variable {fs : FileTree} {p : Path} {t : Table}

theorem fileTable_eq_ok : fileTable fs p = .ok t ↔ fs.settingsAt? p = some t := by
  rw [fileTable, FileTree.settingsAt?]
  cases fs.read p with
  | error f => cases f <;> simp
  | ok doc =>
      obtain ⟨bytes, tree, parsed⟩ := doc
      cases parsed <;> simp

/-- A file that is looked for before it is read. -/
theorem lookedFor_eq_ok {absent : Except Failure Table} :
    (do if ← (fs.exists? p).mapError Failure.access then fileTable fs p else absent) = .ok t ↔
      fs.exists? p = .ok false ∧ absent = .ok t ∨ fs.settingsAt? p = some t := by
  simp only [Except.bind_eq_ok, Except.mapError_eq_ok]
  constructor
  · rintro ⟨present, hp, h⟩
    cases present with
    | false => exact .inl ⟨hp, h⟩
    | true => exact .inr (fileTable_eq_ok.1 h)
  · rintro (⟨hp, h⟩ | h)
    · exact ⟨false, hp, h⟩
    · exact ⟨true, FileTree.exists?_of_settingsAt? h, fileTable_eq_ok.2 h⟩

/-- A configuration file that is not in the way: there is none, or it can be read and parsed. -/
def Usable (fs : FileTree) (p : Path) : Prop :=
  fs.exists? p = .ok false ∨ (fs.settingsAt? p).isSome

theorem optionalFile_eq_ok :
    optionalFile fs p = .ok t ↔ Usable fs p ∧ t = (fs.settingsAt? p).getD [] := by
  rw [optionalFile, lookedFor_eq_ok, Usable, Except.pure_eq_ok]
  cases h : fs.settingsAt? p with
  | none => simp [eq_comm]
  | some u =>
      have hne : fs.exists? p ≠ .ok false := fun ha =>
        nomatch h.symm.trans (FileTree.settingsAt?_of_absent ha)
      simp [hne, eq_comm]

theorem explicitFile_eq_ok {explicit : Option Path} :
    explicitFile fs explicit = .ok t ↔
      (∀ p, explicit = some p → fs.exists? p = .ok true ∧ (fs.settingsAt? p).isSome) ∧
        t = (explicit.bind fs.settingsAt?).getD [] := by
  cases explicit with
  | none =>
      exact ⟨fun h => ⟨nofun, (Except.ok.inj h).symm⟩, fun h => congrArg Except.ok h.2.symm⟩
  | some p =>
      rw [explicitFile, lookedFor_eq_ok]
      cases h : fs.settingsAt? p with
      | none => simp [h]
      | some u => simp [h, FileTree.exists?_of_settingsAt? h, eq_comm (a := t)]

end Settings

/-! The environment -/

namespace Setting

variable {f : Setting} {env : List (String × String)}

/-- The settings in the order in which the environment is asked for them. -/
def all : List Setting :=
  [.csvStats, .csvTotals, .failOnIssues, .includeTests, .strict, .verbosity, .cyclomaticOver,
    .maintainabilityUnder, .selfImportDepth]

/-- What a text is worth as the value of a setting: thresholds are whole numbers, the verbosity is
taken as it stands, and everything else is a switch. -/
def read? (f : Setting) (text : String) : Option Value :=
  if f.isThreshold then (Text.readInt text).toOption.map .int
  else if f = .verbosity then some (.text text)
  else (Environment.switch? text).map .bool

/-- The text of a setting's variable. -/
def textIn? (f : Setting) (env : List (String × String)) : Option String :=
  env.lookup (Environment.variableName f.key)

/-- The value that the environment gives to a setting. -/
def inEnvironment? (f : Setting) (env : List (String × String)) : Option Value :=
  (f.textIn? env).bind f.read?

theorem value_eq_ok {text : String} {v : Value} :
    Environment.value f.key text = .ok v ↔ f.read? text = some v := by
  have hswitch : Environment.switches.contains f.key = (!f.isThreshold && f != .verbosity) := by
    cases f <;> decide
  have hverb : f.key = "verbosity" ↔ f = .verbosity := by
    cases f <;> decide
  simp only [Environment.value, hswitch, hverb, read?]
  by_cases hf : f = .verbosity
  · subst hf
    simp [isThreshold]
  · cases f.isThreshold with
    | false => cases Environment.switch? text <;> simp [hf]
    | true => cases Text.readInt text <;> simp [hf, Except.toOption]

/-- The entry that the environment gives for a key. -/
def entryFor (env : List (String × String)) (key : String) :
    Except Complaint (Option (String × Value)) :=
  match env.lookup (Environment.variableName key) with
  | none => .ok none
  | some text => do return some (key, ← Environment.value key text)

theorem entryFor_eq_ok {o : Option (String × Value)} : entryFor env f.key = .ok o ↔
    (∀ text, f.textIn? env = some text → (f.read? text).isSome) ∧
      (f.inEnvironment? env).map (f.key, ·) = o := by
  rw [entryFor, inEnvironment?, textIn?]
  cases env.lookup (Environment.variableName f.key) with
  | none => exact ⟨fun h => ⟨nofun, Except.ok.inj h⟩, fun h => congrArg Except.ok h.2⟩
  | some text =>
      simp only [Except.map_eq_ok, bind_pure_comp, value_eq_ok]
      cases h : f.read? text <;> simp [h]

theorem mem_all (f : Setting) : f ∈ all := by
  cases f <;> decide

/-- The environment gives a table exactly if every text that is there is worth a value. -/
theorem table_eq_ok {t : Table} : Environment.table env = .ok t ↔
    (∀ f : Setting, ∀ text, f.textIn? env = some text → (f.read? text).isSome) ∧
      all.filterMap (fun f => (f.inEnvironment? env).map (f.key, ·)) = t := by
  change (all.map key).filterMapM (entryFor env) = .ok t ↔ _
  simp only [Except.filterMapM_eq_ok, Except.mapM_eq_ok, List.forall₂_map_left_iff, entryFor_eq_ok,
    List.forall₂_and_left, mem_all, forall_const]
  simp only [← Except.reduceOption_map, List.forall₂_eq_eq_eq,
    ← List.forall₂_map_left_iff (f := fun f => (inEnvironment? f env).map (f.key, ·))]
  constructor
  · rintro ⟨os, ⟨h, rfl⟩, rfl⟩
    exact ⟨h, rfl⟩
  · rintro ⟨h, rfl⟩
    exact ⟨_, ⟨h, rfl⟩, rfl⟩

theorem key_injective {f g : Setting} (h : f.key = g.key) : f = g :=
  List.inj_on_of_nodup_map (by decide) f.mem_all g.mem_all h

theorem setBy?_key (f g : Setting) (v : Value) :
    f.setBy? g.key v = if g = f then some v else none := by
  unfold setBy?
  by_cases h : g = f
  · simp [h]
  · simp [h, g.key_ne_thresholds, show g.key ≠ f.key from fun hk => h (key_injective hk)]

/-- An entry that sets one setting, by itself or in a table of thresholds, sets no other. -/
theorem setBy?_other {f g : Setting} (hne : g ≠ f) (v : Value) :
    f.setBy? g.key v = none ∧
      ∀ t : Table, (∀ k ∈ t.names, k = g.key) → f.setBy? "thresholds" (.table t) = none := by
  refine ⟨(setBy?_key f g v).trans (if_neg hne), fun t ht => ?_⟩
  have hlast : t.last? f.key = none := by
    refine List.lookup_eq_none_iff.2 fun entry hmem => bne_iff_ne.2 fun h => hne ?_
    have hk := ht entry.1 (List.mem_map_of_mem (List.mem_reverse.1 hmem))
    exact key_injective (hk.symm.trans h.symm)
  rw [setBy?, if_neg f.key_ne_thresholds.symm]
  split
  · exact hlast
  · rfl

/-- Of a table with an entry for some of the settings, each setting has its own value. -/
theorem givenBy?_filterMap {gs : List Setting} (hnd : gs.Nodup) (value : Setting → Option Value) :
    f.givenBy? (gs.filterMap fun g => (value g).map (g.key, ·)) =
      if f ∈ gs then value f else none := by
  induction gs with
  | nil => rfl
  | cons g gs ih =>
      obtain ⟨hg, hnd⟩ := List.nodup_cons.1 hnd
      cases hv : value g with
      | none =>
          rw [List.filterMap_cons_none (by rw [hv]; rfl), ih hnd]
          grind
      | some v =>
          rw [List.filterMap_cons_some (b := (g.key, v)) (by rw [hv]; rfl), givenBy?_cons, ih hnd,
            setBy?_key]
          grind

theorem givenBy?_environment {t : Table} (h : Environment.table env = .ok t) :
    f.givenBy? t = f.inEnvironment? env := by
  obtain ⟨-, rfl⟩ := table_eq_ok.1 h
  rw [givenBy?_filterMap (by decide), if_pos f.mem_all]

theorem belongs_environment {t : Table} (h : Environment.table env = .ok t) {key : String}
    {v : Value} (hmem : (key, v) ∈ t) : Belongs key v := by
  obtain ⟨-, rfl⟩ := table_eq_ok.1 h
  obtain ⟨f, -, hf⟩ := List.mem_filterMap.1 hmem
  obtain ⟨v, -, heq⟩ := Option.map_eq_some_iff.1 hf
  cases heq
  exact .single f v

/-! Direct overrides -/

/-- Overrides as the caller of a function gives them: no name comes twice, and the name of the
explicit file is taken. -/
structure Keywords (overrides : Table) : Prop where
  nodup : overrides.names.Nodup
  file : Settings.fileKey ∉ overrides.names

/-- An override that sets something by itself: it has a value, and it is no question for more or
less output. -/
def standsAlone (entry : String × Value) : Bool :=
  !entry.2.isNone && (entry.1 != "verbose" && entry.1 != "quiet")

/-- Whether the overrides ask for something. -/
def asks (overrides : Table) (key : String) : Bool :=
  ((overrides.get? key).map Value.isSet).getD false

/-- The value that the overrides give to a setting. To ask for quiet output counts for more than to
ask for verbose output, and both count for more than a verbosity that is given. -/
def overriddenBy? (f : Setting) (overrides : Table) : Option Value :=
  if f = .verbosity ∧ asks overrides "quiet" then some (.text "quiet")
  else if f = .verbosity ∧ asks overrides "verbose" then some (.text "verbose")
  else f.givenBy? (overrides.filter standsAlone)

variable {t : Table} {k : String} {v : Value} {p : String × Value → Bool}

theorem givenBy?_filter_cons (entry : String × Value) (t : Table) :
    f.givenBy? ((entry :: t).filter p) =
      (f.givenBy? (t.filter p)).or (if p entry then f.setBy? entry.1 entry.2 else none) := by
  rw [List.filter_cons]
  cases p entry with
  | false => simp
  | true => exact givenBy?_cons f entry.1 entry.2 _

/-- To set something else leaves a setting as it was. -/
theorem givenBy?_filter_set (h : ∀ v, f.setBy? k v = none) :
    f.givenBy? ((t.set k v).filter p) = f.givenBy? (t.filter p) := by
  induction t with
  | nil => rw [Table.set, givenBy?_filter_cons, h, ite_self, Option.or_none]
  | cons entry t ih =>
      obtain ⟨k', u⟩ := entry
      rw [Table.set, givenBy?_filter_cons]
      split
      · next hk =>
          rw [givenBy?_filter_cons, hk, h, h, ite_self, ite_self]
      · rw [givenBy?_filter_cons, ih]

theorem setBy?_of_ne (ht : f.isThreshold = false) (h : k ≠ f.key) : f.setBy? k v = none := by
  simp [setBy?, h, ht]

theorem givenBy?_of_not_mem (ht : f.isThreshold = false) (h : f.key ∉ t.names) :
    f.givenBy? (t.filter p) = none := by
  induction t with
  | nil => rfl
  | cons entry t ih =>
      obtain ⟨hne, h⟩ := not_or.1 (mt List.mem_cons.2 h)
      rw [givenBy?_filter_cons, ih h, setBy?_of_ne ht (Ne.symm hne), ite_self]
      rfl

/-- A setting that is set has the value that it was set to. -/
theorem givenBy?_filter_set_self (ht : f.isThreshold = false) (hnd : t.names.Nodup)
    (hp : p (f.key, v) = true) : f.givenBy? ((t.set f.key v).filter p) = some v := by
  induction t with
  | nil =>
      rw [Table.set, givenBy?_filter_cons, hp, if_pos rfl, setBy?_key, if_pos rfl]
      rfl
  | cons entry t ih =>
      obtain ⟨k', u⟩ := entry
      obtain ⟨hmem, hnd⟩ := List.nodup_cons.1 hnd
      rw [Table.set]
      split
      · next hk =>
          subst hk
          rw [givenBy?_filter_cons, givenBy?_of_not_mem ht hmem, hp, if_pos rfl, setBy?_key,
            if_pos rfl]
          rfl
      · rw [givenBy?_filter_cons, ih hnd, Option.some_or]

theorem nodup_names_set (hnd : t.names.Nodup) : (t.set k v).names.Nodup := by
  induction t with
  | nil => simp [Table.set, Table.names]
  | cons entry t ih =>
      obtain ⟨k', u⟩ := entry
      obtain ⟨hmem, hrest⟩ := List.nodup_cons.1 hnd
      rw [Table.set]
      split
      · exact hnd
      · next hk =>
          refine List.nodup_cons.2 ⟨fun h => ?_, ih hrest⟩
          exact (Table.mem_names_set.1 h).elim hk hmem

theorem mem_set_of_ne {entry : String × Value} (h : entry.1 ≠ k) :
    entry ∈ t.set k v ↔ entry ∈ t := by
  have hne (u : Value) : entry ≠ (k, u) := by
    rintro rfl
    exact h rfl
  induction t with
  | nil => simp [Table.set, hne]
  | cons e t ih =>
      obtain ⟨k', u⟩ := e
      rw [Table.set]
      split
      · next hk =>
          subst hk
          simp [hne]
      · simp [ih]

variable {overrides : Table}

/-- A question for more or less output, answered by a verbosity. -/
def answer (overrides : Table) (key : String) (t : Table) : Table :=
  if asks overrides key then t.set "verbosity" (.text key) else t

theorem overrideTable_eq : Settings.overrideTable overrides =
    (answer overrides "quiet" (answer overrides "verbose"
      (overrides.filter fun entry => entry.1 != "verbose" && entry.1 != "quiet"))).filter
        fun entry => !entry.2.isNone :=
  rfl

theorem nodup_answer (hnd : t.names.Nodup) : (answer overrides k t).names.Nodup := by
  unfold answer
  split
  · exact nodup_names_set hnd
  · exact hnd

theorem givenBy?_answer (hnd : t.names.Nodup) :
    f.givenBy? ((answer overrides k t).filter fun entry => !entry.2.isNone) =
      if f = .verbosity ∧ asks overrides k then some (.text k)
      else f.givenBy? (t.filter fun entry => !entry.2.isNone) := by
  unfold answer
  cases asks overrides k with
  | false => simp
  | true =>
      by_cases hf : f = .verbosity
      · subst hf
        rw [if_pos rfl, if_pos ⟨rfl, rfl⟩]
        exact givenBy?_filter_set_self (f := .verbosity) rfl hnd rfl
      · rw [if_pos rfl, if_neg fun h => hf h.1]
        exact givenBy?_filter_set fun v => (setBy?_key f .verbosity v).trans (if_neg (Ne.symm hf))

theorem belongs_answer : (∀ key v, (key, v) ∈ (answer overrides k t).filter p → Belongs key v) ↔
    ∀ key v, (key, v) ∈ t.filter p → Belongs key v := by
  have hmem {key : String} {v : Value} (h : key ≠ "verbosity") :
      (key, v) ∈ answer overrides k t ↔ (key, v) ∈ t := by
    unfold answer
    split
    · exact mem_set_of_ne h
    · rfl
  refine forall₂_congr fun key v => ?_
  by_cases hkey : key = "verbosity"
  · subst hkey
    exact iff_of_true (fun _ => .single .verbosity v) fun _ => .single .verbosity v
  · rw [List.mem_filter, List.mem_filter, hmem hkey]

theorem filter_standsAlone : overrides.filter standsAlone =
    (overrides.filter fun entry => entry.1 != "verbose" && entry.1 != "quiet").filter
      fun entry => !entry.2.isNone :=
  List.filter_filter.symm

theorem givenBy?_overrideTable (hk : Keywords overrides) :
    f.givenBy? (Settings.overrideTable overrides) = f.overriddenBy? overrides := by
  have hnd : Table.names
      (overrides.filter fun entry => entry.1 != "verbose" && entry.1 != "quiet") |>.Nodup :=
    (List.filter_sublist.map _).nodup hk.nodup
  rw [overrideTable_eq, givenBy?_answer (nodup_answer hnd), givenBy?_answer hnd, overriddenBy?,
    filter_standsAlone]

theorem belongs_overrideTable :
    (∀ key v, (key, v) ∈ Settings.overrideTable overrides → Belongs key v) ↔
      ∀ key v, (key, v) ∈ overrides.filter standsAlone → Belongs key v := by
  rw [overrideTable_eq, belongs_answer, belongs_answer, filter_standsAlone]

end Setting
end GoMetrics
