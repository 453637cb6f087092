import Mathlib.Data.List.Nodup
import GoMetrics.FileTree
import GoMetrics.Proofs.Path

/-!
Well-formed file systems. Everything has a place of its own, in a directory, under a name that a
name can be. There, what is listed inside a directory is what can be found by its place, and a way
down from a directory leads where its names say.
-/

namespace GoMetrics.FileTree

/-- What something in a directory can be called. -/
structure IsName (name : String) : Prop where
  ne_empty : name ≠ ""
  ne_self : name ≠ "."
  ne_parent : name ≠ ".."
  no_slash : '/' ∉ name.toList
  no_nul : '\x00' ∉ name.toList
  short : name.utf8ByteSize ≤ nameLimit

instance : DecidablePred IsName := fun name =>
  decidable_of_iff (name ≠ "" ∧ name ≠ "." ∧ name ≠ ".." ∧ '/' ∉ name.toList ∧
      '\x00' ∉ name.toList ∧ name.utf8ByteSize ≤ nameLimit)
    ⟨fun ⟨h₁, h₂, h₃, h₄, h₅, h₆⟩ => ⟨h₁, h₂, h₃, h₄, h₅, h₆⟩,
      fun ⟨h₁, h₂, h₃, h₄, h₅, h₆⟩ => ⟨h₁, h₂, h₃, h₄, h₅, h₆⟩⟩

structure WellFormed (fs : FileTree) : Prop where
  nodup : (fs.entries.map (·.1)).Nodup
  inDir : ∀ spot e, (spot, e) ∈ fs.entries →
    ∃ above name, spot = above ++ [name] ∧ IsName name ∧ fs.get? above = some .dir
  work : fs.get? fs.work = some .dir

variable {fs : FileTree} {place way spot : List String} {name : String} {e : Entry}

theorem get?_concat (fs : FileTree) (place : List String) (name : String) :
    fs.get? (place ++ [name]) = fs.entries.lookup (place ++ [name]) := by
  rw [get?, if_neg]
  simp

/-- What is found at a place is the one entry for it. -/
theorem lookup_eq_some_iff_of_nodup (hnodup : (fs.entries.map (·.1)).Nodup) :
    fs.entries.lookup spot = some e ↔ (spot, e) ∈ fs.entries := by
  rw [List.lookup_eq_some_iff]
  constructor
  · rintro ⟨front, back, h, -⟩
    rw [h]
    exact List.mem_append_right _ List.mem_cons_self
  · intro h
    obtain ⟨front, back, hsplit⟩ := List.append_of_mem h
    refine ⟨front, back, hsplit, fun p hp => bne_iff_ne.2 ?_⟩
    rw [hsplit, List.map_append, List.nodup_append] at hnodup
    exact fun heq => hnodup.2.2 _ (List.mem_map_of_mem hp) spot List.mem_cons_self heq.symm

namespace WellFormed

theorem lookup_eq_some_iff (wf : fs.WellFormed) :
    fs.entries.lookup spot = some e ↔ (spot, e) ∈ fs.entries :=
  lookup_eq_some_iff_of_nodup wf.nodup

theorem mem_entriesIn_iff (wf : fs.WellFormed) :
    (name, e) ∈ fs.entriesIn place ↔ fs.get? (place ++ [name]) = some e := by
  rw [mem_entriesIn, get?_concat, wf.lookup_eq_some_iff]

theorem mem_namesIn (wf : fs.WellFormed) :
    name ∈ fs.namesIn place ↔ ∃ e, fs.get? (place ++ [name]) = some e := by
  simp [namesIn, wf.mem_entriesIn_iff]

theorem mem_filesIn (wf : fs.WellFormed) :
    name ∈ fs.filesIn place ↔ ∃ doc, fs.get? (place ++ [name]) = some (.file doc) := by
  simp only [filesIn, List.mem_map, List.mem_filter, Prod.exists, wf.mem_entriesIn_iff]
  constructor
  · rintro ⟨name, e, ⟨h, he⟩, rfl⟩
    cases e with
    | dir => cases he
    | file doc => exact ⟨doc, h⟩
  · rintro ⟨doc, h⟩
    exact ⟨name, .file doc, ⟨h, rfl⟩, rfl⟩

theorem mem_dirsIn (wf : fs.WellFormed) :
    name ∈ fs.dirsIn place ↔ fs.get? (place ++ [name]) = some .dir := by
  rw [FileTree.mem_dirsIn, get?_concat, wf.lookup_eq_some_iff]

theorem nodup_namesIn (wf : fs.WellFormed) (place : List String) : (fs.namesIn place).Nodup := by
  -- A name twice would be a place twice.
  have hspot : ∀ {spot : List String} {e : Entry} {b : String × Entry},
      (if spot.dropLast = place then spot.getLast?.map fun name => (name, e) else none) = some b →
        spot = place ++ [b.1] := by
    intro spot e b h
    rw [Option.ite_none_right_eq_some, Option.map_eq_some_iff] at h
    obtain ⟨rfl, name, hlast, rfl⟩ := h
    obtain ⟨above, rfl⟩ := List.getLast?_eq_some_iff.1 hlast
    rw [List.dropLast_concat]
  have hnodup := List.pairwise_map.1 wf.nodup
  rw [namesIn, entriesIn, List.Nodup, List.pairwise_map, List.pairwise_filterMap]
  refine hnodup.imp fun hne b hb b' hb' heq => hne ?_
  rw [hspot hb, hspot hb', heq]

theorem nodup_filesIn (wf : fs.WellFormed) (place : List String) : (fs.filesIn place).Nodup :=
  (wf.nodup_namesIn place).sublist (List.filter_sublist.map _)

theorem nodup_dirsIn (wf : fs.WellFormed) (place : List String) : (fs.dirsIn place).Nodup :=
  (wf.nodup_namesIn place).sublist (List.filter_sublist.map _)

/-- Whatever there is lies in a directory, under a name. -/
theorem of_get?_concat (wf : fs.WellFormed) (h : fs.get? (place ++ [name]) = some e) :
    fs.get? place = some .dir ∧ IsName name := by
  rw [get?_concat, wf.lookup_eq_some_iff] at h
  obtain ⟨above, last, heq, hname, hdir⟩ := wf.inDir _ _ h
  obtain ⟨rfl, rfl⟩ := List.append_singleton_inj.1 heq
  exact ⟨hdir, hname⟩

theorem isName_of_mem (wf : fs.WellFormed) (h : fs.get? spot = some e) :
    ∀ c ∈ spot, IsName c := by
  induction spot using List.reverseRecOn generalizing e with
  | nil => exact nofun
  | append_singleton above name ih =>
      obtain ⟨hdir, hname⟩ := wf.of_get?_concat h
      intro c hc
      rcases List.mem_append.1 hc with hc | hc
      · exact ih hdir c hc
      · exact List.mem_singleton.1 hc ▸ hname

/-- Everything above something is a directory. -/
theorem get?_of_append (wf : fs.WellFormed) (h : fs.get? (place ++ way) = some e)
    (hway : way ≠ []) : fs.get? place = some .dir := by
  induction way using List.reverseRecOn generalizing e with
  | nil => exact absurd rfl hway
  | append_singleton above name ih =>
      rw [← List.append_assoc] at h
      have hdir := (wf.of_get?_concat h).1
      by_cases habove : above = []
      · rwa [habove, List.append_nil] at hdir
      · exact ih hdir habove

theorem dir_of_append (wf : fs.WellFormed) (h : fs.get? (place ++ way) = some .dir) :
    fs.get? place = some .dir := by
  by_cases hway : way = []
  · rwa [hway, List.append_nil] at h
  · exact wf.get?_of_append h hway

end WellFormed

/-! Following a path -/

theorem follow_append (fs : FileTree) (place xs ys : List String) :
    fs.follow place (xs ++ ys) = fs.follow place xs >>= fun spot => fs.follow spot ys := by
  fun_induction fs.follow place xs with
  | case1 place => rfl
  | case2 place cs h ih =>
      rw [List.cons_append, follow, h]
      exact ih
  | case3 place c cs h hc hlong =>
      rw [List.cons_append, follow, h]
      simp only [if_neg hc, if_pos hlong]
      rfl
  | case4 place c cs h hc hlong hsome ih =>
      rw [List.cons_append, follow, h]
      simp only [if_neg hc, if_neg hlong, if_pos hsome]
      exact ih
  | case5 place c cs h hc hlong hsome =>
      rw [List.cons_append, follow, h]
      simp only [if_neg hc, if_neg hlong, if_neg hsome]
      rfl
  | case6 place c cs doc h =>
      rw [List.cons_append, follow, h]
      rfl
  | case7 place c cs h =>
      rw [List.cons_append, follow, h]
      rfl

/-- A way down leads where its names say. -/
theorem follow_way (wf : fs.WellFormed) (h : fs.get? (place ++ way) = some e) :
    fs.follow place way = .ok (place ++ way) := by
  induction way generalizing place with
  | nil => rw [follow, List.append_nil]
  | cons c cs ih =>
      have hdir : fs.get? place = some .dir := wf.get?_of_append h (List.cons_ne_nil c cs)
      have hc : IsName c := wf.isName_of_mem h c (by simp)
      rw [List.append_cons] at h
      have hsome : (fs.get? (place ++ [c])).isSome = true := by
        by_cases hcs : cs = []
        · rw [hcs, List.append_nil] at h
          rw [h]
          rfl
        · rw [wf.get?_of_append h hcs]
          rfl
      rw [follow, hdir]
      simp only [if_neg hc.ne_parent, if_neg (Nat.not_lt.2 hc.short), if_pos hsome]
      rw [ih h, ← List.append_cons]

/-- Parent references are followed as they are taken away from a path that is only written. -/
theorem follow_eq_ok (h : fs.follow place way = .ok spot) :
    way.foldl (fun seen c => if c = ".." then seen.dropLast else seen ++ [c]) place = spot := by
  fun_induction fs.follow place way with
  | case1 place => exact Except.ok.inj h
  | case2 place cs hdir ih => exact ih h
  | case4 place c cs hdir hc hlong hsome ih =>
      rw [List.foldl_cons, if_neg hc]
      exact ih h
  | _ => cases h

theorem follow_ne_tooLong (h : ∀ c ∈ way, c.utf8ByteSize ≤ nameLimit) :
    fs.follow place way ≠ .error .tooLong := by
  fun_induction fs.follow place way with
  | case2 place cs hdir ih => exact ih fun c hc => h c (List.mem_cons_of_mem _ hc)
  | case3 place c cs hdir hc hlong => exact absurd (h c List.mem_cons_self) (Nat.not_le.2 hlong)
  | case4 place c cs hdir hc hlong hsome ih => exact ih fun c hc => h c (List.mem_cons_of_mem _ hc)
  | _ => exact nofun

/-! Paths -/

variable {base p : Path}

theorem locate_eq_ok :
    fs.locate p = .ok spot ↔ p.hasNul = false ∧ p.isTooLong = false ∧
      fs.follow (if p.isAbsolute then [] else fs.work) p.parts = .ok spot := by
  unfold locate
  cases p.hasNul <;> cases p.isTooLong <;> simp

theorem directory_eq_ok :
    fs.directory p = .ok spot ↔ fs.locate p = .ok spot ∧ fs.get? spot = some .dir := by
  unfold directory
  cases hl : fs.locate p with
  | error f => exact ⟨nofun, nofun⟩
  | ok place =>
      simp only [bind, Except.bind, Except.ok.injEq]
      constructor
      · intro h
        split at h
        · rename_i hdir
          cases h
          exact ⟨rfl, hdir⟩
        · cases h
        · cases h
      · rintro ⟨rfl, hdir⟩
        rw [hdir]
        rfl

theorem exists?_of_directory (h : fs.directory p = .ok place) :
    fs.exists? p = .ok true := by
  obtain ⟨hlocate, hdir⟩ := directory_eq_ok.1 h
  rw [exists?, entry?, hlocate]
  simp only [hdir]
  rfl

theorem isFile_of_directory (h : fs.directory p = .ok place) :
    fs.isFile p = .ok false := by
  obtain ⟨hlocate, hdir⟩ := directory_eq_ok.1 h
  rw [isFile, entry?, hlocate]
  simp only [hdir]
  rfl

/-- What lies below a directory can be located by its path, unless that is too long. -/
theorem locate_append (wf : fs.WellFormed) (h : fs.locate base = .ok place)
    (hway : fs.get? (place ++ way) = some e) (hlong : (base.append way).isTooLong = false) :
    fs.locate (base.append way) = .ok (place ++ way) := by
  obtain ⟨hnul, -, hfollow⟩ := locate_eq_ok.1 h
  refine locate_eq_ok.2 ⟨?_, hlong, ?_⟩
  · have hnames : ∀ c ∈ way, '\x00' ∉ c.toList := fun c hc =>
      (wf.isName_of_mem hway c (List.mem_append_right _ hc)).no_nul
    rw [Path.hasNul_append, hnul, Path.hasNul_eq_false hnames]
    rfl
  · change fs.follow (if base.isAbsolute then [] else fs.work) (base.parts ++ way) = _
    rw [follow_append, hfollow]
    exact follow_way wf hway

/-- A path that leads somewhere is resolved to the place where it leads. -/
theorem resolve_of_locate (wf : fs.WellFormed) (h : fs.locate p = .ok place) :
    fs.resolve p = .ok ⟨"/", place⟩ := by
  obtain ⟨hnul, -, hfollow⟩ := locate_eq_ok.1 h
  have hstart : ∀ c ∈ if p.isAbsolute then [] else fs.work, c ≠ ".." := by
    intro c hc
    split at hc
    · cases hc
    · exact (wf.isName_of_mem wf.work c hc).ne_parent
  rw [resolve, hnul, Path.collapse_append, Path.collapse_eq_self hstart, follow_eq_ok hfollow]
  rfl

/-- Whether something is there can be told if neither the path nor a name in it is too long. -/
theorem exists_entry?_eq_ok (fs : FileTree) (hlong : p.isTooLong = false)
    (hnames : ∀ c ∈ p.parts, c.utf8ByteSize ≤ nameLimit) : ∃ o, fs.entry? p = .ok o := by
  unfold entry?
  cases hl : fs.locate p with
  | ok spot => exact ⟨_, rfl⟩
  | error f =>
      cases f with
      | tooLong =>
          rw [locate, hlong] at hl
          split at hl
          · cases hl
          · exact absurd hl (follow_ne_tooLong hnames)
      | _ => exact ⟨_, rfl⟩

end GoMetrics.FileTree
