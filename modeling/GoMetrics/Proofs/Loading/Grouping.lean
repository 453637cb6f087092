import Mathlib.Data.List.Induction
import Mathlib.Data.List.Nodup
import GoMetrics.Loading

/-!
Files grouped by the package that they declare. Taking in one file after another gives one group for
each name, in the order in which the names first appear, and in each group the files of that name in
their order. So no file is lost and none is taken in twice.
-/

namespace GoMetrics

theorem nodup_eraseDups {α : Type} [BEq α] [LawfulBEq α] : (l : List α) → l.eraseDups.Nodup
  | [] => List.nodup_nil
  | a :: l => by
      rw [List.eraseDups_cons, List.nodup_cons, List.mem_eraseDups]
      exact ⟨by simp, nodup_eraseDups _⟩
termination_by l => l.length
decreasing_by exact Nat.lt_succ_of_le (List.length_filter_le _ _)

namespace Package

/-- The package names that files declare, each where it first appears. -/
def namesOf (files : List GoFile) : List String :=
  (files.map (·.package)).eraseDups

/-- The files that declare a package name. -/
def filesOf (files : List GoFile) (name : String) : List GoFile :=
  files.filter (·.package == name)

theorem mem_namesOf {files : List GoFile} {name : String} :
    name ∈ namesOf files ↔ ∃ f ∈ files, f.package = name := by
  simp [namesOf]

theorem namesOf_cons (f : GoFile) (files : List GoFile) :
    namesOf (f :: files) = f.package :: namesOf (files.filter (·.package != f.package)) := by
  rw [namesOf, List.map_cons, List.eraseDups_cons, namesOf, List.filter_map]
  rfl

theorem namesOf_concat (files : List GoFile) (f : GoFile) :
    namesOf (files ++ [f]) =
      if f.package ∈ namesOf files then namesOf files else namesOf files ++ [f.package] := by
  have hm : f.package ∈ namesOf files ↔ f.package ∈ files.map (·.package) := List.mem_eraseDups
  rw [namesOf, List.map_append, List.eraseDups_append, namesOf]
  split
  · next h =>
      have hr : [f.package].removeAll (files.map (·.package)) = [] := by
        simpa [List.removeAll] using hm.1 h
      rw [List.map_singleton, hr, List.eraseDups_nil, List.append_nil]
  · next h =>
      have hr : [f.package].removeAll (files.map (·.package)) = [f.package] := by
        simpa [List.removeAll] using mt hm.2 h
      rw [List.map_singleton, hr]
      rfl

/-- What leaves the first file and those of its package aside is shorter, so a statement about the
names of files can go from there to all of them. -/
theorem names_induction {P : List GoFile → Prop} (nil : P [])
    (cons : ∀ f files, P (files.filter (·.package != f.package)) → P (f :: files))
    (files : List GoFile) : P files :=
  match files with
  | [] => nil
  | f :: files => cons f files (names_induction nil cons _)
termination_by files.length
decreasing_by exact Nat.lt_succ_of_le (List.length_filter_le _ _)

theorem nodup_namesOf (files : List GoFile) : (namesOf files).Nodup :=
  nodup_eraseDups _

/-- The groups together hold each file once. -/
theorem perm_filesOf (files : List GoFile) :
    ((namesOf files).flatMap (filesOf files)).Perm files := by
  induction files using names_induction with
  | nil => exact .nil
  | cons f files ih =>
      let rest := files.filter (·.package != f.package)
      have hrest : ∀ name ∈ namesOf rest, filesOf (f :: files) name = filesOf rest name := by
        intro name hn
        obtain ⟨g, hg, rfl⟩ := mem_namesOf.1 hn
        have hne : g.package ≠ f.package := by simpa using (List.mem_filter.1 hg).2
        rw [filesOf, List.filter_cons_of_neg (by simpa using hne.symm), filesOf, List.filter_filter]
        refine List.filter_congr fun x _ => ?_
        by_cases hx : x.package = g.package <;> simp [hx, hne]
      have hown : filesOf (f :: files) f.package ++ rest =
          f :: (filesOf files f.package ++ rest) := by
        simp [filesOf]
      have hsplit : (filesOf files f.package ++ rest).Perm files :=
        List.filter_append_perm (fun x : GoFile => x.package == f.package) files
      rw [namesOf_cons, List.flatMap_cons]
      calc filesOf (f :: files) f.package ++ (namesOf rest).flatMap (filesOf (f :: files))
          = filesOf (f :: files) f.package ++ (namesOf rest).flatMap (filesOf rest) := by
            rw [List.flatMap_congr hrest]
        _ |>.Perm (filesOf (f :: files) f.package ++ rest) := ih.append_left _
        _ |>.Perm (f :: files) := hown ▸ hsplit.cons f

/-! Taking in one file after another -/

theorem insert_map {names : List String} (hn : names.Nodup) (members : String → List GoFile)
    (f : GoFile) :
    group.insert (names.map fun name => (name, members name)) f =
      if f.package ∈ names then
        names.map fun name => (name, if name = f.package then members name ++ [f] else members name)
      else names.map (fun name => (name, members name)) ++ [(f.package, [f])] := by
  induction names with
  | nil => rfl
  | cons name names ih =>
      obtain ⟨hname, hn⟩ := List.nodup_cons.1 hn
      rw [List.map_cons, group.insert]
      split
      · next h =>
          have hrest : ∀ n ∈ names, (n, members n) =
              (n, if n = f.package then members n ++ [f] else members n) := by
            intro n hmem
            have hne : n ≠ f.package := fun hf => hname (h.trans hf.symm ▸ hmem)
            rw [if_neg hne]
          rw [if_pos (h ▸ List.mem_cons_self), List.map_cons, if_pos h, List.map_congr_left hrest]
      · next h =>
          have hmem : f.package ∈ name :: names ↔ f.package ∈ names := by
            simp [Ne.symm h]
          simp only [ih hn, hmem, List.map_cons, if_neg h]
          split <;> rfl

/-- The groups are the files of each name, in the order of the names. -/
theorem group_eq (files : List GoFile) :
    group files = (namesOf files).map fun name => (name, filesOf files name) := by
  induction files using List.reverseRecOn with
  | nil => rfl
  | append_singleton files f ih =>
      have hg : group (files ++ [f]) = group.insert (group files) f := by
        rw [group, List.foldl_append, ← group]
        rfl
      rw [hg, ih, insert_map (nodup_namesOf files), namesOf_concat]
      split
      · refine List.map_congr_left fun name _ => ?_
        by_cases h : name = f.package
        · simp [filesOf, h]
        · simp [filesOf, h, Ne.symm h]
      · next h =>
          rw [List.map_append, List.map_singleton]
          congr 1
          · refine List.map_congr_left fun name hmem => ?_
            have hne : f.package ≠ name := fun he => h (he ▸ hmem)
            simp [filesOf, hne]
          · have hnone : filesOf files f.package = [] := by
              refine List.filter_eq_nil_iff.2 fun g hg => ?_
              have := fun he => h (mem_namesOf.2 ⟨g, hg, he⟩)
              simpa using this
            rw [filesOf, List.filter_append, ← filesOf, hnone]
            simp

/-! The packages of a directory -/

/-- The packages that files of one directory make up. -/
structure Grouped (importPath : String) (files : List GoFile) (packages : List Package) : Prop where
  /-- There is one package for each name that is declared, in order of first appearance. -/
  names : packages.map (·.name) = (files.map (·.package)).eraseDups
  nodup : (packages.map (·.name)).Nodup
  /-- A package holds all files of its name, in their order. -/
  members : ∀ p ∈ packages, p.files = files.filter (·.package == p.name)
  /-- No file is lost, and none is in two packages. -/
  perm : (packages.flatMap (·.files)).Perm files
  /-- Only a package of tests that stands beside another package has a path of its own. -/
  path : ∀ p ∈ packages, p.path =
    if p.name.endsWith "_test" = true ∧ ∃ f ∈ files, ∃ g ∈ files, f.package ≠ g.package then
      importPath ++ "_test"
    else importPath

/-- There are at least two names if two files differ in theirs. -/
theorem one_lt_length_namesOf {files : List GoFile} :
    1 < (namesOf files).length ↔ ∃ f ∈ files, ∃ g ∈ files, f.package ≠ g.package := by
  cases files with
  | nil => simp [namesOf]
  | cons f files =>
      rw [namesOf_cons, List.length_cons, Nat.lt_add_left_iff_pos, List.length_pos_iff_exists_mem]
      constructor
      · rintro ⟨name, hname⟩
        obtain ⟨g, hg, -⟩ := mem_namesOf.1 hname
        obtain ⟨hmem, hne⟩ := List.mem_filter.1 hg
        exact ⟨g, List.mem_cons_of_mem f hmem, f, List.mem_cons_self, bne_iff_ne.1 hne⟩
      · rintro ⟨g, hg, h, hh, hne⟩
        -- One of the two differs from the first file.
        obtain ⟨x, hx, hxf⟩ : ∃ x ∈ f :: files, x.package ≠ f.package := by
          by_cases hgf : g.package = f.package
          · exact ⟨h, hh, fun he => hne (hgf.trans he.symm)⟩
          · exact ⟨g, hg, hgf⟩
        obtain rfl | hx := List.mem_cons.1 hx
        · exact absurd rfl hxf
        · exact ⟨x.package, mem_namesOf.2 ⟨x, List.mem_filter.2 ⟨hx, bne_iff_ne.2 hxf⟩, rfl⟩⟩

theorem grouped_ofFiles (importPath : String) (files : List GoFile) :
    Grouped importPath files (ofFiles importPath files) := by
  have hnames : (ofFiles importPath files).map (·.name) = namesOf files := by
    simp [ofFiles, group_eq, Function.comp_def]
  have hfiles : (ofFiles importPath files).flatMap (·.files) =
      (namesOf files).flatMap (filesOf files) := by
    simp [ofFiles, group_eq, List.flatMap_map]
  have hmem : ∀ p ∈ ofFiles importPath files, p.files = filesOf files p.name ∧
      p.path = if p.name.endsWith "_test" && 1 < (namesOf files).length then importPath ++ "_test"
        else importPath := by
    intro p hp
    simp only [ofFiles, group_eq, List.map_map, List.mem_map, List.length_map] at hp
    obtain ⟨name, -, rfl⟩ := hp
    exact ⟨rfl, rfl⟩
  refine ⟨hnames, hnames ▸ nodup_namesOf files, fun p hp => (hmem p hp).1, ?_, fun p hp => ?_⟩
  · exact hfiles ▸ perm_filesOf files
  · simp only [(hmem p hp).2, Bool.and_eq_true, decide_eq_true_eq, one_lt_length_namesOf]

end Package
end GoMetrics
