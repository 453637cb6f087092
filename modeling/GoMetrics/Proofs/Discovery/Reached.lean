import GoMetrics.Proofs.Discovery.Packages

/-!
The packages below a directory. They are those of the directories that are reached without passing
one that is skipped. Every file that is selected is in one of them, that of its directory, and no
other file is in any.
-/

namespace GoMetrics.PackageDir

variable {fs : FileTree} {includeTests : Bool} {base : Path} {place way : List String}

/-- A file is in a package if one of the paths there leads to it. -/
def Lists (fs : FileTree) (d : PackageDir) (spot : List String) : Prop :=
  ∃ p ∈ d.files, fs.locate p = .ok spot

/-- What a recursive target stands for. -/
structure Discovered (fs : FileTree) (includeTests : Bool) (base : Path) (place : List String)
    (packages : List PackageDir) : Prop where
  ascending : packages.Pairwise fun d e => d.directory.components < e.directory.components
  /-- A file that is selected is in exactly one package. -/
  listed : ∀ way name, Selected fs includeTests place way name →
    ∃! d, d ∈ packages ∧ Lists fs d (place ++ way ++ [name])
  /-- A package is that of one directory, and holds only files there that are selected. -/
  inDirectory : ∀ d ∈ packages, ∃ way, d.directory = base.append way ∧
    fs.directory d.directory = .ok (place ++ way) ∧
    ∀ p ∈ d.files, ∃ name, p = d.directory.child name ∧
      fs.locate p = .ok (place ++ way ++ [name]) ∧ Selected fs includeTests place way name
  filesAscending : ∀ d ∈ packages, d.files.Pairwise fun p q => p.components < q.components
  nonempty : ∀ d ∈ packages, d.files ≠ []

/-! The directories below the base -/

/-- The ways to the directories that are reached. -/
def ways (fs : FileTree) (place : List String) : List (List String) :=
  visit fs place [[]]

theorem mem_ways (wf : fs.WellFormed) (hdir : fs.get? place = some .dir) :
    way ∈ ways fs place ↔ IsOpen way ∧ fs.get? (place ++ way) = some .dir := by
  have h := @mem_visit_iff fs place [] wf (by simpa using hdir) way
  simpa [ways, IsOpen, isSkipped_eq_false] using h

theorem isOpen_of_mem_ways (wf : fs.WellFormed) (hbase : fs.directory base = .ok place)
    (hway : way ∈ ways fs place) : IsOpen way :=
  ((mem_ways wf (FileTree.directory_eq_ok.1 hbase).2).1 hway).1

/-- The directory of a file that is selected is reached. -/
theorem Selected.mem_ways {name : String} (h : Selected fs includeTests place way name)
    (wf : fs.WellFormed) (hbase : fs.directory base = .ok place) : way ∈ ways fs place := by
  obtain ⟨doc, hfile⟩ := h.isFile
  exact (PackageDir.mem_ways wf (FileTree.directory_eq_ok.1 hbase).2).2
    ⟨h.isOpen, (wf.of_get?_concat hfile).1⟩

/-- No path of something in a directory that is reached is too long. -/
def AllShort (fs : FileTree) (base : Path) (place : List String) : Prop :=
  ∀ way ∈ ways fs place, ∀ name ∈ fs.namesIn (place ++ way),
    ((base.append way).child name).isTooLong = false

theorem allShort_iff :
    AllShort fs base place ↔ ((visit fs place [[]]).flatMap fun way =>
      (fs.namesIn (place ++ way)).map (base.append way).child).any Path.isTooLong = false := by
  simp only [AllShort, ways, List.any_eq_false, List.mem_flatMap, List.mem_map,
    Bool.not_eq_true]
  constructor
  · rintro h _ ⟨way, hway, name, hname, rfl⟩
    exact h way hway name hname
  · exact fun h way hway name hname => h _ ⟨way, hway, name, hname, rfl⟩

theorem walk_of_allShort (hdir : fs.directory base = .ok place) (h : AllShort fs base place) :
    walk fs base = .ok ((ways fs place).map base.append) := by
  rw [walk, hdir]
  simp only [bind, Except.bind, allShort_iff.1 h]
  rfl

theorem walk_of_not_allShort (hdir : fs.directory base = .ok place)
    (h : ¬AllShort fs base place) : walk fs base = .error .tooLong := by
  rw [allShort_iff, Bool.not_eq_false] at h
  rw [walk, hdir]
  simp only [bind, Except.bind, h]
  rfl

/-! The packages below the base -/

/-- The packages that are found in the directories that are reached. -/
def found (fs : FileTree) (includeTests : Bool) (base : Path) (place : List String) :
    List PackageDir :=
  (ways fs place).filterMap fun way =>
    (ofDirectory? fs includeTests (base.append way)).toOption.join

theorem join_toOption_eq_some {α ε : Type} {x : Except ε (Option α)} {a : α} :
    x.toOption.join = some a ↔ x = .ok (some a) := by
  cases x <;> simp [Except.toOption]

theorem mem_found {d : PackageDir} :
    d ∈ found fs includeTests base place ↔
      ∃ way ∈ ways fs place, ofDirectory? fs includeTests (base.append way) = .ok (some d) := by
  simp only [found, List.mem_filterMap, join_toOption_eq_some]

section Reached

variable (wf : fs.WellFormed) (hbase : fs.directory base = .ok place)
  (hshort : AllShort fs base place)

include wf hbase hshort

/-- The directory itself is one of the things whose paths are not too long. -/
theorem directory_append (hway : way ∈ ways fs place) :
    fs.directory (base.append way) = .ok (place ++ way) := by
  obtain ⟨hlocate, hdir⟩ := FileTree.directory_eq_ok.1 hbase
  obtain ⟨hopen, hget⟩ := (mem_ways wf hdir).1 hway
  refine FileTree.directory_eq_ok.2 ⟨FileTree.locate_append wf hlocate hget ?_, hget⟩
  cases way using List.reverseRecOn with
  | nil =>
      rw [Path.append_nil]
      exact (FileTree.locate_eq_ok.1 hlocate).2.1
  | append_singleton above name =>
      rw [← List.append_assoc] at hget
      have habove : above ∈ ways fs place :=
        (mem_ways wf hdir).2 ⟨fun c hc => hopen c (List.mem_append_left _ hc),
          wf.dir_of_append hget⟩
      have := hshort above habove name (wf.mem_namesIn.2 ⟨_, hget⟩)
      rwa [Path.child, Path.append_append] at this

theorem goFiles_append (hway : way ∈ ways fs place) (includeTests : Bool) :
    goFiles fs (base.append way) includeTests =
      .ok (members fs includeTests (base.append way) (place ++ way)) :=
  goFiles_eq (directory_append wf hbase hshort hway) (hshort way hway)

theorem locate_child (hway : way ∈ ways fs place) {name : String} {e : Entry}
    (hget : fs.get? (place ++ way ++ [name]) = some e) :
    fs.locate ((base.append way).child name) = .ok (place ++ way ++ [name]) := by
  have hlong := hshort way hway name (wf.mem_namesIn.2 ⟨e, hget⟩)
  rw [Path.child, Path.append_append] at hlong ⊢
  rw [List.append_assoc] at hget ⊢
  exact FileTree.locate_append wf (FileTree.directory_eq_ok.1 hbase).1 hget hlong

/-- The package of a directory is found unless the path of a module file there is too long. -/
theorem exists_ofDirectory? (hway : way ∈ ways fs place)
    (h : (∃ name, Selected fs includeTests place way name) →
      ((Path.mk "/" (place ++ way)).child Module.fileName).isTooLong = false) :
    ∃ o, ofDirectory? fs includeTests (base.append way) = .ok o := by
  have hfiles := goFiles_append wf hbase hshort hway includeTests
  by_cases hnil : members fs includeTests (base.append way) (place ++ way) = []
  · exact ⟨none, ofDirectory?_of_nil (hnil ▸ hfiles)⟩
  · have hlong := h ((members_ne_nil_iff wf (isOpen_of_mem_ways wf hbase hway) _).1 hnil)
    obtain ⟨path, hpath⟩ :=
      Module.exists_importPath wf (directory_append wf hbase hshort hway) hlong
    rw [ofDirectory?_of_ne_nil hfiles hnil, hpath]
    exact ⟨_, rfl⟩

theorem ofDirectory?_eq_error (hway : way ∈ ways fs place) {name : String}
    (h : Selected fs includeTests place way name)
    (hlong : ((Path.mk "/" (place ++ way)).child Module.fileName).isTooLong = true) :
    ofDirectory? fs includeTests (base.append way) = .error .tooLong := by
  have hne := (members_ne_nil_iff wf h.isOpen (base.append way)).2 ⟨name, h⟩
  rw [ofDirectory?_of_ne_nil (goFiles_append wf hbase hshort hway _) hne,
    Module.importPath_eq_error wf (directory_append wf hbase hshort hway) hlong]
  rfl

/-- Nothing else keeps the package of a directory from being found. -/
theorem eq_tooLong_of_ofDirectory? (hway : way ∈ ways fs place) {f : AccessFault}
    (h : ofDirectory? fs includeTests (base.append way) = .error f) : f = .tooLong := by
  by_cases hmodule : (∃ name, Selected fs includeTests place way name) ∧
      ((Path.mk "/" (place ++ way)).child Module.fileName).isTooLong = true
  · obtain ⟨⟨name, hname⟩, hlong⟩ := hmodule
    rw [ofDirectory?_eq_error wf hbase hshort hway hname hlong] at h
    exact (Except.error.inj h).symm
  · obtain ⟨o, ho⟩ := exists_ofDirectory? wf hbase hshort hway fun hname =>
      Bool.eq_false_iff.2 fun hlong => hmodule ⟨hname, hlong⟩
    rw [ho] at h
    cases h

/-- What is known of a package that is found. -/
theorem of_mem_found {d : PackageDir} (h : d ∈ found fs includeTests base place) :
    ∃ way ∈ ways fs place, d.directory = base.append way ∧
      d.files = members fs includeTests (base.append way) (place ++ way) ∧ d.files ≠ [] := by
  obtain ⟨way, hway, hd⟩ := mem_found.1 h
  obtain ⟨hdir, hfiles, hne⟩ := ofDirectory?_eq_some (goFiles_append wf hbase hshort hway _) hd
  exact ⟨way, hway, hdir, hfiles, hfiles ▸ hne⟩

theorem pairwise_found :
    (found fs includeTests base place).Pairwise fun d e =>
      d.directory.components < e.directory.components := by
  have hdirectory : ∀ way ∈ ways fs place, ∀ d,
      ofDirectory? fs includeTests (base.append way) = .ok (some d) →
        d.directory = base.append way :=
    fun way hway d hd => (ofDirectory?_eq_some (goFiles_append wf hbase hshort hway _) hd).1
  simp only [found, List.pairwise_filterMap, join_toOption_eq_some]
  refine (pairwise_visit wf place []).imp_of_mem fun hway hway' hlt d hd e he => ?_
  rw [hdirectory _ hway d hd, hdirectory _ hway' e he]
  exact Path.components_lt hlt

theorem inDirectory_found :
    ∀ d ∈ found fs includeTests base place, ∃ way, d.directory = base.append way ∧
      fs.directory d.directory = .ok (place ++ way) ∧
      ∀ p ∈ d.files, ∃ name, p = d.directory.child name ∧
        fs.locate p = .ok (place ++ way ++ [name]) ∧ Selected fs includeTests place way name := by
  intro d hd
  obtain ⟨way, hway, hdir, hfiles, -⟩ := of_mem_found wf hbase hshort hd
  refine ⟨way, hdir, hdir ▸ directory_append wf hbase hshort hway, fun p hp => ?_⟩
  rw [hfiles, mem_members wf (isOpen_of_mem_ways wf hbase hway)] at hp
  obtain ⟨name, rfl, h⟩ := hp
  obtain ⟨doc, hget⟩ := h.isFile
  exact ⟨name, by rw [hdir], locate_child wf hbase hshort hway hget, h⟩

/-- A file is in the package of its directory and in no other. -/
theorem directory_of_lists {d : PackageDir} (hd : d ∈ found fs includeTests base place)
    {name : String}
    (h : Lists fs d (place ++ way ++ [name])) : d.directory = base.append way := by
  obtain ⟨way', hdir, -, hfiles⟩ := inDirectory_found wf hbase hshort d hd
  obtain ⟨p, hp, hlocate⟩ := h
  obtain ⟨name', -, hlocate', -⟩ := hfiles p hp
  have hspot := Except.ok.inj (hlocate'.symm.trans hlocate)
  obtain ⟨hway, -⟩ := List.append_singleton_inj.1 hspot
  rw [hdir, List.append_cancel_left hway]

theorem eq_of_directory_eq {d e : PackageDir} (hd : d ∈ found fs includeTests base place)
    (he : e ∈ found fs includeTests base place) (h : d.directory = e.directory) : d = e := by
  have hnodup : ((found fs includeTests base place).map fun d => d.directory.components).Nodup := by
    rw [List.Nodup, List.pairwise_map]
    refine (pairwise_found wf hbase hshort).imp ?_
    intro d e hlt heq
    exact List.lt_irrefl _ (heq ▸ hlt)
  exact List.inj_on_of_nodup_map hnodup hd he (congrArg Path.components h)

/-- If every directory that is reached can be looked into, the packages are those of all the files
that are selected. -/
theorem discovered_found
    (hok : ∀ way ∈ ways fs place, ∃ o, ofDirectory? fs includeTests (base.append way) = .ok o) :
    Discovered fs includeTests base place (found fs includeTests base place) where
  ascending := pairwise_found wf hbase hshort
  listed way name h := by
    have hway := h.mem_ways wf hbase
    have hne := (members_ne_nil_iff wf h.isOpen (base.append way)).2 ⟨name, h⟩
    have hfiles := goFiles_append wf hbase hshort hway includeTests
    obtain ⟨o, ho⟩ := hok way hway
    have hmap := ho
    rw [ofDirectory?_of_ne_nil hfiles hne, Except.map_eq_ok] at hmap
    obtain ⟨path, -, rfl⟩ := hmap
    obtain ⟨doc, hget⟩ := h.isFile
    have hmem := mem_found.2 ⟨way, hway, ho⟩
    refine ⟨_, ⟨hmem, (base.append way).child name, (mem_members wf h.isOpen).2 ⟨name, rfl, h⟩,
      locate_child wf hbase hshort hway hget⟩, ?_⟩
    rintro e ⟨he, hlists⟩
    exact eq_of_directory_eq wf hbase hshort he hmem
      (directory_of_lists wf hbase hshort he hlists)
  inDirectory := inDirectory_found wf hbase hshort
  filesAscending d hd := by
    obtain ⟨way, -, -, hfiles, -⟩ := of_mem_found wf hbase hshort hd
    exact hfiles ▸ pairwise_members wf _ _
  nonempty d hd := by
    obtain ⟨way, -, -, -, hne⟩ := of_mem_found wf hbase hshort hd
    exact hne

end Reached
end GoMetrics.PackageDir
