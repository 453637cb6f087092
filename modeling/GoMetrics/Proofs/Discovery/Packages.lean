import GoMetrics.PackageDir
import GoMetrics.Proofs.Discovery.Walk
import GoMetrics.Proofs.Module

/-!
The package in a directory. It holds the files right inside that are selected by their names, in
order, and there is none if no file is selected. It is found out without fail, unless a path that
has to be looked at is too long.
-/

namespace GoMetrics.PackageDir

/-- Names that begin with a dot or an underscore. -/
def IsSetAside (name : String) : Prop :=
  name.toList.head? = some '.' ∨ name.toList.head? = some '_'

/-- Nothing on the way keeps a recursive target from taking it. -/
def IsOpen (way : List String) : Prop :=
  ∀ c ∈ way, c ≠ "vendor" ∧ c ≠ "testdata" ∧ ¬IsSetAside c

/-- A file below a directory that a recursive target takes in. -/
structure Selected (fs : FileTree) (includeTests : Bool) (place way : List String)
    (name : String) : Prop where
  isFile : ∃ doc, fs.get? (place ++ way ++ [name]) = some (.file doc)
  suffix : ∃ stem, stem ≠ "" ∧ name = stem ++ ".go"
  shown : ¬IsSetAside name
  noTest : includeTests = false → ∀ stem, name ≠ stem ++ "_test.go"
  isOpen : IsOpen way

variable {fs : FileTree} {includeTests : Bool} {base dir : Path} {place way : List String}
  {name : String}

/-! Names -/

theorem suffixOf_eq_go : Path.suffixOf name = ".go" ↔ ∃ stem, stem ≠ "" ∧ name = stem ++ ".go" := by
  have hgo : ".go" = String.ofList ('.' :: ['g', 'o']) := by rfl
  rw [hgo, Path.suffixOf_eq_iff (by simp) (by decide)]
  constructor
  · rintro ⟨stem, hne, h⟩
    exact ⟨String.ofList stem, by simpa using hne, by rw [← String.toList_inj]; simp [h]⟩
  · rintro ⟨stem, hne, rfl⟩
    exact ⟨stem.toList, by simpa using hne, by simp⟩

theorem isHidden_eq_false : isHidden name = false ↔ ¬IsSetAside name := by
  rw [isHidden, Bool.or_eq_false_iff, String.startsWith_string_eq_false_iff,
    String.startsWith_string_eq_false_iff, IsSetAside, not_or]
  cases name.toList <;> simp [List.cons_prefix_cons, eq_comm]

theorem isSkipped_eq_false :
    isSkipped name = false ↔ name ≠ "vendor" ∧ name ≠ "testdata" ∧ ¬IsSetAside name := by
  rw [isSkipped, Bool.or_eq_false_iff, Bool.or_eq_false_iff, isHidden_eq_false, and_assoc]
  simp

theorem isMember_child :
    isMember includeTests (dir.child name) = true ↔
      (∃ stem, stem ≠ "" ∧ name = stem ++ ".go") ∧ ¬IsSetAside name ∧
        (includeTests = false → ∀ stem, name ≠ stem ++ "_test.go") := by
  rw [isMember, Path.suffix_child, Path.name_child, isTest, Path.name_child, Bool.and_eq_true,
    Bool.and_eq_true, beq_iff_eq, Bool.not_eq_true', isHidden_eq_false, and_assoc, suffixOf_eq_go]
  refine and_congr Iff.rfl (and_congr Iff.rfl ?_)
  cases includeTests with
  | true => simp
  | false => simp [← Bool.not_eq_true, Text.endsWith_iff]

/-! The files of a directory -/

/-- The files at a place that belong to the package there, written after the path of the
directory. -/
def members (fs : FileTree) (includeTests : Bool) (dir : Path) (place : List String) : List Path :=
  Path.sort (((fs.filesIn place).map dir.child).filter (isMember includeTests))

theorem mem_members (wf : fs.WellFormed) (hopen : IsOpen way) {p : Path} :
    p ∈ members fs includeTests dir (place ++ way) ↔
      ∃ name, p = dir.child name ∧ Selected fs includeTests place way name := by
  simp only [members, Path.mem_sort, List.mem_filter, List.mem_map, wf.mem_filesIn]
  constructor
  · rintro ⟨⟨name, hfile, rfl⟩, hmember⟩
    obtain ⟨hsuffix, hshown, htest⟩ := isMember_child.1 hmember
    exact ⟨name, rfl, hfile, hsuffix, hshown, htest, hopen⟩
  · rintro ⟨name, rfl, h⟩
    exact ⟨⟨name, h.isFile, rfl⟩, isMember_child.2 ⟨h.suffix, h.shown, h.noTest⟩⟩

theorem members_ne_nil_iff (wf : fs.WellFormed) (hopen : IsOpen way) (dir : Path) :
    members fs includeTests dir (place ++ way) ≠ [] ↔
      ∃ name, Selected fs includeTests place way name := by
  constructor
  · intro hne
    obtain ⟨p, hp⟩ := List.exists_mem_of_ne_nil _ hne
    obtain ⟨name, -, h⟩ := (mem_members wf hopen).1 hp
    exact ⟨name, h⟩
  · rintro ⟨name, h⟩
    exact List.ne_nil_of_mem ((mem_members wf hopen).2 ⟨name, rfl, h⟩)

theorem pairwise_members (wf : fs.WellFormed) (dir : Path) (place : List String) :
    (members fs includeTests dir place).Pairwise fun p q => p.components < q.components := by
  refine Path.pairwise_lt_sort (List.Nodup.sublist (List.filter_sublist.map _) ?_)
  rw [List.map_map]
  refine (wf.nodup_filesIn place).map fun a b h => ?_
  have h : (dir.append [a]).components = (dir.append [b]).components := h
  simpa [Path.components_append] using h

theorem goFiles_eq (hdir : fs.directory dir = .ok place)
    (hshort : ∀ name ∈ fs.namesIn place, (dir.child name).isTooLong = false) :
    goFiles fs dir includeTests = .ok (members fs includeTests dir place) := by
  have hany : (((fs.namesIn place).map dir.child).filter (·.suffix == ".go")).any
      Path.isTooLong = false := by
    simp only [List.any_eq_false, List.mem_filter, List.mem_map]
    rintro _ ⟨⟨name, hname, rfl⟩, -⟩
    exact Bool.eq_false_iff.1 (hshort name hname)
  rw [goFiles, hdir]
  simp only [bind, Except.bind, hany]
  rfl

/-! The package of a directory -/

theorem ofDirectory?_of_nil (hfiles : goFiles fs dir includeTests = .ok []) :
    ofDirectory? fs includeTests dir = .ok none := by
  rw [ofDirectory?, hfiles]
  rfl

theorem ofDirectory?_of_ne_nil {files : List Path}
    (hfiles : goFiles fs dir includeTests = .ok files) (hne : files ≠ []) :
    ofDirectory? fs includeTests dir =
      (fun path => some ⟨dir, path, files⟩) <$> Module.importPath fs dir := by
  rw [ofDirectory?, hfiles]
  simp only [bind, Except.bind, List.isEmpty_eq_false_iff.2 hne]
  cases Module.importPath fs dir <;> rfl

theorem ofDirectory?_eq_some {files : List Path} (hfiles : goFiles fs dir includeTests = .ok files)
    {d : PackageDir} (h : ofDirectory? fs includeTests dir = .ok (some d)) :
    d.directory = dir ∧ d.files = files ∧ files ≠ [] := by
  by_cases hne : files = []
  · rw [ofDirectory?_of_nil (hne ▸ hfiles)] at h
    cases h
  · rw [ofDirectory?_of_ne_nil hfiles hne, Except.map_eq_ok] at h
    obtain ⟨path, -, hd⟩ := h
    obtain rfl := Option.some.inj hd
    exact ⟨rfl, rfl, hne⟩

end GoMetrics.PackageDir
