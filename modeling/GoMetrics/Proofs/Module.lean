import GoMetrics.Module
import GoMetrics.Proofs.Draft.Success
import GoMetrics.Proofs.FileTree

/-!
Import paths can always be found, unless the path of a module file is too long. It is looked for
from the directory upwards, so that the first path that is tried is the longest.
-/

namespace GoMetrics

variable {fs : FileTree} {dir p : Path} {place : List String}

theorem FileTree.exists_read {p : Path} (h : fs.isFile p = .ok true) :
    ∃ doc, fs.read p = .ok doc := by
  obtain ⟨o, ho, hfile⟩ := Except.bind_eq_ok.1 h
  unfold FileTree.entry? at ho
  cases hl : fs.locate p with
  | error f =>
      rw [hl] at ho
      cases f <;> cases ho <;> cases hfile
  | ok spot =>
      rw [hl] at ho
      obtain rfl := Except.ok.inj ho
      cases hg : fs.get? spot with
      | none =>
          rw [hg] at hfile
          cases hfile
      | some e =>
          cases e with
          | dir =>
              rw [hg] at hfile
              cases hfile
          | file doc =>
              refine ⟨doc, ?_⟩
              simp only [FileTree.read, hl, bind, Except.bind, hg]
              rfl

namespace Module

/-- A module file is looked for without fail if its path is not too long. -/
theorem exists_at? (hlong : (dir.child fileName).isTooLong = false)
    (hnames : ∀ c ∈ dir.parts, c.utf8ByteSize ≤ FileTree.nameLimit) :
    ∃ o, at? fs dir = .ok o := by
  have hparts : ∀ c ∈ (dir.child fileName).parts, c.utf8ByteSize ≤ FileTree.nameLimit := by
    intro c hc
    rcases List.mem_append.1 hc with hc | hc
    · exact hnames c hc
    · rw [List.mem_singleton.1 hc]
      decide
  obtain ⟨o, ho⟩ := FileTree.exists_entry?_eq_ok fs hlong hparts
  have hisFile : ∃ b, fs.isFile (dir.child fileName) = .ok b := by
    rw [FileTree.isFile, ho]
    rcases o with - | - | doc
    · exact ⟨false, rfl⟩
    · exact ⟨false, rfl⟩
    · exact ⟨true, rfl⟩
  obtain ⟨b, hb⟩ := hisFile
  cases b with
  | false =>
      refine ⟨none, ?_⟩
      rw [at?, hb]
      rfl
  | true =>
      obtain ⟨doc, hdoc⟩ := FileTree.exists_read hb
      simp only [at?, hb, readName, hdoc, bind, Except.bind]
      exact ⟨_, rfl⟩

theorem at?_eq_error (hnul : (dir.child fileName).hasNul = false)
    (hlong : (dir.child fileName).isTooLong = true) : at? fs dir = .error .tooLong := by
  have hlocate : fs.locate (dir.child fileName) = .error .tooLong := by
    rw [FileTree.locate, hnul, hlong]
    rfl
  rw [at?, FileTree.isFile, FileTree.entry?, hlocate]
  rfl

theorem exists_find? (fs : FileTree) (hlong : (dir.child fileName).isTooLong = false)
    (hnames : ∀ c ∈ dir.parts, c.utf8ByteSize ≤ FileTree.nameLimit) :
    ∃ o, find? fs dir = .ok o := by
  refine Except.exists_findSomeM? fun above habove => ?_
  obtain ⟨n, rfl⟩ : ∃ n, above = { dir with parts := dir.parts.take n } := by
    rcases List.mem_cons.1 habove with rfl | habove
    · exact ⟨above.parts.length, by rw [List.take_length]⟩
    · obtain ⟨n, -, rfl⟩ := List.mem_map.1 habove
      exact ⟨n, rfl⟩
  refine exists_at? ?_ fun c hc => hnames c (List.mem_of_mem_take hc)
  exact Bool.eq_false_iff.2 fun h => Bool.eq_false_iff.1 hlong (dir.isTooLong_child_of_take h)

/-- A directory has an import path if the path of a module file in it is not too long. -/
theorem exists_importPath (wf : fs.WellFormed) (hp : fs.directory p = .ok place)
    (hlong : ((Path.mk "/" place).child fileName).isTooLong = false) :
    ∃ path, importPath fs p = .ok path := by
  obtain ⟨hlocate, hdir⟩ := FileTree.directory_eq_ok.1 hp
  have hnames : ∀ c ∈ place, c.utf8ByteSize ≤ FileTree.nameLimit := fun c hc =>
    (wf.isName_of_mem hdir c hc).short
  obtain ⟨o, ho⟩ := exists_find? fs hlong hnames
  rw [importPath, FileTree.resolve_of_locate wf hlocate]
  simp only [bind, Except.bind, ho]
  cases o with
  | some found => exact ⟨_, rfl⟩
  | none =>
      rcases below? ⟨"/", place⟩ ⟨"/", Path.collapse fs.work⟩ with - | - | parts
      · exact ⟨_, rfl⟩
      · exact ⟨_, rfl⟩
      · exact ⟨_, rfl⟩

/-- The import path of what cannot have a module file is not found out. -/
theorem importPath_of_isTooLong (hresolve : fs.resolve p = .ok ⟨"/", place⟩)
    (hnames : ∀ c ∈ place, FileTree.IsName c)
    (hlong : ((Path.mk "/" place).child fileName).isTooLong = true) :
    importPath fs p = .error .tooLong := by
  have hnul : ((Path.mk "/" place).child fileName).hasNul = false := by
    refine Path.hasNul_eq_false fun c hc => ?_
    rcases List.mem_append.1 hc with hc | hc
    · exact (hnames c hc).no_nul
    · rw [List.mem_singleton.1 hc]
      decide
  rw [importPath, hresolve]
  simp only [bind, Except.bind, find?, List.findSomeM?_cons, at?_eq_error hnul hlong]

theorem importPath_eq_error (wf : fs.WellFormed) (hp : fs.directory p = .ok place)
    (hlong : ((Path.mk "/" place).child fileName).isTooLong = true) :
    importPath fs p = .error .tooLong := by
  obtain ⟨hlocate, hdir⟩ := FileTree.directory_eq_ok.1 hp
  exact importPath_of_isTooLong (FileTree.resolve_of_locate wf hlocate) (wf.isName_of_mem hdir)
    hlong

end Module
end GoMetrics
