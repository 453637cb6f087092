import GoMetrics.Proofs.Draft.Success
import GoMetrics.Proofs.Loading.Grouping
import GoMetrics.Proofs.Outcome

/-!
Loading the files of one directory. A file is taken in, passed over with a warning, or ends the
loading; only a failure that is explained to the user is ever passed over. The packages of the
directory are those of the files that were taken in.
-/

namespace GoMetrics

/-- A failure that is a file's own: it cannot be opened, or what it holds cannot be parsed. -/
def Failure.isOfFile : Failure → Bool
  | .complaint (.fileAccess ..) | .complaint (.parsing ..) => true
  | _ => false

theorem Failure.exists_complaint {f : Failure} (h : f.isOfFile = true) : ∃ c, f = .complaint c := by
  cases f with
  | complaint c => exact ⟨c, rfl⟩
  | _ => cases h

namespace GoFile

variable {fs : FileTree} {strict : Bool} {p : Path}

/-- What is logged about a file that is passed over. -/
def skipRecord (p : Path) (c : Complaint) : LogRecord :=
  ⟨.warning, "Skipping " ++ p.render ++ ": " ++ c.render⟩

/-! One file -/

theorem parse_eq_error {s : Source} {root : Tree} {f : Failure} (h : parse s root = .error f) :
    ∃ e, GoFile.read s root = .error e ∧ f = e.failure s.filename := by
  unfold parse at h
  cases hr : GoFile.read s root with
  | error e =>
      rw [hr] at h
      cases h
      exact ⟨e, rfl, rfl⟩
  | ok file =>
      rw [hr] at h
      cases h

/-- A complaint about a file says that it cannot be opened or parsed. -/
theorem isOfFile_of_load {c : Complaint} (h : load fs p = .error (.complaint c)) :
    (Failure.complaint c).isOfFile = true := by
  unfold load at h
  split at h
  · cases h
  · cases h
    rfl
  · obtain ⟨e, -, he⟩ := parse_eq_error h
    cases e with
    | fault why =>
        cases why <;> cases he
        rfl
    | noPackageClause =>
        cases he
        rfl
    | illFormedText => cases he

theorem loadOrSkip_of_ok {file : GoFile} (h : load fs p = .ok file) :
    loadOrSkip fs strict p = pure (some file) := by
  rw [loadOrSkip, h]

theorem loadOrSkip_of_complaint {c : Complaint} (h : load fs p = .error (.complaint c)) :
    loadOrSkip fs false p = ⟨"", [skipRecord p c], .ok none⟩ := by
  rw [loadOrSkip, h]
  rfl

/-- Any other failure ends the loading, and so does every failure if the loading is strict. -/
theorem loadOrSkip_of_error {f : Failure} (h : load fs p = .error f)
    (hf : strict = true ∨ ∀ c, f ≠ .complaint c) : loadOrSkip fs strict p = .fail f := by
  rw [loadOrSkip, h]
  cases f with
  | complaint c =>
      obtain rfl | hc := hf
      · rfl
      · exact absurd rfl (hc c)
  | _ => rfl

/-- To load a file is to read it, and to pass it over or to fail as the reading did. -/
theorem loadOrSkip_of_closed {P : {α : Type} → Outcome α → Prop} (hP : Outcome.Closed P)
    (hfail : ∀ f, load fs p = .error f → P (Outcome.fail f : Outcome (Option GoFile))) :
    P (loadOrSkip fs strict p) := by
  unfold loadOrSkip
  split
  · exact hP.pure _
  · next c hc =>
      split
      · exact hfail (.complaint c) hc
      · exact hP.bind (hP.record _ _) fun _ => hP.pure _
  · next f _ hf => exact hfail f hf

theorem isSilent_loadOrSkip (fs : FileTree) (strict : Bool) (p : Path) :
    (loadOrSkip fs strict p).IsSilent :=
  loadOrSkip_of_closed Outcome.IsSilent.closed fun f _ => .fail f

/-- What a file comes to if it does not end the loading. -/
theorem result_loadOrSkip (h : ∀ f, load fs p = .error f → strict = false ∧ f.isOfFile = true) :
    (loadOrSkip fs strict p).result = .ok (load fs p).toOption := by
  cases hl : load fs p with
  | ok file =>
      rw [loadOrSkip_of_ok hl]
      rfl
  | error f =>
      obtain ⟨rfl, hf⟩ := h f hl
      obtain ⟨c, rfl⟩ := Failure.exists_complaint hf
      rw [loadOrSkip_of_complaint hl]
      rfl

/-- Only its own failures keep a file from ending the loading. -/
theorem isOfFile_of_result {o : Option GoFile} (h : (loadOrSkip fs false p).result = .ok o) :
    ∀ f, load fs p = .error f → f.isOfFile = true := by
  intro f hl
  by_cases hf : ∃ c, f = .complaint c
  · obtain ⟨c, rfl⟩ := hf
    exact isOfFile_of_load hl
  · rw [loadOrSkip_of_error hl (.inr fun c hc => hf ⟨c, hc⟩)] at h
    cases h

/-- A complaint that ends the loading is about a file, and the loading is strict. -/
theorem strict_of_loadOrSkip {c : Complaint}
    (h : (loadOrSkip fs strict p).result = .error (.complaint c)) :
    strict = true ∧ (Failure.complaint c).isOfFile = true := by
  cases hl : load fs p with
  | ok file =>
      rw [loadOrSkip_of_ok hl] at h
      cases h
  | error f =>
      by_cases hf : strict = true ∨ ∀ c, f ≠ .complaint c
      · rw [loadOrSkip_of_error hl hf] at h
        cases h
        exact ⟨hf.resolve_right fun hc => hc c rfl, isOfFile_of_load hl⟩
      · obtain ⟨hs, hc⟩ := not_or.1 hf
        obtain ⟨c', rfl⟩ := not_forall_not.1 hc
        rw [Bool.of_not_eq_true hs, loadOrSkip_of_complaint hl] at h
        cases h

end GoFile

namespace Package

open Outcome

variable {fs : FileTree} {dir : PackageDir}

/-- The end of a loading: what was loaded is logged. -/
theorem logged_gives (packages : List Package) :
    Gives (do
        packages.forM fun p => Outcome.record .debug
          ("Loaded package " ++ p.path ++ " (" ++ toString p.files.length ++ " files)")
        return packages)
      "" (.ok packages) := by
  have hlog : ∀ ps : List Package, Gives (ps.forM fun p => Outcome.record .debug
      ("Loaded package " ++ p.path ++ " (" ++ toString p.files.length ++ " files)")) ""
      (.ok ()) := by
    intro ps
    induction ps with
    | nil => exact .pure _
    | cons p ps ih => exact Gives.silent (.record _ _) ih
  exact (hlog packages).silent (.pure _)

theorem isSilent_loadDir (fs : FileTree) (strict : Bool) (dir : PackageDir) :
    (loadDir fs strict dir).IsSilent :=
  .bind (.mapM (GoFile.isSilent_loadOrSkip fs strict) _) fun _ => (logged_gives _).out

/-- Loading a directory comes to the packages of what its files come to. -/
theorem result_loadDir (fs : FileTree) (strict : Bool) (dir : PackageDir) :
    (loadDir fs strict dir).result =
      (fun files => ofFiles dir.importPath files.reduceOption) <$>
        dir.files.mapM fun p => (GoFile.loadOrSkip fs strict p).result := by
  unfold loadDir
  rw [result_bind, result_mapM]
  cases dir.files.mapM fun p => (GoFile.loadOrSkip fs strict p).result with
  | error f => rfl
  | ok files => exact (logged_gives _).result

/-- The files of a directory that can be read. -/
def filesRead (fs : FileTree) (dir : PackageDir) : List GoFile :=
  dir.files.filterMap fun p => (GoFile.load fs p).toOption

/-- A directory without the files that cannot be read. -/
def sound (fs : FileTree) (dir : PackageDir) : PackageDir :=
  { dir with files := dir.files.filter fun p => (GoFile.load fs p).toOption.isSome }

theorem filesRead_sound (fs : FileTree) (dir : PackageDir) :
    filesRead fs (sound fs dir) = filesRead fs dir := by
  rw [filesRead, sound, List.filterMap_filter, filesRead]
  congr
  funext p
  cases GoFile.load fs p <;> rfl

/-- If no file ends it, a loading comes to the packages of the files that can be read. -/
theorem result_loadDir_eq_ok {strict : Bool} (h : ∀ p ∈ dir.files, ∀ f,
      GoFile.load fs p = .error f → strict = false ∧ f.isOfFile = true) :
    (loadDir fs strict dir).result = .ok (ofFiles dir.importPath (filesRead fs dir)) := by
  have hm : dir.files.mapM (fun p => (GoFile.loadOrSkip fs strict p).result) =
      .ok (dir.files.map fun p => (GoFile.load fs p).toOption) := by
    rw [Except.mapM_eq_ok, List.forall₂_map_right_iff, List.forall₂_same]
    exact fun p hp => GoFile.result_loadOrSkip (h p hp)
  rw [result_loadDir, hm, Except.map_eq_ok]
  exact ⟨_, rfl, by rw [Except.reduceOption_map, filesRead]⟩

/-- A loading that was not ended was ended by no file. -/
theorem isOfFile_of_result {packages : List Package}
    (h : (loadDir fs false dir).result = .ok packages) :
    ∀ p ∈ dir.files, ∀ f, GoFile.load fs p = .error f → f.isOfFile = true := by
  rw [result_loadDir, Except.map_eq_ok] at h
  obtain ⟨files, hm, -⟩ := h
  intro p hp
  obtain ⟨o, -, ho⟩ := Except.exists_of_mapM_eq_ok hm hp
  exact GoFile.isOfFile_of_result ho

theorem strict_of_loadDir {strict : Bool} {c : Complaint}
    (h : (loadDir fs strict dir).result = .error (.complaint c)) :
    strict = true ∧ (Failure.complaint c).isOfFile = true := by
  rw [result_loadDir, Except.map_eq_error, Except.mapM_eq_error] at h
  obtain ⟨front, p, back, -, -, hp⟩ := h
  exact GoFile.strict_of_loadOrSkip hp

/-- Loading is ended by the first file that cannot be read, if it is strict. -/
theorem result_loadDir_strict {front back : List Path} {p : Path} {f : Failure}
    (hd : dir.files = front ++ p :: back)
    (hfront : ∀ q ∈ front, ∃ file, GoFile.load fs q = .ok file)
    (hp : GoFile.load fs p = .error f) : (loadDir fs true dir).result = .error f := by
  rw [result_loadDir, Except.map_eq_error, Except.mapM_eq_error]
  refine ⟨front, p, back, hd, fun q hq => ?_, ?_⟩
  · obtain ⟨file, hfile⟩ := hfront q hq
    rw [GoFile.loadOrSkip_of_ok hfile]
    exact ⟨some file, rfl⟩
  · rw [GoFile.loadOrSkip_of_error hp (.inl rfl)]
    rfl

/-- If each file can be read or fails by itself, a directory is loaded into one package for each
name that is declared, as if the files that fail were not there. A strict loading fails with the
first of them, and comes to the same packages if there is none. -/
theorem loadDir_grouped (fs : FileTree) (dir : PackageDir)
    (h : ∀ p ∈ dir.files, ∀ f, GoFile.load fs p = .error f → f.isOfFile = true) :
    (∃ packages, (loadDir fs false dir).result = .ok packages ∧
        Grouped dir.importPath (filesRead fs dir) packages ∧
        (loadDir fs false (sound fs dir)).result = .ok packages ∧
        ((∀ p ∈ dir.files, ∃ file, GoFile.load fs p = .ok file) →
          (loadDir fs true dir).result = .ok packages)) ∧
      ∀ front p back f, dir.files = front ++ p :: back →
        (∀ q ∈ front, ∃ file, GoFile.load fs q = .ok file) → GoFile.load fs p = .error f →
          (loadDir fs true dir).result = .error f := by
  have hlenient : ∀ p ∈ dir.files, ∀ f, GoFile.load fs p = .error f →
      false = false ∧ f.isOfFile = true :=
    fun p hp f hf => ⟨rfl, h p hp f hf⟩
  refine ⟨⟨_, result_loadDir_eq_ok hlenient, grouped_ofFiles _ _, ?_, fun hok => ?_⟩,
    fun front p back f => result_loadDir_strict⟩
  · rw [result_loadDir_eq_ok fun p hp => hlenient p (List.mem_filter.1 hp).1, filesRead_sound]
    rfl
  · refine result_loadDir_eq_ok fun p hp f hf => ?_
    obtain ⟨file, hfile⟩ := hok p hp
    rw [hfile] at hf
    cases hf

/-- A file that holds nothing but its package clause. -/
def clauseOnly (name : String) : Document :=
  let stop := 8 + name.utf8ByteSize
  let part (k : Kind) (start : Nat) (below : List Tree) : Tree :=
    .node ⟨k, start, stop, true, false, false, none⟩ below
  { bytes := ("package " ++ name).toUTF8.toList
    tree := part (.other "source_file") 0
      [part (.part .packageClause) 0 [part (.expr .packageIdentifier) 8 []]] }

/-- A file that is one syntax error. -/
def broken : Document :=
  { bytes := [], tree := .node ⟨.error, 0, 0, true, false, true, none⟩ [] }

/-- A package, its tests from outside, and a file that cannot be parsed between them. -/
def mixedTree : FileTree :=
  { entries := [(["p"], .dir), (["p", "a.go"], .file (clauseOnly "p")),
      (["p", "b.go"], .file broken), (["p", "b_test.go"], .file (clauseOnly "p_test")),
      (["p", "c.go"], .file (clauseOnly "p"))]
    work := []
    home := [] }

def mixedDir : PackageDir :=
  ⟨⟨"", ["p"]⟩, "m/p", ["a.go", "b.go", "b_test.go", "c.go"].map fun name => ⟨"", ["p", name]⟩⟩

theorem loadDir_grouped_mixedDir :
    (∃ packages, (loadDir mixedTree false mixedDir).result = .ok packages ∧
      packages.map (fun p => (p.path, p.name, p.files.map (·.filename))) =
        [("m/p", "p", ["p/a.go", "p/c.go"]), ("m/p_test", "p_test", ["p/b_test.go"])] ∧
      (loadDir mixedTree false (sound mixedTree mixedDir)).result = .ok packages) ∧
    (loadDir mixedTree true mixedDir).result =
      .error (.complaint (.parsing "p/b.go" "go" "syntax error at line 1")) := by
  have hfail : ∀ p ∈ mixedDir.files, (match GoFile.load mixedTree p with
      | .ok _ => true
      | .error f => f.isOfFile) = true := by
    decide +kernel
  obtain ⟨⟨packages, hok, -, hsound, -⟩, hstrict⟩ := loadDir_grouped mixedTree mixedDir
    fun p hp f hf => by simpa [hf] using hfail p hp
  have hview : ((loadDir mixedTree false mixedDir).result.toOption.map fun packages =>
      packages.map fun p => (p.path, p.name, p.files.map (·.filename))) =
        some [("m/p", "p", ["p/a.go", "p/c.go"]), ("m/p_test", "p_test", ["p/b_test.go"])] := by
    decide +kernel
  refine ⟨⟨packages, hok, ?_, hsound⟩, ?_⟩
  · rw [hok] at hview
    exact Option.some.inj hview
  · refine hstrict [⟨"", ["p", "a.go"]⟩] ⟨"", ["p", "b.go"]⟩ _ _ rfl (fun q hq => ?_) ?_
    · rw [List.mem_singleton.1 hq]
      exact Except.exists_eq_ok (by decide +kernel)
    · rfl

end Package

/-! Contents that end a loading -/

namespace GoFile

theorem mapM_id_eq_none {α : Type} {xs : List (Option α)} : xs.mapM id = none ↔ none ∈ xs := by
  induction xs with
  | nil => simp
  | cons x xs ih =>
      cases x with
      | none => simp
      | some a =>
          rw [List.mapM_cons]
          cases hxs : xs.mapM id <;> simp [hxs, ← ih]

/-- The name of a package or the path of an import is no text. -/
def HasIllFormedName (s : Source) (root : Tree) : Prop :=
  none ∈ packageNames s root ∨ none ∈ importPaths s root

/-- The declarations of a file are read first, then its names, and then a package is asked for. -/
theorem read_cases (s : Source) (root : Tree) :
    (∃ why, declarations s root = .error why ∧ GoFile.read s root = .error (.fault why)) ∨
      (∃ ds, declarations s root = .ok ds) ∧
        (HasIllFormedName s root ∧ GoFile.read s root = .error .illFormedText ∨
          ¬ HasIllFormedName s root ∧
            (GoFile.read s root = .error .noPackageClause ∨
              ∃ file, GoFile.read s root = .ok file)) := by
  unfold GoFile.read HasIllFormedName
  cases declarations s root with
  | error why => exact .inl ⟨why, rfl, rfl⟩
  | ok ds =>
      refine .inr ⟨⟨ds, rfl⟩, ?_⟩
      rw [← mapM_id_eq_none, ← mapM_id_eq_none]
      cases (packageNames s root).mapM id with
      | none => exact .inl ⟨.inl rfl, rfl⟩
      | some names =>
          cases (importPaths s root).mapM id with
          | none => exact .inl ⟨.inr rfl, rfl⟩
          | some imports =>
              refine .inr ⟨by simp, ?_⟩
              simp only [Except.mapError, bind, Except.bind]
              cases (names.getLastD "").isEmpty with
              | true => exact .inl rfl
              | false => exact .inr ⟨_, rfl⟩

/-- Contents that a file cannot be passed over for: a name that is no text in a file whose
declarations can be read, or a tree without something that every construct of its kind has. -/
def EndsLoading (s : Source) (root : Tree) : Prop :=
  (∃ ds, declarations s root = .ok ds) ∧ HasIllFormedName s root ∨
    ∃ what, declarations s root = .error (.lacks what)

theorem endsLoading_iff (s : Source) (root : Tree) :
    EndsLoading s root ↔ ∃ f, parse s root = .error f ∧ f.isOfFile = false := by
  unfold parse EndsLoading
  obtain ⟨why, hd, hr⟩ | ⟨⟨ds, hd⟩, h⟩ := read_cases s root
  · rw [hd, hr]
    cases why <;> simp [Except.mapError, ReadError.failure, Failure.isOfFile]
  · rw [hd]
    obtain ⟨hn, hr⟩ | ⟨hn, hr | ⟨file, hr⟩⟩ := h <;>
      simp [hr, hn, Except.mapError, ReadError.failure, Failure.isOfFile]

end GoFile

namespace Package

open Outcome

/-- A file that is read is found in one of the packages. -/
theorem mem_ofFiles {importPath : String} {files : List GoFile} {file : GoFile}
    (h : file ∈ files) : ∃ q ∈ ofFiles importPath files, file ∈ q.files :=
  List.mem_flatMap.1 ((grouped_ofFiles importPath files).perm.mem_iff.2 h)

/-- A file that is passed over is logged. -/
theorem skipRecord_mem_log {fs : FileTree} {dir : PackageDir} {packages : List Package}
    (h : (loadDir fs false dir).result = .ok packages) {p : Path} (hp : p ∈ dir.files)
    {c : Complaint} (hc : GoFile.load fs p = .error (.complaint c)) :
    GoFile.skipRecord p c ∈ (loadDir fs false dir).log := by
  rw [result_loadDir, Except.map_eq_ok] at h
  obtain ⟨files, hm, -⟩ := h
  unfold loadDir
  rw [log_bind ((result_mapM _ _).trans hm), log_mapM (Except.mapM_eq_ok.1 hm), List.mem_append,
    List.mem_flatMap]
  refine .inl ⟨p, hp, ?_⟩
  rw [GoFile.loadOrSkip_of_complaint hc]
  exact List.mem_singleton_self _

/-- What the files hold ends a loading that is not strict exactly if one of them has a name that is
no text, or a tree that lacks something. In any other case each file is found in one of the packages
or passed over with a warning. -/
theorem loadDir_lenient (fs : FileTree) (dir : PackageDir)
    (h : ∀ p ∈ dir.files, ∃ doc, fs.read p = .ok doc) :
    ((∃ f, (loadDir fs false dir).result = .error f) ↔
      ∃ p ∈ dir.files, ∃ doc, fs.read p = .ok doc ∧
        GoFile.EndsLoading ⟨p.render, doc.bytes⟩ doc.tree) ∧
    ∀ packages, (loadDir fs false dir).result = .ok packages → ∀ p ∈ dir.files,
      (∃ q ∈ packages, ∃ file ∈ q.files, GoFile.load fs p = .ok file) ∨
        ∃ c, GoFile.load fs p = .error (.complaint c) ∧
          GoFile.skipRecord p c ∈ (loadDir fs false dir).log := by
  have hload : ∀ p doc, fs.read p = .ok doc →
      GoFile.load fs p = GoFile.parse ⟨p.render, doc.bytes⟩ doc.tree := by
    intro p doc hr
    rw [GoFile.load, hr]
  refine ⟨⟨?_, ?_⟩, ?_⟩
  · rintro ⟨f, hf⟩
    by_contra hno
    have hall : ∀ p ∈ dir.files, ∀ g, GoFile.load fs p = .error g →
        false = false ∧ g.isOfFile = true := by
      intro p hp g hg
      obtain ⟨doc, hr⟩ := h p hp
      refine ⟨rfl, Bool.of_not_eq_false fun hfalse => hno ⟨p, hp, doc, hr, ?_⟩⟩
      rw [GoFile.endsLoading_iff, ← hload p doc hr]
      exact ⟨g, hg, hfalse⟩
    rw [result_loadDir_eq_ok hall] at hf
    cases hf
  · rintro ⟨p, hp, doc, hr, hends⟩
    rw [GoFile.endsLoading_iff, ← hload p doc hr] at hends
    obtain ⟨g, hg, hfalse⟩ := hends
    cases hres : (loadDir fs false dir).result with
    | error f => exact ⟨f, rfl⟩
    | ok packages => cases (isOfFile_of_result hres p hp g hg).symm.trans hfalse
  · intro packages hres p hp
    have hall := isOfFile_of_result hres
    have hpk : packages = ofFiles dir.importPath (filesRead fs dir) := by
      rw [result_loadDir_eq_ok fun p hp f hf => ⟨rfl, hall p hp f hf⟩] at hres
      exact (Except.ok.inj hres).symm
    cases hl : GoFile.load fs p with
    | ok file =>
        have hmem : file ∈ filesRead fs dir := List.mem_filterMap.2 ⟨p, hp, by rw [hl]; rfl⟩
        obtain ⟨q, hq, hfile⟩ := mem_ofFiles hmem
        exact .inl ⟨q, hpk ▸ hq, file, hfile, rfl⟩
    | error f =>
        obtain ⟨c, rfl⟩ := Failure.exists_complaint (hall p hp f hl)
        exact .inr ⟨c, rfl, skipRecord_mem_log hres hp hl⟩

/-- The file `package b`, `import "\xff"`: between the quotes stands a byte that begins no
character. -/
def garbledImport : Document :=
  let part (k : Kind) (slot : Option Slot) (start stop : Nat) (below : List Tree) : Tree :=
    .node ⟨k, start, stop, true, false, false, slot⟩ below
  { bytes := "package b\nimport \"".toUTF8.toList ++ 0xFF :: "\"\n".toUTF8.toList
    tree := part (.other "source_file") none 0 21
      [part (.part .packageClause) none 0 9 [part (.expr .packageIdentifier) none 8 9 []],
        part (.part .importDeclaration) none 10 20
          [part (.part .importSpec) none 17 20
            [part (.expr .interpretedStringLiteral) (some .path) 17 20 []]]] }

def garbledTree : FileTree :=
  { entries := [(["b"], .dir), (["b", "x.go"], .file (clauseOnly "b")),
      (["b", "y.go"], .file garbledImport)]
    work := []
    home := [] }

def garbledDir : PackageDir :=
  ⟨⟨"", ["b"]⟩, "b", ["x.go", "y.go"].map fun name => ⟨"", ["b", name]⟩⟩

/-- Such a file is not passed over. -/
theorem loadDir_garbledDir :
    (loadDir garbledTree false garbledDir).result = .error .illFormedText := by
  with_unfolding_all rfl

theorem loadDir_lenient_garbledDir :
    ∃ f, (loadDir garbledTree false garbledDir).result = .error f := by
  have hread : ∀ p ∈ garbledDir.files, (garbledTree.read p).toOption.isSome = true := by
    decide +kernel
  refine (loadDir_lenient garbledTree garbledDir fun p hp => ?_).1.2
    ⟨⟨"", ["b", "y.go"]⟩, by decide +kernel, garbledImport, rfl, .inl ⟨?_, .inr ?_⟩⟩
  · exact Except.exists_eq_ok (hread p hp)
  · exact Except.exists_eq_ok (by decide +kernel)
  · decide +kernel

end Package
end GoMetrics
