import GoMetrics.Proofs.Discovery.Reached
import GoMetrics.Proofs.Outcome

/-!
Recursive targets. One stands for the packages of all files below its base that are selected, and
is refused exactly if a path that has to be looked at is too long. A base can be short enough to be
entered by its path and still have nothing in it whose path is.
-/

namespace GoMetrics.PackageDir

variable {fs : FileTree} {includeTests : Bool} {base : Path} {place way : List String}

/-- A path that has to be looked at is too long: that of something in a directory that is reached,
or that of a module file in one that holds a package. -/
def IsOutOfReach (fs : FileTree) (includeTests : Bool) (base : Path) (place : List String) : Prop :=
  ∃ way, IsOpen way ∧ fs.get? (place ++ way) = some .dir ∧
    ((∃ name e, fs.get? (place ++ way ++ [name]) = some e ∧
        ((base.append way).child name).isTooLong = true) ∨
      (∃ name, Selected fs includeTests place way name) ∧
        ((Path.mk "/" (place ++ way)).child Module.fileName).isTooLong = true)

/-! From the target to the packages -/

theorem target_recursive (s : String) :
    target (s ++ "/...") = (Path.ofString (s ++ "/"), true) := by
  have hends : (s ++ "/...").endsWith "/..." = true := Text.endsWith_iff.2 ⟨s, rfl⟩
  have hbefore : String.ofList (s ++ "/...").toList.dropLast.dropLast.dropLast = s ++ "/" := by
    rw [← String.toList_inj]
    simp
  rw [target, hends, Bool.or_true, if_pos rfl, hbefore]

theorem result_expandTarget {text : String} (htarget : target text = (base, true))
    (hbase : fs.directory base = .ok place) :
    (expandTarget fs includeTests text).result =
      ((fun found => (found.reduceOption, [])) <$>
        (walk fs base >>= List.mapM (ofDirectory? fs includeTests))).mapError .access := by
  have hgives : ∀ b : Bool, Outcome.ofExcept Failure.access (.ok b) = pure b := fun _ => rfl
  unfold expandTarget
  rw [htarget]
  simp only [FileTree.exists?_of_directory hbase, FileTree.isFile_of_directory hbase, hgives,
    pure_bind, Bool.not_true, Bool.false_and, Bool.false_eq_true, if_false, if_true]
  rw [Outcome.result_bind]
  cases walk fs base with
  | error f => rfl
  | ok dirs =>
      have hok : (Except.ok dirs >>= List.mapM (ofDirectory? fs includeTests)) =
          dirs.mapM (ofDirectory? fs includeTests) := rfl
      rw [hok]
      change ((dirs.mapM _ >>= _ : Outcome _).result = _)
      rw [Outcome.result_bind, Outcome.result_mapM]
      change (dirs.mapM fun dir => (ofDirectory? fs includeTests dir).mapError _) >>= _ = _
      rw [Except.mapM_mapError]
      cases dirs.mapM (ofDirectory? fs includeTests) <;> rfl

/-- A recursive target comes to what the directories below its base come to. -/
theorem result_expand {text : String} (htarget : target text = (base, true))
    (hbase : fs.directory base = .ok place) :
    (expand fs includeTests [text]).result =
      (List.reduceOption <$> (walk fs base >>= List.mapM (ofDirectory? fs includeTests))).mapError
        .access := by
  rw [expand, Outcome.result_bind, Outcome.result_mapM, List.mapM_cons, List.mapM_nil,
    result_expandTarget htarget hbase]
  cases walk fs base >>= List.mapM (ofDirectory? fs includeTests) with
  | error f => rfl
  | ok found =>
      change Except.ok ([found.reduceOption].flatten ++ []) = Except.ok found.reduceOption
      simp

/-- If every directory that is reached can be looked into, the packages are found. -/
theorem packages_of_ok (hbase : fs.directory base = .ok place) (hshort : AllShort fs base place)
    (hok : ∀ way ∈ ways fs place, ∃ o, ofDirectory? fs includeTests (base.append way) = .ok o) :
    List.reduceOption <$> (walk fs base >>= List.mapM (ofDirectory? fs includeTests)) =
      .ok (found fs includeTests base place) := by
  have hmap : ((ways fs place).map base.append).mapM (ofDirectory? fs includeTests) =
      .ok ((ways fs place).map fun way =>
        (ofDirectory? fs includeTests (base.append way)).toOption.join) := by
    rw [Except.mapM_eq_ok, List.forall₂_map_left_iff, List.forall₂_map_right_iff,
      List.forall₂_same]
    intro way hway
    obtain ⟨o, ho⟩ := hok way hway
    rw [ho]
    rfl
  rw [walk_of_allShort hbase hshort, Except.map_eq_ok]
  exact ⟨_, hmap, Except.reduceOption_map _ _⟩

/-- If one of them cannot, that is because of the length of a path. -/
theorem packages_of_error (wf : fs.WellFormed) (hbase : fs.directory base = .ok place)
    (hshort : AllShort fs base place) (hway : way ∈ ways fs place)
    (h : ofDirectory? fs includeTests (base.append way) = .error .tooLong) :
    List.reduceOption <$> (walk fs base >>= List.mapM (ofDirectory? fs includeTests)) =
      .error .tooLong := by
  rw [walk_of_allShort hbase hshort, Except.map_eq_error]
  change ((ways fs place).map base.append).mapM (ofDirectory? fs includeTests) = _
  cases hm : ((ways fs place).map base.append).mapM (ofDirectory? fs includeTests) with
  | ok found =>
      obtain ⟨o, -, ho⟩ := Except.exists_of_mapM_eq_ok hm (List.mem_map_of_mem hway)
      cases h.symm.trans ho
  | error f =>
      -- The first directory that fails need not be this one, but it fails for the same reason.
      obtain ⟨front, dir, back, hsplit, -, hdir⟩ := Except.mapM_eq_error.1 hm
      have hmem : dir ∈ (ways fs place).map base.append := by
        rw [hsplit]
        exact List.mem_append_right _ List.mem_cons_self
      obtain ⟨way', hway', rfl⟩ := List.mem_map.1 hmem
      rw [eq_tooLong_of_ofDirectory? wf hbase hshort hway' hdir]

theorem allShort_of_not_isOutOfReach (wf : fs.WellFormed) (hbase : fs.directory base = .ok place)
    (h : ¬IsOutOfReach fs includeTests base place) : AllShort fs base place := by
  intro way hway name hname
  obtain ⟨hopen, hdir⟩ := (mem_ways wf (FileTree.directory_eq_ok.1 hbase).2).1 hway
  obtain ⟨e, he⟩ := wf.mem_namesIn.1 hname
  exact Bool.eq_false_iff.2 fun hlong => h ⟨way, hopen, hdir, .inl ⟨name, e, he, hlong⟩⟩

theorem not_allShort (wf : fs.WellFormed) (hbase : fs.directory base = .ok place)
    (hopen : IsOpen way) {name : String} {e : Entry}
    (hget : fs.get? (place ++ way ++ [name]) = some e)
    (hlong : ((base.append way).child name).isTooLong = true) : ¬AllShort fs base place := by
  intro hshort
  have hdir := (wf.of_get?_concat hget).1
  have hway := (mem_ways wf (FileTree.directory_eq_ok.1 hbase).2).2 ⟨hopen, hdir⟩
  have hfalse := hshort way hway name (wf.mem_namesIn.2 ⟨e, hget⟩)
  cases hlong.symm.trans hfalse

/-- A recursive target stands for the packages of all files below its base that are selected. It is
refused exactly if a path that has to be looked at is too long. -/
theorem expand_recursive (wf : fs.WellFormed) (includeTests : Bool) (s : String)
    (hbase : fs.directory (Path.ofString (s ++ "/")) = .ok place) :
    (¬IsOutOfReach fs includeTests (Path.ofString (s ++ "/")) place →
      ∃ packages, (expand fs includeTests [s ++ "/..."]).result = .ok packages ∧
        Discovered fs includeTests (Path.ofString (s ++ "/")) place packages) ∧
    (IsOutOfReach fs includeTests (Path.ofString (s ++ "/")) place →
      (expand fs includeTests [s ++ "/..."]).result = .error (.access .tooLong)) := by
  rw [result_expand (target_recursive s) hbase]
  refine ⟨fun hreach => ?_, fun hreach => ?_⟩
  · have hshort := allShort_of_not_isOutOfReach wf hbase hreach
    have hok : ∀ way ∈ ways fs place,
        ∃ o, ofDirectory? fs includeTests ((Path.ofString (s ++ "/")).append way) = .ok o := by
      intro way hway
      obtain ⟨hopen, hdir⟩ := (mem_ways wf (FileTree.directory_eq_ok.1 hbase).2).1 hway
      exact exists_ofDirectory? wf hbase hshort hway fun hsome =>
        Bool.eq_false_iff.2 fun hlong => hreach ⟨way, hopen, hdir, .inr ⟨hsome, hlong⟩⟩
    rw [packages_of_ok hbase hshort hok]
    exact ⟨_, rfl, discovered_found wf hbase hshort hok⟩
  · by_cases hshort : AllShort fs (Path.ofString (s ++ "/")) place
    · obtain ⟨way, hopen, -, ⟨name, e, he, hlong⟩ | ⟨⟨name, hsome⟩, hlong⟩⟩ := hreach
      · exact absurd hshort (not_allShort wf hbase hopen he hlong)
      · have hway := hsome.mem_ways wf hbase
        rw [packages_of_error wf hbase hshort hway
          (ofDirectory?_eq_error wf hbase hshort hway hsome hlong)]
        rfl
    · rw [walk_of_not_allShort hbase hshort]
      rfl

/-- A package with a test, a package below it, and one that was copied in. -/
def nestedTree : FileTree :=
  let file : Entry := .file { bytes := [] }
  { entries := [(["m"], .dir), (["m", "a.go"], file), (["m", "a_test.go"], file),
      (["m", "sub"], .dir), (["m", "sub", "b.go"], file), (["m", "vendor"], .dir),
      (["m", "vendor", "v.go"], file)]
    work := []
    home := [] }

theorem wellFormed_nestedTree : nestedTree.WellFormed where
  nodup := by decide
  work := rfl
  inDir := by
    intro spot e h
    simp only [nestedTree, List.mem_cons, Prod.mk.injEq, List.not_mem_nil, or_false] at h
    rcases h with ⟨rfl, -⟩ | ⟨rfl, -⟩ | ⟨rfl, -⟩ | ⟨rfl, -⟩ | ⟨rfl, -⟩ | ⟨rfl, -⟩ | ⟨rfl, -⟩
    · exact ⟨[], "m", rfl, by decide, rfl⟩
    · exact ⟨["m"], "a.go", rfl, by decide, rfl⟩
    · exact ⟨["m"], "a_test.go", rfl, by decide, rfl⟩
    · exact ⟨["m"], "sub", rfl, by decide, rfl⟩
    · exact ⟨["m", "sub"], "b.go", rfl, by decide, rfl⟩
    · exact ⟨["m"], "vendor", rfl, by decide, rfl⟩
    · exact ⟨["m", "vendor"], "v.go", rfl, by decide, rfl⟩

theorem directory_nestedTree : nestedTree.directory (Path.ofString ("m" ++ "/")) = .ok ["m"] := by
  rfl

theorem not_isOutOfReach_nestedTree :
    ¬IsOutOfReach nestedTree false (Path.ofString ("m" ++ "/")) ["m"] := by
  have hshort : ∀ x ∈ nestedTree.entries,
      ((Path.ofString ("m" ++ "/")).append (x.1.drop 1)).isTooLong = false ∧
        ((Path.mk "/" x.1).child Module.fileName).isTooLong = false := by
    decide
  rintro ⟨way, -, hdir, ⟨name, e, hget, hlong⟩ | ⟨-, hlong⟩⟩
  · rw [FileTree.get?_concat, wellFormed_nestedTree.lookup_eq_some_iff] at hget
    have := (hshort _ hget).1
    rw [Path.child, Path.append_append] at hlong
    exact absurd hlong (Bool.eq_false_iff.1 this)
  · have hmem : (["m"] ++ way, .dir) ∈ nestedTree.entries :=
      wellFormed_nestedTree.lookup_eq_some_iff.1 hdir
    exact absurd hlong (Bool.eq_false_iff.1 (hshort _ hmem).2)

theorem selected_nestedTree : Selected nestedTree false ["m"] ["sub"] "b.go" where
  isFile := ⟨_, rfl⟩
  suffix := ⟨"b", by decide, rfl⟩
  shown := by simp [IsSetAside]
  noTest _ stem h := by
    have hlength := congrArg String.length h
    rw [String.length_append] at hlength
    change 4 = stem.length + 8 at hlength
    omega
  isOpen := by simp [IsOpen, IsSetAside]

/-! A base that is short enough to be entered and too long to be looked into -/

/-- A directory with one file. -/
def plainTree : FileTree :=
  { entries := [(["a"], .dir), (["a", "x.go"], .file { bytes := [] })]
    work := []
    home := [] }

/-- A way to the directory that goes in and out of it first. -/
def detour : Nat → String
  | 0 => "a"
  | n + 1 => "a" ++ "/" ++ (".." ++ "/" ++ detour n)

def detourParts : Nat → List String
  | 0 => ["a"]
  | n + 1 => "a" :: ".." :: detourParts n

theorem ofString_detour (n : Nat) : Path.ofString (detour n ++ "/") = ⟨"", detourParts n⟩ := by
  have hparts : (Path.ofString (detour n ++ "/")).parts = detourParts n := by
    induction n with
    | zero => rfl
    | succ n ih =>
        have hsplit : detour (n + 1) ++ "/" = "a" ++ "/" ++ (".." ++ "/" ++ (detour n ++ "/")) := by
          simp only [detour, String.append_assoc]
        rw [hsplit, Path.parts_ofString_append, Path.parts_ofString_append, ih]
        rfl
  have hroot : Path.rootOf (detour n ++ "/").toList = "" := by
    cases n <;> simp [detour, Path.rootOf]
  rw [← hparts, ← hroot]
  rfl

theorem follow_detourParts (n : Nat) : plainTree.follow [] (detourParts n) = .ok ["a"] := by
  induction n with
  | zero => rfl
  | succ n ih => exact ih

theorem detourParts_ne_nil (n : Nat) : detourParts n ≠ [] := by
  cases n <;> exact List.cons_ne_nil _ _

theorem utf8ByteSize_detourParts (n : Nat) :
    (String.intercalate "/" (detourParts n)).utf8ByteSize = 5 * n + 1 := by
  induction n with
  | zero => rfl
  | succ n ih =>
      rw [detourParts, String.intercalate_cons_cons,
        String.intercalate_cons_of_ne_nil (detourParts_ne_nil n)]
      simp only [String.utf8ByteSize_append, ih]
      change 1 + 1 + (2 + 1 + (5 * n + 1)) = _
      omega

theorem render_detour (n : Nat) :
    (Path.mk "" (detourParts n)).render = String.intercalate "/" (detourParts n) := by
  simp [Path.render, detourParts_ne_nil]

theorem hasNul_detour (n : Nat) : (Path.mk "" (detourParts n)).hasNul = false := by
  refine Path.hasNul_eq_false ?_
  induction n with
  | zero => decide
  | succ n ih =>
      change ∀ c ∈ "a" :: ".." :: detourParts n, _
      rw [List.forall_mem_cons, List.forall_mem_cons]
      exact ⟨by decide, by decide, ih⟩

theorem directory_detour {n : Nat} (h : 5 * n + 1 < Path.byteLimit) :
    plainTree.directory (Path.ofString (detour n ++ "/")) = .ok ["a"] := by
  rw [ofString_detour, FileTree.directory_eq_ok, FileTree.locate_eq_ok]
  refine ⟨⟨hasNul_detour n, ?_, follow_detourParts n⟩, rfl⟩
  rw [Path.isTooLong, render_detour, utf8ByteSize_detourParts]
  exact decide_eq_false (Nat.not_le.2 h)

theorem wellFormed_plainTree : plainTree.WellFormed where
  nodup := by decide
  work := rfl
  inDir := by
    intro spot e h
    simp only [plainTree, List.mem_cons, Prod.mk.injEq, List.not_mem_nil, or_false] at h
    rcases h with ⟨rfl, -⟩ | ⟨rfl, -⟩
    · exact ⟨[], "a", rfl, by decide, rfl⟩
    · exact ⟨["a"], "x.go", rfl, by decide, rfl⟩

/-- The name of the file makes the path too long. -/
theorem isTooLong_detour {n : Nat} (h : Path.byteLimit ≤ 5 * n + 6) :
    (((Path.ofString (detour n ++ "/")).append []).child "x.go").isTooLong = true := by
  rw [Path.append_nil, ofString_detour, Path.isTooLong, Path.render_child,
    String.intercalate_append_of_ne_nil (detourParts_ne_nil n) (List.cons_ne_nil _ _)]
  simp only [String.utf8ByteSize_append, utf8ByteSize_detourParts]
  refine decide_eq_true (Nat.le_trans h ?_)
  change 5 * n + 6 ≤ 0 + (5 * n + 1 + 1 + 4)
  omega

theorem isOutOfReach_detour {n : Nat} (h : Path.byteLimit ≤ 5 * n + 6) :
    IsOutOfReach plainTree true (Path.ofString (detour n ++ "/")) ["a"] :=
  ⟨[], nofun, rfl, .inl ⟨"x.go", _, rfl, isTooLong_detour h⟩⟩

theorem selected_plainTree : Selected plainTree true ["a"] [] "x.go" where
  isFile := ⟨_, rfl⟩
  suffix := ⟨"x", by decide, rfl⟩
  shown := by simp [IsSetAside]
  noTest := nofun
  isOpen := nofun

/-- A directory that is there and holds a file that is selected, and yet is refused: its path has
4091 bytes, and with the name of the file 4096. -/
theorem expand_detour :
    plainTree.WellFormed ∧
      plainTree.directory (Path.ofString (detour 818 ++ "/")) = .ok ["a"] ∧
      Selected plainTree true ["a"] [] "x.go" ∧
      (expand plainTree true [detour 818 ++ "/..."]).result = .error (.access .tooLong) := by
  have hbase := @directory_detour 818 (by decide)
  refine ⟨wellFormed_plainTree, hbase, selected_plainTree, ?_⟩
  have hlong : ¬AllShort plainTree (Path.ofString (detour 818 ++ "/")) ["a"] :=
    not_allShort wellFormed_plainTree hbase selected_plainTree.isOpen rfl
      (isTooLong_detour (by decide))
  rw [result_expand (target_recursive _) hbase, walk_of_not_allShort hbase hlong]
  rfl

theorem expand_recursive_nestedTree :
    (nestedTree.WellFormed ∧ nestedTree.directory (Path.ofString ("m" ++ "/")) = .ok ["m"] ∧
      ¬IsOutOfReach nestedTree false (Path.ofString ("m" ++ "/")) ["m"] ∧
      ∃ packages, (expand nestedTree false ["m" ++ "/..."]).result = .ok packages ∧
        Discovered nestedTree false (Path.ofString ("m" ++ "/")) ["m"] packages ∧
        (∃! d, d ∈ packages ∧ Lists nestedTree d ["m", "sub", "b.go"]) ∧
        ∀ d ∈ packages, ¬Lists nestedTree d ["m", "vendor", "v.go"]) ∧
    (plainTree.WellFormed ∧
      plainTree.directory (Path.ofString (detour 818 ++ "/")) = .ok ["a"] ∧
      IsOutOfReach plainTree true (Path.ofString (detour 818 ++ "/")) ["a"] ∧
      (expand plainTree true [detour 818 ++ "/..."]).result = .error (.access .tooLong)) := by
  refine ⟨⟨wellFormed_nestedTree, directory_nestedTree, not_isOutOfReach_nestedTree, ?_⟩,
    wellFormed_plainTree, directory_detour (by decide), isOutOfReach_detour (by decide),
    (expand_recursive wellFormed_plainTree true (detour 818) (directory_detour (by decide))).2
      (isOutOfReach_detour (by decide))⟩
  obtain ⟨packages, hresult, hfound⟩ := (expand_recursive wellFormed_nestedTree false "m"
    directory_nestedTree).1 not_isOutOfReach_nestedTree
  refine ⟨packages, hresult, hfound, hfound.listed _ _ selected_nestedTree, ?_⟩
  rintro d hd ⟨p, hp, hlocate⟩
  obtain ⟨way, -, -, hfiles⟩ := hfound.inDirectory d hd
  obtain ⟨name, -, hlocate', h⟩ := hfiles p hp
  -- The only way there leads through a directory that is skipped.
  have hspot : ["m"] ++ way ++ [name] = ["m"] ++ ["vendor"] ++ ["v.go"] :=
    Except.ok.inj (hlocate'.symm.trans hlocate)
  obtain ⟨hway, -⟩ := List.append_singleton_inj.1 hspot
  obtain rfl := List.append_cancel_left hway
  exact absurd rfl (h.isOpen "vendor" List.mem_cons_self).1

end GoMetrics.PackageDir
