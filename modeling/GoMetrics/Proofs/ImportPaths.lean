import Mathlib.Data.List.Infix
import GoMetrics.Proofs.Module

/-!
Import paths below a module. A directory belongs to the nearest module file above it that names a
module. Its import path is that name continued by the way down, so that it grows with every
directory that is entered until another module begins.
-/

namespace GoMetrics

namespace FileTree

variable {fs : FileTree} {p : Path} {place s : List String}

/-- The place to which the components of a path lead if none of them goes up. -/
def spot (fs : FileTree) (p : Path) : List String :=
  (if p.isAbsolute then [] else fs.work) ++ p.parts

theorem spot_append (fs : FileTree) (p : Path) (s : List String) :
    fs.spot (p.append s) = fs.spot p ++ s :=
  (List.append_assoc _ _ _).symm

theorem spot_of_locate (hup : ".." ∉ p.parts) (h : fs.locate p = .ok place) :
    fs.spot p = place := by
  have hfollow := follow_eq_ok (locate_eq_ok.1 h).2.2
  rwa [Path.foldl_eq_append _ fun c hc heq => hup (heq ▸ hc)] at hfollow

/-- What is there can be located unless its path is too long. -/
theorem locate_of_get? (wf : fs.WellFormed) {e : Entry} (h : fs.get? (fs.spot p) = some e) :
    fs.locate p = if p.isTooLong then .error .tooLong else .ok (fs.spot p) := by
  have hnul : p.hasNul = false := Path.hasNul_eq_false fun c hc =>
    (wf.isName_of_mem h c (List.mem_append_right _ hc)).no_nul
  have hfollow := follow_way wf h
  rw [locate, hnul, hfollow]
  rfl

/-- What is told about a path that does not go up is what is at its place. -/
theorem entry?_eq_ok (wf : fs.WellFormed) (hup : ".." ∉ p.parts) {o : Option Entry}
    (h : fs.entry? p = .ok o) : o = fs.get? (fs.spot p) := by
  unfold entry? at h
  cases hl : fs.locate p with
  | ok place =>
      rw [hl] at h
      rw [spot_of_locate hup hl]
      exact (Except.ok.inj h).symm
  | error why =>
      rw [hl] at h
      cases hg : fs.get? (fs.spot p) with
      | none => cases why <;> cases h <;> rfl
      | some e =>
          rw [locate_of_get? wf hg] at hl
          split at hl
          · cases hl
            cases h
          · cases hl

theorem read_eq_ok (hup : ".." ∉ p.parts) {doc : Document} (h : fs.read p = .ok doc) :
    fs.get? (fs.spot p) = some (.file doc) := by
  obtain ⟨place, hl, h⟩ := Except.bind_eq_ok.1 h
  rw [spot_of_locate hup hl]
  split at h
  · next hdoc =>
      cases h
      exact hdoc
  · cases h
  · cases h

/-- Names continue what a path is resolved to. -/
theorem resolve_append (h : fs.resolve p = .ok ⟨"/", place⟩) (hs : ∀ c ∈ s, IsName c) :
    fs.resolve (p.append s) = .ok ⟨"/", place ++ s⟩ := by
  unfold resolve at *
  cases hnul : p.hasNul with
  | true =>
      rw [hnul] at h
      cases h
  | false =>
      rw [hnul] at h
      have hplace : Path.collapse ((if p.isAbsolute then [] else fs.work) ++ p.parts) = place :=
        congrArg Path.parts (Except.ok.inj h)
      rw [Path.hasNul_append, hnul, Path.hasNul_eq_false fun c hc => (hs c hc).no_nul]
      change Except.ok (Path.mk "/" (Path.collapse
        ((if p.isAbsolute then [] else fs.work) ++ (p.parts ++ s)))) = _
      rw [← List.append_assoc, Path.collapse_append,
        Path.foldl_eq_append _ fun c hc => (hs c hc).ne_parent, hplace]

end FileTree

namespace Module

open FileTree (IsName)

variable {fs : FileTree} {p dir : Path} {place root root' s t : List String} {name name' : String}

/-! What governs a place -/

/-- The module that a file right at a place names, if there is one. -/
def nameAt? (fs : FileTree) (place : List String) : Option String :=
  match fs.get? (place ++ [fileName]) with
  | some (.file doc) => (nameIn? doc.bytes).filter fun name => !name.isEmpty
  | _ => none

/-- A place belongs to the nearest module above it. -/
structure Governs (fs : FileTree) (root place : List String) (name : String) : Prop where
  above : root <+: place
  named : nameAt? fs root = some name
  nearest : ∀ other, root <+: other → other <+: place → other ≠ root → nameAt? fs other = none

/-- On the way down no other module begins. -/
def IsUnbroken (fs : FileTree) (place s : List String) : Prop :=
  ∀ t, t ≠ [] → t <+: s → nameAt? fs (place ++ t) = none

instance : Decidable (IsUnbroken fs place s) :=
  decidable_of_iff (∀ t ∈ s.inits, t ≠ [] → nameAt? fs (place ++ t) = none) <| by
    simp only [IsUnbroken, List.mem_inits]
    exact forall_congr' fun t => ⟨fun h ht hin => h hin ht, fun h hin ht => h ht hin⟩

theorem append_ne_of_above (h : root <+: place) (ht : t ≠ []) : place ++ t ≠ root := by
  intro heq
  have hlength := h.length_le
  have hpos := List.length_pos_iff.2 ht
  rw [← heq, List.length_append] at hlength
  omega

theorem Governs.self (h : nameAt? fs place = some name) : Governs fs place place name where
  above := List.prefix_rfl
  named := h
  nearest _ h₁ h₂ hne := absurd (h₂.eq_of_length_le h₁.length_le) hne

/-- One step down the same module governs if there is no other. -/
theorem Governs.child (h : Governs fs root place name) {c : String}
    (hc : nameAt? fs (place ++ [c]) = none) : Governs fs root (place ++ [c]) name where
  above := h.above.trans (List.prefix_append place [c])
  named := h.named
  nearest := by
    intro other hroot hother hne
    obtain rfl | hin := List.prefix_concat_iff.1 hother
    · exact hc
    · exact h.nearest other hroot hin hne

theorem Governs.below (h : Governs fs root place name) (hs : IsUnbroken fs place s) :
    Governs fs root (place ++ s) name := by
  induction s using List.reverseRecOn with
  | nil => rwa [List.append_nil]
  | append_singleton above c ih =>
      have habove := ih fun t ht hin => hs t ht (hin.trans (List.prefix_append above [c]))
      rw [← List.append_assoc]
      refine habove.child ?_
      rw [List.append_assoc]
      exact hs (above ++ [c]) (by simp) List.prefix_rfl

/-- On the way down to what it governs a module governs everything. -/
theorem Governs.between {mid : List String} (h : Governs fs root place name)
    (hroot : root <+: mid) (hmid : mid <+: place) : Governs fs root mid name where
  above := hroot
  named := h.named
  nearest other h₁ h₂ hne := h.nearest other h₁ (h₂.trans hmid) hne

theorem Governs.unique (h : Governs fs root place name) (h' : Governs fs root' place name') :
    root = root' ∧ name = name' := by
  have hroot : root = root' := by
    by_contra hne
    obtain hin | hin := List.prefix_or_prefix_of_prefix h.above h'.above
    · have hnone := h.nearest root' hin h'.above (Ne.symm hne)
      rw [h'.named] at hnone
      cases hnone
    · have hnone := h'.nearest root hin h.above hne
      rw [h.named] at hnone
      cases hnone
  subst hroot
  exact ⟨rfl, Option.some.inj (h.named.symm.trans h'.named)⟩

/-! Looking for the module -/

theorem map_filter_named (o : Option String) (dir : Path) :
    ((o.filter fun name => !name.isEmpty).map fun name => (dir, name)) =
      o.bind fun name => if name.isEmpty then none else some (dir, name) := by
  cases o with
  | none => rfl
  | some name =>
      rw [Option.filter_some, Option.bind_some]
      cases name.isEmpty <;> rfl

theorem at?_eq_ok (wf : fs.WellFormed) (hup : ".." ∉ dir.parts) {o : Option (Path × String)}
    (h : at? fs dir = .ok o) : o = (nameAt? fs (fs.spot dir)).map fun name => (dir, name) := by
  have hfile : ".." ∉ (dir.child fileName).parts := by
    intro hc
    rcases List.mem_append.1 hc with hc | hc
    · exact hup hc
    · exact absurd hc (by decide)
  obtain ⟨b, hb, h⟩ := Except.bind_eq_ok.1 h
  obtain ⟨e, he, hb⟩ := Except.bind_eq_ok.1 hb
  have hget := FileTree.entry?_eq_ok wf hfile he
  rw [Path.child, FileTree.spot_append] at hget
  rw [nameAt?, ← hget]
  cases e with
  | none =>
      cases hb
      cases h
      rfl
  | some e =>
      cases e with
      | dir =>
          cases hb
          cases h
          rfl
      | file doc =>
          cases hb
          simp only [if_true] at h
          obtain ⟨o', ho', h⟩ := Except.bind_eq_ok.1 h
          obtain ⟨doc', hread, ho'⟩ := Except.bind_eq_ok.1 ho'
          have hdoc := FileTree.read_eq_ok hfile hread
          rw [Path.child, FileTree.spot_append, ← hget] at hdoc
          cases hdoc
          cases ho'
          cases h
          exact (map_filter_named _ dir).symm

theorem find?_child (fs : FileTree) (dir : Path) (c : String) :
    find? fs (dir.child c) = at? fs (dir.child c) >>= fun
      | some found => pure (some found)
      | none => find? fs dir := by
  rw [find?, Path.parents_child, List.findSomeM?_cons]
  refine congrArg (at? fs (dir.child c) >>= ·) (funext fun o => ?_)
  cases o <;> rfl

theorem governs_of_at? (wf : fs.WellFormed) (hup : ".." ∉ dir.parts) {found : Path × String}
    (h : at? fs dir = .ok (some found)) :
    Governs fs (fs.spot found.1) (fs.spot dir) found.2 := by
  obtain ⟨name, hname, rfl⟩ := Option.map_eq_some_iff.1 (at?_eq_ok wf hup h).symm
  exact .self hname

/-- What is found above a path that does not go up is the nearest module. -/
theorem governs_of_find? (wf : fs.WellFormed) (hup : ".." ∉ dir.parts) {found : Path × String}
    (h : find? fs dir = .ok (some found)) :
    Governs fs (fs.spot found.1) (fs.spot dir) found.2 := by
  obtain ⟨top, parts⟩ := dir
  induction parts using List.reverseRecOn with
  | nil =>
      obtain ⟨o, ho, h⟩ := Except.bind_eq_ok.1 h
      cases o with
      | none => cases h
      | some found' =>
          cases h
          exact governs_of_at? wf hup ho
  | append_singleton above c ih =>
      have hfind := find?_child fs ⟨top, above⟩ c
      have hspot : fs.spot ⟨top, above ++ [c]⟩ = fs.spot ⟨top, above⟩ ++ [c] :=
        FileTree.spot_append fs ⟨top, above⟩ [c]
      obtain ⟨o, ho, h⟩ := Except.bind_eq_ok.1 (hfind.symm.trans h)
      cases o with
      | some found' =>
          cases h
          exact governs_of_at? wf hup ho
      | none =>
          have hnone := Option.map_eq_none_iff.1 (at?_eq_ok wf hup ho).symm
          have habove := ih (fun hc => hup (List.mem_append_left _ hc)) h
          rw [hspot] at hnone ⊢
          exact habove.child hnone

/-- The path of a module file right at a place can be looked at. -/
def IsInReach (place : List String) : Prop :=
  ((Path.mk "/" place).child fileName).isTooLong = false

instance : DecidablePred IsInReach := fun _ => inferInstanceAs (Decidable (_ = false))

/-- What is above a place in reach is in reach. -/
theorem IsInReach.of_append (h : IsInReach (place ++ s)) : IsInReach place :=
  Bool.eq_false_iff.2 fun hlong =>
    Bool.eq_false_iff.1 h ((Path.mk "/" place).isTooLong_child_append s hlong)

section InReach

variable (wf : fs.WellFormed) (hnames : ∀ c ∈ place, IsName c) (hreach : IsInReach place)

include wf hnames hreach

theorem at?_eq :
    at? fs ⟨"/", place⟩ = .ok ((nameAt? fs place).map fun name => (⟨"/", place⟩, name)) := by
  obtain ⟨o, ho⟩ := exists_at? hreach fun c hc => (hnames c hc).short
  rw [ho, at?_eq_ok wf (fun hc => (hnames ".." hc).ne_parent rfl) ho]
  rfl

theorem find?_self (h : nameAt? fs place = some name) :
    find? fs ⟨"/", place⟩ = .ok (some (⟨"/", place⟩, name)) := by
  rw [find?, List.findSomeM?_cons, at?_eq wf hnames hreach, h]
  rfl

/-- The module that governs a place is found from there. -/
theorem find?_of_governs (h : Governs fs root place name) :
    find? fs ⟨"/", place⟩ = .ok (some (⟨"/", root⟩, name)) := by
  induction place using List.reverseRecOn with
  | nil =>
      obtain rfl := List.prefix_nil.1 h.above
      exact find?_self wf hnames hreach h.named
  | append_singleton above c ih =>
      obtain rfl | hin := List.prefix_concat_iff.1 h.above
      · exact find?_self wf hnames hreach h.named
      · have hne : above ++ [c] ≠ root := append_ne_of_above hin (List.cons_ne_nil c [])
        have hat := at?_eq wf hnames hreach
        rw [h.nearest _ h.above List.prefix_rfl hne] at hat
        have hfind := find?_child fs ⟨"/", above⟩ c
        change find? fs ⟨"/", above ++ [c]⟩ = at? fs ⟨"/", above ++ [c]⟩ >>= _ at hfind
        rw [hfind, hat]
        exact ih (fun d hd => hnames d (List.mem_append_left _ hd)) hreach.of_append
          (h.between hin (List.prefix_append above [c]))

/-- The import path of what a module governs. -/
theorem importPath_of_governs (hresolve : fs.resolve p = .ok ⟨"/", place⟩)
    (h : Governs fs root place name) :
    importPath fs p = .ok (String.intercalate "/" (name :: place.drop root.length)) := by
  have hbelow : below? ⟨"/", place⟩ ⟨"/", root⟩ = some (place.drop root.length) := by
    rw [below?, List.isPrefixOf_iff_prefix.2 h.above]
    rfl
  rw [importPath, hresolve]
  simp only [bind, Except.bind, find?_of_governs wf hnames hreach h, hbelow, Option.getD_some]
  rfl

end InReach

/-! Paths joined with slashes -/

theorem intercalate_append {xs : List String} (hs : s ≠ []) :
    String.intercalate "/" (name :: (xs ++ s)) =
      String.intercalate "/" (name :: xs) ++ "/" ++ String.intercalate "/" s := by
  rw [← List.cons_append, String.intercalate_append_of_ne_nil (List.cons_ne_nil name xs) hs]

/-- Names without slashes can be told from what they are joined to. -/
theorem intercalate_injective {xs ys : List String} (hx : ∀ c ∈ xs, '/' ∉ c.toList)
    (hy : ∀ c ∈ ys, '/' ∉ c.toList)
    (h : String.intercalate "/" (name :: xs) = String.intercalate "/" (name :: ys)) : xs = ys := by
  have hlonger : ∀ {zs : List String}, zs ≠ [] →
      String.intercalate "/" (name :: zs) = name ++ ("/" ++ String.intercalate "/" zs) := by
    intro zs hzs
    rw [String.intercalate_cons_of_ne_nil hzs, String.append_assoc]
  have hne : ∀ {zs : List String}, zs ≠ [] → String.intercalate "/" (name :: zs) ≠ name := by
    intro zs hzs heq
    rw [hlonger hzs] at heq
    have hlength := congrArg String.length heq
    simp [String.length_append] at hlength
  by_cases hxs : xs = []
  · subst hxs
    by_contra hys
    exact hne (Ne.symm hys) (h.symm.trans (String.intercalate_singleton))
  by_cases hys : ys = []
  · subst hys
    exact absurd (h.trans String.intercalate_singleton) (hne hxs)
  rw [hlonger hxs, hlonger hys, String.append_right_inj, String.append_right_inj] at h
  have hsplit := String.toList_split_intercalate hx
  have hsplit' := String.toList_split_intercalate hy
  rw [if_neg hxs] at hsplit
  rw [if_neg hys] at hsplit'
  rw [← hsplit, ← hsplit']
  exact congrArg (fun t : String => (t.split '/').toList.map (·.copy)) h

/-! In and below a directory -/

/-- A module is found for a directory: from the place where it is, or from a path to it as it is
written, if that does not go up. -/
inductive IsInModule (fs : FileTree) (p : Path) (place : List String) : Prop
  | resolved (found : Path × String) (h : find? fs ⟨"/", place⟩ = .ok (some found))
  | written (found : Path × String) (hup : ".." ∉ p.parts) (h : find? fs p = .ok (some found))

/-- The import path of a directory is continued by the names that lead down from there. -/
def Continues (fs : FileTree) (p : Path) (s : List String) : Prop :=
  ∃ path, importPath fs p = .ok path ∧
    importPath fs (p.append s) = .ok (path ++ "/" ++ String.intercalate "/" s)

/-- Import paths follow the directories in and below one that belongs to the module of a root. -/
structure Follows (fs : FileTree) (p : Path) (place root : List String) (name : String) : Prop where
  /-- That module and no other. -/
  governs_iff : ∀ r n, Governs fs r place n ↔ r = root ∧ n = name
  continued : ∀ s, s ≠ [] → (∀ c ∈ s, IsName c) → IsUnbroken fs place s → IsInReach (place ++ s) →
    Continues fs p s
  refused : ∀ s, (∀ c ∈ s, IsName c) → ¬IsInReach (place ++ s) →
    importPath fs (p.append s) = .error .tooLong
  /-- Other directories of the same module have other import paths. -/
  distinct : ∀ q spot, fs.directory q = .ok spot → Governs fs root spot name → spot ≠ place →
    ∀ x y, importPath fs p = .ok x → importPath fs q = .ok y → x ≠ y
  /-- Nothing but another module on the way takes over. -/
  kept_iff : ∀ s, (∀ c ∈ s, IsName c) → IsInReach (place ++ s) →
    (find? fs ⟨"/", place ++ s⟩ = .ok (some (⟨"/", root⟩, name)) ↔ IsUnbroken fs place s)
  takenOver : ∀ t u inner, t ≠ [] → (∀ c ∈ t ++ u, IsName c) →
    nameAt? fs (place ++ t) = some inner → IsUnbroken fs (place ++ t) u →
    IsInReach (place ++ (t ++ u)) →
      find? fs ⟨"/", place ++ (t ++ u)⟩ = .ok (some (⟨"/", place ++ t⟩, inner)) ∧
        importPath fs (p.append (t ++ u)) = .ok (String.intercalate "/" (inner :: u))

theorem IsInModule.exists_governs (wf : fs.WellFormed) (hp : fs.directory p = .ok place)
    (h : IsInModule fs p place) : ∃ root name, Governs fs root place name := by
  obtain ⟨hlocate, hdir⟩ := FileTree.directory_eq_ok.1 hp
  cases h with
  | resolved found h =>
      have hup : ".." ∉ place := fun hc => (wf.isName_of_mem hdir ".." hc).ne_parent rfl
      exact ⟨_, _, governs_of_find? wf hup h⟩
  | written found hup h =>
      have hgoverns := governs_of_find? wf hup h
      rw [FileTree.spot_of_locate hup hlocate] at hgoverns
      exact ⟨_, _, hgoverns⟩

theorem importPath_eq_ok (wf : fs.WellFormed) (hp : fs.directory p = .ok place)
    (h : Governs fs root place name) {path : String} (hpath : importPath fs p = .ok path) :
    path = String.intercalate "/" (name :: place.drop root.length) := by
  obtain ⟨hlocate, hdir⟩ := FileTree.directory_eq_ok.1 hp
  have hreach : IsInReach place := Bool.eq_false_iff.2 fun hlong => by
    rw [importPath_eq_error wf hp hlong] at hpath
    cases hpath
  rw [importPath_of_governs wf (wf.isName_of_mem hdir) hreach
    (FileTree.resolve_of_locate wf hlocate) h] at hpath
  exact (Except.ok.inj hpath).symm

/-- Directories of one module are told apart by their import paths. -/
theorem importPath_ne (wf : fs.WellFormed) {q : Path} {spot : List String}
    (hp : fs.directory p = .ok place) (hq : fs.directory q = .ok spot)
    (h : Governs fs root place name) (h' : Governs fs root spot name) (hne : spot ≠ place)
    {x y : String} (hx : importPath fs p = .ok x) (hy : importPath fs q = .ok y) : x ≠ y := by
  have hslash : ∀ {p : Path} {place : List String}, fs.directory p = .ok place →
      ∀ c ∈ place.drop root.length, '/' ∉ c.toList := fun hp c hc =>
    (wf.isName_of_mem (FileTree.directory_eq_ok.1 hp).2 c (List.mem_of_mem_drop hc)).no_slash
  rw [importPath_eq_ok wf hp h hx, importPath_eq_ok wf hq h' hy]
  intro heq
  have hdrop := intercalate_injective (hslash hp) (hslash hq) heq
  obtain ⟨a, rfl⟩ := h.above
  obtain ⟨b, rfl⟩ := h'.above
  rw [List.drop_left, List.drop_left] at hdrop
  exact hne (by rw [hdrop])

/-- A module file that names one letter. -/
def moduleFile (letter : UInt8) : Entry :=
  .file { bytes := [109, 111, 100, 117, 108, 101, 32, letter, 10] }

/-- Beside a module there is another directory. -/
def sideTree : FileTree where
  entries := [(["work"], .dir), (["work", "a"], .dir), (["work", "a", "go.mod"], moduleFile 109),
    (["work", "x"], .dir)]
  work := ["work"]
  home := []

theorem wellFormed_sideTree : sideTree.WellFormed where
  nodup := by decide
  work := rfl
  inDir := by
    intro spot e h
    simp only [sideTree, List.mem_cons, Prod.mk.injEq, List.not_mem_nil, or_false] at h
    rcases h with ⟨rfl, -⟩ | ⟨rfl, -⟩ | ⟨rfl, -⟩ | ⟨rfl, -⟩
    · exact ⟨[], "work", rfl, by decide, rfl⟩
    · exact ⟨["work"], "a", rfl, by decide, rfl⟩
    · exact ⟨["work", "a"], "go.mod", rfl, by decide, rfl⟩
    · exact ⟨["work"], "x", rfl, by decide, rfl⟩

/-- A module in which directories lie one inside the other. -/
def stackTree (n : Nat) : FileTree where
  entries := (["go.mod"], moduleFile 109) ::
    (List.range n).map fun k => (List.replicate (k + 1) "a", .dir)
  work := []
  home := []

section Stack

variable (n : Nat)

theorem nodup_stackTree : ((stackTree n).entries.map (·.1)).Nodup := by
  have hkeys : (stackTree n).entries.map (·.1) =
      ["go.mod"] :: (List.range n).map fun k => List.replicate (k + 1) "a" := by
    simp [stackTree, Function.comp_def]
  rw [hkeys, List.nodup_cons]
  constructor
  · intro h
    obtain ⟨k, -, hk⟩ := List.mem_map.1 h
    rw [List.replicate_succ] at hk
    exact absurd (List.cons.inj hk).1 (by decide)
  · refine List.nodup_range.map fun j k h => ?_
    simpa using congrArg List.length h

theorem get?_stackTree {k : Nat} (h : k ≤ n) :
    (stackTree n).get? (List.replicate k "a") = some .dir := by
  cases k with
  | zero => rfl
  | succ k =>
      rw [List.replicate_succ', FileTree.get?_concat,
        FileTree.lookup_eq_some_iff_of_nodup (nodup_stackTree n), ← List.replicate_succ']
      exact List.mem_cons_of_mem _ (List.mem_map.2 ⟨k, List.mem_range.2 h, rfl⟩)

theorem wellFormed_stackTree : (stackTree n).WellFormed where
  nodup := nodup_stackTree n
  work := rfl
  inDir := by
    intro spot e h
    obtain h | h := List.mem_cons.1 h
    · cases h
      exact ⟨[], "go.mod", rfl, by decide, rfl⟩
    · obtain ⟨k, hk, h⟩ := List.mem_map.1 h
      cases h
      exact ⟨List.replicate k "a", "a", List.replicate_succ', by decide,
        get?_stackTree n (Nat.le_of_lt (List.mem_range.1 hk))⟩

theorem isUnbroken_stackTree (s : List String) : IsUnbroken (stackTree n) [] s := by
  intro t ht _
  have hnone : (stackTree n).get? (t ++ [fileName]) = none := by
    rw [FileTree.get?_concat, List.lookup_eq_none_iff]
    intro entry h
    rw [bne_iff_ne]
    intro heq
    obtain rfl | h := List.mem_cons.1 h
    · exact ht (List.append_left_eq_self.1 heq)
    · obtain ⟨k, -, rfl⟩ := List.mem_map.1 h
      have hmem := List.mem_append_right t (List.mem_singleton_self fileName)
      rw [heq] at hmem
      exact absurd (List.eq_of_mem_replicate hmem) (by decide)
  rw [List.nil_append, nameAt?, hnone]

theorem utf8ByteSize_intercalate_replicate (last : String) :
    (String.intercalate "/" (List.replicate n "a" ++ [last])).utf8ByteSize =
      2 * n + last.utf8ByteSize := by
  induction n with
  | zero => simp
  | succ n ih =>
      rw [List.replicate_succ, List.cons_append, String.intercalate_cons_of_ne_nil (by simp)]
      simp only [String.utf8ByteSize_append, ih]
      change 1 + 1 + _ = _
      omega

theorem isTooLong_stack (h : 2 * n + 2 < Path.byteLimit) :
    (Path.mk "/" (List.replicate (n + 1) "a")).isTooLong = false := by
  have hrender : (Path.mk "/" (List.replicate (n + 1) "a")).render =
      "/" ++ String.intercalate "/" (List.replicate n "a" ++ ["a"]) := by
    rw [List.replicate_succ']
    exact Path.render_child ⟨"/", List.replicate n "a"⟩ "a"
  rw [Path.isTooLong, hrender, String.utf8ByteSize_append, utf8ByteSize_intercalate_replicate]
  refine decide_eq_false (Nat.not_le.2 (Nat.lt_of_le_of_lt ?_ h))
  change 1 + (2 * n + 1) ≤ _
  omega

theorem isTooLong_child_stack (h : Path.byteLimit ≤ 2 * n + 7) :
    ((Path.mk "/" (List.replicate n "a")).child fileName).isTooLong = true := by
  rw [Path.isTooLong, Path.render_child, String.utf8ByteSize_append,
    utf8ByteSize_intercalate_replicate]
  refine decide_eq_true (Nat.le_trans h ?_)
  change _ ≤ 1 + (2 * n + 6)
  omega

theorem directory_stackTree (h : 2 * n + 2 < Path.byteLimit) :
    (stackTree (n + 1)).directory ⟨"/", List.replicate (n + 1) "a"⟩ =
      .ok (List.replicate (n + 1) "a") := by
  have hdir := get?_stackTree (n + 1) (Nat.le_refl _)
  have htop : (stackTree (n + 1)).locate ⟨"/", []⟩ = .ok [] := rfl
  have hlocate := FileTree.locate_append (wellFormed_stackTree (n + 1)) htop hdir
    (isTooLong_stack n h)
  exact FileTree.directory_eq_ok.2 ⟨hlocate, hdir⟩

end Stack

/-- A module with a directory whose module file names nothing, and with another module inside. -/
def appTree : FileTree where
  entries := [(["app"], .dir), (["app", "go.mod"], moduleFile 109), (["app", "docs"], .dir),
    (["app", "docs", "go.mod"], .file { bytes := [103, 111, 10] }), (["app", "docs", "api"], .dir),
    (["app", "tools"], .dir), (["app", "tools", "go.mod"], moduleFile 116),
    (["app", "tools", "x"], .dir)]
  work := ["app"]
  home := []

theorem wellFormed_appTree : appTree.WellFormed where
  nodup := by decide
  work := rfl
  inDir := by
    intro spot e h
    simp only [appTree, List.mem_cons, Prod.mk.injEq, List.not_mem_nil, or_false] at h
    rcases h with ⟨rfl, -⟩ | ⟨rfl, -⟩ | ⟨rfl, -⟩ | ⟨rfl, -⟩ | ⟨rfl, -⟩ | ⟨rfl, -⟩ | ⟨rfl, -⟩ |
      ⟨rfl, -⟩
    · exact ⟨[], "app", rfl, by decide, rfl⟩
    · exact ⟨["app"], "go.mod", rfl, by decide, rfl⟩
    · exact ⟨["app"], "docs", rfl, by decide, rfl⟩
    · exact ⟨["app", "docs"], "go.mod", rfl, by decide, rfl⟩
    · exact ⟨["app", "docs"], "api", rfl, by decide, rfl⟩
    · exact ⟨["app"], "tools", rfl, by decide, rfl⟩
    · exact ⟨["app", "tools"], "go.mod", rfl, by decide, rfl⟩
    · exact ⟨["app", "tools"], "x", rfl, by decide, rfl⟩

end Module
end GoMetrics
