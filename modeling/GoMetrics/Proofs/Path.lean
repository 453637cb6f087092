import Mathlib.Data.List.Induction
import Mathlib.Data.List.Lex
import GoMetrics.Path

/-!
Paths as lists of components. They are sorted in the order of lists, so that what is written after
one path is in the order of what is written. A path that is continued only gets longer.
-/

namespace GoMetrics

namespace Text

theorem splitChars_ne_nil (sep : Char) (cs : List Char) : splitChars sep cs ≠ [] := by
  fun_cases splitChars sep cs <;> simp_all

theorem splitChars_append (sep : Char) (cs ds : List Char) :
    splitChars sep (cs ++ sep :: ds) =
      splitChars sep cs ++ splitChars sep ds := by
  induction cs with
  | nil => simp [splitChars]
  | cons c cs ih =>
      rw [List.cons_append, splitChars, ih, splitChars]
      split
      · rfl
      · cases h : splitChars sep cs with
        | nil => exact absurd h (splitChars_ne_nil sep cs)
        | cons run runs => rfl

theorem endsWith_iff {s ending : String} :
    s.endsWith ending = true ↔ ∃ stem, s = stem ++ ending := by
  rw [String.endsWith_eq_endsWith_toSlice, String.Slice.endsWith_string_iff, String.copy_toSlice]
  constructor
  · rintro ⟨stem, h⟩
    exact ⟨String.ofList stem, by rw [← String.toList_inj]; simp [h]⟩
  · rintro ⟨stem, rfl⟩
    exact ⟨stem.toList, by simp⟩

end Text

namespace Path

/-! The order of components -/

theorem componentsLe_iff {as bs : List String} : componentsLe as bs = true ↔ as = bs ∨ as < bs := by
  fun_induction componentsLe as bs with
  | case1 bs => cases bs <;> simp
  | case2 a as => simp
  | case3 a as bs ih => simp [ih]
  | case4 a as b bs hne => simp [List.cons_lt_cons_iff, hne]

theorem pairwise_sort (ps : List Path) :
    (sort ps).Pairwise fun p q => p.components = q.components ∨ p.components < q.components := by
  have h : (sort ps).Pairwise fun p q => le p q = true := by
    refine List.pairwise_mergeSort (fun p q r => ?_) (fun p q => ?_) ps
    · simp only [le, componentsLe_iff]
      rintro (hpq | hpq) (hqr | hqr)
      · exact .inl (hpq.trans hqr)
      · exact .inr (hpq ▸ hqr)
      · exact .inr (hqr ▸ hpq)
      · exact .inr (List.lt_trans hpq hqr)
    · simp only [le, Bool.or_eq_true, componentsLe_iff]
      rcases Std.lt_trichotomy p.components q.components with hlt | heq | hgt
      · exact .inl (.inr hlt)
      · exact .inl (.inl heq)
      · exact .inr (.inr hgt)
  exact h.imp componentsLe_iff.1

@[simp]
theorem mem_sort {ps : List Path} {p : Path} : p ∈ sort ps ↔ p ∈ ps :=
  (List.mergeSort_perm ps le).mem_iff

/-- Paths with different components are sorted strictly. -/
theorem pairwise_lt_sort {ps : List Path} (h : (ps.map components).Nodup) :
    (sort ps).Pairwise fun p q => p.components < q.components := by
  have hne : ((sort ps).map components).Nodup :=
    (((List.mergeSort_perm ps le).map _).nodup_iff).2 h
  refine ((pairwise_sort ps).and (List.pairwise_map.1 hne)).imp ?_
  rintro p q ⟨heq | hlt, hne⟩
  · exact absurd heq hne
  · exact hlt

/-! Continued paths -/

variable (p : Path) (xs ys : List String)

@[simp]
theorem append_nil : p.append [] = p := by
  simp [append]

@[simp]
theorem append_append : (p.append xs).append ys = p.append (xs ++ ys) := by
  simp [append]

theorem components_append : (p.append xs).components = p.components ++ xs := by
  unfold components append
  split <;> rfl

theorem components_lt {p : Path} {xs ys : List String} (h : xs < ys) :
    (p.append xs).components < (p.append ys).components := by
  rw [components_append, components_append]
  exact List.append_left_lt h

@[simp]
theorem name_child (c : String) : (p.child c).name = c := by
  simp [name, child, append]

@[simp]
theorem suffix_child (c : String) : (p.child c).suffix = suffixOf c := by
  rw [suffix, name_child]

theorem hasNul_append : (p.append xs).hasNul = (p.hasNul || (Path.mk "" xs).hasNul) := by
  simp [hasNul, append]

theorem hasNul_eq_false {p : Path} (h : ∀ c ∈ p.parts, '\x00' ∉ c.toList) : p.hasNul = false := by
  simpa [hasNul] using h

/-- The nearest path above is the one that was continued. -/
theorem parents_child (c : String) : (p.child c).parents = p :: p.parents := by
  have hrest : ∀ n ∈ (List.range p.parts.length).reverse,
      (p.parts ++ [c]).take n = p.parts.take n := fun n hn =>
    List.take_append_of_le_length (Nat.le_of_lt (List.mem_range.1 (List.mem_reverse.1 hn)))
  simp only [parents, child, append, List.length_append, List.length_singleton, List.range_succ,
    List.reverse_append, List.reverse_singleton, List.singleton_append, List.map_cons,
    List.take_left']
  exact congrArg _ (List.map_congr_left fun n hn => by rw [hrest n hn])

/-! Parent references -/

theorem collapse_append :
    collapse (xs ++ ys) =
      ys.foldl (fun seen c => if c = ".." then seen.dropLast else seen ++ [c]) (collapse xs) :=
  List.foldl_append

theorem foldl_eq_append {ys : List String} (h : ∀ c ∈ ys, c ≠ "..") :
    ys.foldl (fun seen c => if c = ".." then seen.dropLast else seen ++ [c]) xs = xs ++ ys := by
  induction ys generalizing xs with
  | nil => rw [List.foldl_nil, List.append_nil]
  | cons c cs ih =>
      rw [List.foldl_cons, if_neg (h c List.mem_cons_self),
        ih _ fun d hd => h d (List.mem_cons_of_mem c hd), ← List.append_cons]

theorem collapse_eq_self {xs : List String} (h : ∀ c ∈ xs, c ≠ "..") : collapse xs = xs :=
  foldl_eq_append [] h

/-! Lengths -/

theorem utf8ByteSize_le_intercalate (sep last : String) :
    last.utf8ByteSize ≤ (sep.intercalate (xs ++ [last])).utf8ByteSize := by
  by_cases hxs : xs = []
  · rw [hxs, List.nil_append, String.intercalate_singleton]
  · rw [String.intercalate_append_of_ne_nil hxs (List.cons_ne_nil last []),
      String.intercalate_singleton, String.utf8ByteSize_append]
    exact Nat.le_add_left _ _

theorem utf8ByteSize_intercalate_le (sep last : String) :
    (sep.intercalate (xs ++ [last])).utf8ByteSize ≤
      (sep.intercalate (xs ++ (ys ++ [last]))).utf8ByteSize := by
  by_cases hxs : xs = []
  · rw [hxs, List.nil_append, List.nil_append, String.intercalate_singleton]
    exact utf8ByteSize_le_intercalate ys sep last
  · rw [String.intercalate_append_of_ne_nil hxs (List.cons_ne_nil last []),
      String.intercalate_append_of_ne_nil hxs (by simp), String.intercalate_singleton,
      String.utf8ByteSize_append, String.utf8ByteSize_append (t := sep.intercalate _)]
    exact Nat.add_le_add_left (utf8ByteSize_le_intercalate ys sep last) _

theorem render_child (c : String) :
    (p.child c).render = p.root ++ String.intercalate "/" (p.parts ++ [c]) := by
  simp [render, child, append]

/-- The path of a file in a directory is no shorter than that of one above. -/
theorem isTooLong_child_of_take {n : Nat} {c : String}
    (h : (Path.child { p with parts := p.parts.take n } c).isTooLong = true) :
    (p.child c).isTooLong = true := by
  rw [isTooLong, decide_eq_true_eq, render_child, String.utf8ByteSize_append] at *
  have hle := utf8ByteSize_intercalate_le (p.parts.take n) (p.parts.drop n) "/" c
  rw [← List.append_assoc, List.take_append_drop] at hle
  exact Nat.le_trans h (Nat.add_le_add_left hle _)

theorem isTooLong_child_append {c : String} (h : (p.child c).isTooLong = true) :
    ((p.append xs).child c).isTooLong = true := by
  refine isTooLong_child_of_take (p.append xs) (n := p.parts.length) ?_
  have htake : (p.append xs).parts.take p.parts.length = p.parts := List.take_left' rfl
  rw [htake]
  exact h

/-! Paths as texts -/

/-- A slash ends a component. -/
theorem parts_ofString_append (s t : String) :
    (ofString (s ++ "/" ++ t)).parts = (ofString s).parts ++ (ofString t).parts := by
  have h : (s ++ "/" ++ t).toList = s.toList ++ '/' :: t.toList := by simp
  simp only [ofString, Text.split, h, Text.splitChars_append, List.map_append, List.filter_append]

/-! Suffixes -/

/-- What follows the last dot of a name decides about its suffix. -/
theorem suffixOf_eq {name : String} {before tail : List Char} (h : name.toList = before ++ tail)
    (htail : '.' ∉ tail) (hdot : ∀ c, before.getLast? = some c → c = '.') :
    suffixOf name =
      if before.length ≤ 1 || tail.isEmpty then "" else String.ofList ('.' :: tail) := by
  have htake : before.reverse.takeWhile (· != '.') = [] := by
    cases before using List.reverseRecOn with
    | nil => rfl
    | append_singleton front c => simp [hdot c]
  have hall : ∀ c ∈ tail.reverse, (c != '.') = true := by
    intro c hc
    exact bne_iff_ne.2 fun heq => htail (heq ▸ List.mem_reverse.1 hc)
  have hlast : (name.toList.reverse.takeWhile (· != '.')).reverse = tail := by
    rw [h, List.reverse_append, List.takeWhile_append_of_pos hall, htake, List.append_nil,
      List.reverse_reverse]
  have hlength : name.length - tail.length = before.length := by
    rw [← String.length_toList, h, List.length_append, Nat.add_sub_cancel]
  rw [suffixOf]
  simp only [hlast, hlength]

/-- Every name can be cut after its last dot. -/
theorem exists_cut (name : String) :
    ∃ before tail, name.toList = before ++ tail ∧ '.' ∉ tail ∧
      ∀ c, before.getLast? = some c → c = '.' := by
  refine ⟨(name.toList.reverse.dropWhile (· != '.')).reverse,
    (name.toList.reverse.takeWhile (· != '.')).reverse, ?_, fun hmem => ?_, fun c hc => ?_⟩
  · rw [← List.reverse_append, List.takeWhile_append_dropWhile, List.reverse_reverse]
  · simpa using List.all_eq_true.1 List.all_takeWhile _ (List.mem_reverse.1 hmem)
  · have hhead := List.head?_dropWhile_not (· != '.') name.toList.reverse
    rw [List.getLast?_reverse] at hc
    rw [hc] at hhead
    simpa using hhead

/-- A suffix without dots follows a dot that is not the first character. -/
theorem suffixOf_eq_iff {name : String} {ext : List Char} (hne : ext ≠ []) (hext : '.' ∉ ext) :
    suffixOf name = String.ofList ('.' :: ext) ↔
      ∃ stem, stem ≠ [] ∧ name.toList = stem ++ '.' :: ext := by
  constructor
  · intro h
    obtain ⟨before, tail, hname, htail, hdot⟩ := exists_cut name
    rw [suffixOf_eq hname htail hdot] at h
    split at h
    · exact absurd (congrArg String.toList h) (by simp)
    · rename_i hlong
      obtain rfl : tail = ext := (List.cons.inj (String.ofList_inj.1 h)).2
      cases before using List.reverseRecOn with
      | nil => simp at hlong
      | append_singleton stem c =>
          obtain rfl := hdot c (by simp)
          refine ⟨stem, ?_, by simpa using hname⟩
          rintro rfl
          simp at hlong
  · rintro ⟨stem, hstem, hname⟩
    rw [List.append_cons] at hname
    rw [suffixOf_eq hname hext (by simp), if_neg]
    simp [hstem, hne]

end Path
end GoMetrics
