import GoMetrics.FileTree

/-!
Walking a directory tree. The walk keeps a list of pending directories, takes the first, and puts
what it enters from there in front of the others. It ends because places get longer on the way down
and no place is longer than the longest in the tree.
-/

namespace GoMetrics.PackageDir

/-- Names that are passed over: hidden ones and those set aside. -/
def isHidden (name : String) : Bool :=
  name.startsWith "." || name.startsWith "_"

/-- Directories that a recursive target does not enter. -/
def isSkipped (name : String) : Bool :=
  name == "vendor" || name == "testdata" || isHidden name

/-- The directories right inside a place that are not skipped, in the order of their names. -/
def entered (fs : FileTree) (place : List String) : List String :=
  ((fs.dirsIn place).filter fun name => !isSkipped name).mergeSort fun a b => decide (a ≤ b)

theorem mem_entered {fs : FileTree} {place : List String} {name : String} :
    name ∈ entered fs place ↔ name ∈ fs.dirsIn place ∧ isSkipped name = false := by
  simp [entered]

/-- The longest way from the top to anything. -/
def depth (fs : FileTree) : Nat :=
  fs.entries.foldr (fun (spot, _) n => Nat.max spot.length n) 0

theorem length_le_depth {fs : FileTree} {spot : List String} {e : Entry}
    (h : (spot, e) ∈ fs.entries) : spot.length ≤ depth fs := by
  unfold depth
  generalize fs.entries = entries at h
  induction entries with
  | nil => cases h
  | cons first rest ih =>
      rw [List.foldr_cons]
      rcases List.mem_cons.1 h with rfl | h
      · exact Nat.le_max_left _ _
      · exact Nat.le_trans (ih h) (Nat.le_max_right _ _)

theorem lt_depth_of_mem_entered {fs : FileTree} {place : List String} {name : String}
    (h : name ∈ entered fs place) : place.length < depth fs := by
  have := length_le_depth (FileTree.mem_dirsIn.1 (mem_entered.1 h).1)
  rw [List.length_append, List.length_singleton] at this
  omega

theorem length_entered_le (fs : FileTree) (place : List String) :
    (entered fs place).length ≤ fs.entries.length := by
  rw [entered, List.length_mergeSort]
  refine Nat.le_trans (List.length_filter_le _ _) ?_
  rw [FileTree.dirsIn, List.length_map]
  exact Nat.le_trans (List.length_filter_le _ _) (List.length_filterMap_le _ _)

/-- How far a walk can get from a place: a step down takes away more than all the directories that
are entered can bring back. -/
def reach (fs : FileTree) (place : List String) : Nat :=
  Nat.pow (fs.entries.length + 1) (depth fs - place.length)

/-- How far a walk can get from several places, each written as the way to it from one place. -/
def reachAll (fs : FileTree) (place : List String) : List (List String) → Nat
  | [] => 0
  | way :: ways => reach fs (place ++ way) + reachAll fs place ways

theorem reachAll_append (fs : FileTree) (place : List String) (xs ys : List (List String)) :
    reachAll fs place (xs ++ ys) = reachAll fs place xs + reachAll fs place ys := by
  induction xs with
  | nil => rw [List.nil_append, reachAll, Nat.zero_add]
  | cons x xs ih => rw [List.cons_append, reachAll, reachAll, ih, Nat.add_assoc]

theorem reachAll_entered_lt (fs : FileTree) (place way : List String) :
    reachAll fs place ((entered fs (place ++ way)).map fun name => way ++ [name]) <
      reach fs (place ++ way) := by
  -- Every directory that is entered has the same measure, one power below that of the place.
  let step := Nat.pow (fs.entries.length + 1) (depth fs - (place.length + way.length + 1))
  have hall : ∀ names : List String,
      reachAll fs place (names.map fun name => way ++ [name]) = names.length * step := by
    intro names
    induction names with
    | nil => rw [List.map_nil, reachAll, List.length_nil, Nat.zero_mul]
    | cons name names ih =>
        have hone : reach fs (place ++ (way ++ [name])) = step := by
          simp [reach, step, Nat.add_assoc]
        rw [List.map_cons, reachAll, ih, hone, List.length_cons, Nat.succ_mul, Nat.add_comm]
  have hpos : ∀ n, 0 < Nat.pow (fs.entries.length + 1) n := fun n => Nat.pow_pos (Nat.succ_pos _)
  rw [hall]
  cases hnames : entered fs (place ++ way) with
  | nil =>
      rw [List.length_nil, Nat.zero_mul]
      exact hpos _
  | cons name names =>
      have hlt := lt_depth_of_mem_entered (hnames ▸ List.mem_cons_self : name ∈ entered fs _)
      rw [List.length_append] at hlt
      have hexp : depth fs - (place.length + way.length) =
          depth fs - (place.length + way.length + 1) + 1 := by omega
      have hreach : reach fs (place ++ way) = step * (fs.entries.length + 1) := by
        rw [reach, List.length_append, hexp]
        rfl
      rw [hreach, ← hnames, Nat.mul_comm step]
      exact Nat.mul_lt_mul_of_pos_right (Nat.lt_succ_of_le (length_entered_le fs _)) (hpos _)

/-- Visit pending directories, each written as the way to it from a place. What is entered from a
directory is visited right after it. -/
def visit (fs : FileTree) (place : List String) : List (List String) → List (List String)
  | [] => []
  | way :: pending =>
    way :: visit fs place
      ((entered fs (place ++ way)).map (fun name => way ++ [name]) ++ pending)
termination_by ways => reachAll fs place ways
decreasing_by
  have := reachAll_entered_lt fs place way
  rw [reachAll_append, reachAll]
  omega

/-- The directories at or below `base`, without those skipped. The base itself is never skipped. -/
def walk (fs : FileTree) (base : Path) : Except AccessFault (List Path) := do
  let place ← fs.directory base
  let ways := visit fs place [[]]
  let candidates := ways.flatMap fun way =>
    (fs.namesIn (place ++ way)).map (base.append way).child
  if candidates.any Path.isTooLong then throw .tooLong
  return ways.map base.append

end GoMetrics.PackageDir
