import GoMetrics.Path
import GoMetrics.Settings.Value
import GoMetrics.Tree.Basic

/-!
A file system at one moment: which directories and files there are, and what the files hold.
Places in it are lists of names from the top; the top itself is the empty list. A file comes with
what the parsers make of its contents.
-/

namespace GoMetrics

/-- What the configuration parser makes of a file. -/
inductive Parsed
  | table (t : Table)
  | error (message : String)
  | illFormedText
  deriving Repr

structure Document where
  bytes : List UInt8
  tree : Tree := .empty
  settings : Parsed := .table []
  deriving Repr

inductive Entry
  | dir
  | file (doc : Document)
  deriving Repr

def Entry.isFile : Entry → Bool
  | .dir => false
  | .file _ => true

/-- Why the system does not give access to a path. -/
inductive AccessFault
  | missing
  | notDirectory
  | isDirectory
  | tooLong
  /-- There is a NUL character in the path, so that the system cannot even be asked. -/
  | nul
  deriving DecidableEq, Repr

/-- The words for a refused access. -/
def AccessFault.message (f : AccessFault) (path : String) : String :=
  match f with
  | .missing => "[Errno 2] No such file or directory: " ++ Text.quoted path
  | .notDirectory => "[Errno 20] Not a directory: " ++ Text.quoted path
  | .isDirectory => "[Errno 21] Is a directory: " ++ Text.quoted path
  | .tooLong => "[Errno 36] File name too long: " ++ Text.quoted path
  | .nul => "embedded null byte"

structure FileTree where
  entries : List (List String × Entry)
  /-- The directory that relative paths start from. -/
  work : List String
  /-- The directory of the user's own configuration. -/
  home : List String
  deriving Repr

namespace FileTree

def get? (fs : FileTree) (place : List String) : Option Entry :=
  if place.isEmpty then some .dir else fs.entries.lookup place

/-- Add a directory together with all directories above it. -/
def addDir (fs : FileTree) (place : List String) : FileTree :=
  (List.range (place.length + 1)).foldl (fun fs n =>
    let above := place.take n
    if (fs.get? above).isSome then fs
    else { fs with entries := fs.entries ++ [(above, .dir)] }) fs

/-- Add a file together with all directories above it. It takes the place of an older one. -/
def addFile (fs : FileTree) (place : List String) (doc : Document) : FileTree :=
  let fs := fs.addDir place.dropLast
  { fs with entries := fs.entries.filter (·.1 != place) ++ [(place, .file doc)] }

/-- A file system that holds the working and the home directory and nothing else. -/
def bare (work home : List String) : FileTree :=
  (FileTree.mk [] work home).addDir work |>.addDir home

/-- The most bytes that a name can have. -/
def nameLimit : Nat := 255

/-- Follow components from a place. Every place on the way has to be a directory. The length of a
name is looked at when it is reached. -/
def follow (fs : FileTree) (place : List String) : List String → Except AccessFault (List String)
  | [] => .ok place
  | c :: cs =>
    match fs.get? place with
    | some .dir =>
      if c = ".." then follow fs place.dropLast cs
      else if nameLimit < c.utf8ByteSize then .error .tooLong
      else if (fs.get? (place ++ [c])).isSome then follow fs (place ++ [c]) cs
      else .error .missing
    | some (.file _) => .error .notDirectory
    | none => .error .missing

/-- The place that a path leads to. -/
def locate (fs : FileTree) (p : Path) : Except AccessFault (List String) :=
  if p.hasNul then .error .nul
  else if p.isTooLong then .error .tooLong
  else fs.follow (if p.isAbsolute then [] else fs.work) p.parts

/-- What is at a path, if anything. Whether there is something at a path that is too long cannot be
told. -/
def entry? (fs : FileTree) (p : Path) : Except AccessFault (Option Entry) :=
  match fs.locate p with
  | .ok place => .ok (fs.get? place)
  | .error .tooLong => .error .tooLong
  | .error _ => .ok none

def exists? (fs : FileTree) (p : Path) : Except AccessFault Bool := do
  return (← fs.entry? p).isSome

def isFile (fs : FileTree) (p : Path) : Except AccessFault Bool := do
  match ← fs.entry? p with
  | some (.file _) => return true
  | _ => return false

def read (fs : FileTree) (p : Path) : Except AccessFault Document := do
  match fs.get? (← fs.locate p) with
  | some (.file doc) => return doc
  | some .dir => throw .isDirectory
  | none => throw .missing

/-- The place of a directory. -/
def directory (fs : FileTree) (p : Path) : Except AccessFault (List String) := do
  let place ← fs.locate p
  match fs.get? place with
  | some .dir => return place
  | some (.file _) => throw .notDirectory
  | none => throw .missing

/-- What lies right inside a directory, with its name. -/
def entriesIn (fs : FileTree) (place : List String) : List (String × Entry) :=
  fs.entries.filterMap fun (spot, e) =>
    if spot.dropLast = place then spot.getLast?.map fun name => (name, e) else none

/-- The names right inside a directory, of files and of directories. -/
def namesIn (fs : FileTree) (place : List String) : List String :=
  (fs.entriesIn place).map (·.1)

/-- The files right inside a directory, by name. -/
def filesIn (fs : FileTree) (place : List String) : List String :=
  ((fs.entriesIn place).filter (·.2.isFile)).map (·.1)

/-- The directories right inside a directory, by name. -/
def dirsIn (fs : FileTree) (place : List String) : List String :=
  ((fs.entriesIn place).filter (!·.2.isFile)).map (·.1)

theorem mem_entriesIn {fs : FileTree} {place : List String} {name : String} {e : Entry} :
    (name, e) ∈ fs.entriesIn place ↔ (place ++ [name], e) ∈ fs.entries := by
  simp only [entriesIn, List.mem_filterMap, Prod.exists, Option.ite_none_right_eq_some,
    Option.map_eq_some_iff, Prod.mk.injEq]
  constructor
  · rintro ⟨spot, e, h, hplace, name, hlast, rfl, rfl⟩
    obtain ⟨above, rfl⟩ := List.getLast?_eq_some_iff.1 hlast
    rw [List.dropLast_concat] at hplace
    exact hplace ▸ h
  · intro h
    exact ⟨place ++ [name], e, h, by simp, name, by simp⟩

theorem mem_dirsIn {fs : FileTree} {place : List String} {name : String} :
    name ∈ fs.dirsIn place ↔ (place ++ [name], .dir) ∈ fs.entries := by
  simp only [dirsIn, List.mem_map, List.mem_filter, Prod.exists, ← mem_entriesIn]
  constructor
  · rintro ⟨name, e, ⟨h, he⟩, rfl⟩
    cases e with
    | dir => exact h
    | file doc => cases he
  · exact fun h => ⟨name, .dir, ⟨h, rfl⟩, rfl⟩

/-- A path from the top, without parent references. It need not lead anywhere. -/
def resolve (fs : FileTree) (p : Path) : Except AccessFault Path :=
  if p.hasNul then .error .nul
  else .ok ⟨"/", Path.collapse ((if p.isAbsolute then [] else fs.work) ++ p.parts)⟩

end FileTree
end GoMetrics
