import FormData.Fault
import FormData.Path

/-!
# File Trees

The files that paths lead to.

A tree is a list of what is at each location, a location being the segments
from the root down. An entry counts only if everything it lies in is a
directory (`find?`). Every list is then a tree, and no definition has to say
which lists are sensible. Nothing is remembered about a file but its content,
so a part made from a file keeps the content it had then, whatever is done to
the tree later.

Finding what a path leads to is a walk. Each step has to start in a
directory; going up from the root stays there; a symbolic link puts the steps
of its target in front of those still to take. A walk may follow forty links
and no more, which also ends a walk through a link to itself. The number of
links left is what the definition recurses on (`walk`), and between two links
the steps themselves are (`walkVia`), so no walk has to be cut short by a
counter of its own.

Paths that do not start at the root start in the working directory. Its
location has a name that no path can spell, so it is reached only from inside
or by going up from below.

## Main definitions

* `FileTree.Entry`: What is found at a location.
* `FileTree`: The entries by location.
* `FileTree.find?`: What is found at a location.
* `FileTree.walk`: The location that steps lead to.
* `FileTree.resolve`: The location that a path leads to.
* `FileTree.lookUp`: What a path leads to.
* `FileTree.Change`: One change to a tree.

## Theorems

* `FileTree.find?_take`: Whatever something lies in is a directory.
-/

namespace FormData

/-- Where something is: the segments from the root down. -/
abbrev Location := List Bytes

namespace FileTree

/-- What is found at a location. -/
inductive Entry where
  /-- A regular file with its content. -/
  | file (data : Bytes)
  | directory
  /-- Something that can be opened and is neither file nor directory. -/
  | device
  /-- A symbolic link with the path it stands for. -/
  | link (target : Bytes)
  deriving Repr, DecidableEq

end FileTree

/-- The entries of a tree by location. The root is a directory and is not
    listed. -/
structure FileTree where
  entries : List (Location × FileTree.Entry)

namespace FileTree

/-- The greatest number of symbolic links a walk may follow. -/
def maxLinks : Nat := 40

/-- Where paths that do not start at the root start. -/
def workingDirectory : Location := [[0]]

/-- The tree with an empty working directory, and a device to open. -/
def initial : FileTree where
  entries :=
    [(workingDirectory, .directory),
     ([utf8 "dev"], .directory),
     ([utf8 "dev", utf8 "null"], .device)]

/-- What is listed at a location. -/
def listed? (tree : FileTree) (location : Location) : Option Entry :=
  if location = [] then some .directory else tree.entries.lookup location

/-- Whether everything a location lies in is a directory. -/
def isReachable (tree : FileTree) (location : Location) : Bool :=
  (List.range location.length).all fun n =>
    tree.listed? (location.take n) == some .directory

/-- What is found at a location. What is listed there counts only if
    everything it lies in is a directory. -/
def find? (tree : FileTree) (location : Location) : Option Entry :=
  if tree.isReachable location then tree.listed? location else none

/-- The root is a directory. -/
@[simp] theorem find?_nil (tree : FileTree) : tree.find? [] = some .directory := rfl

/-- Whatever something lies in is a directory. -/
theorem find?_take {tree : FileTree} {location : Location} {entry : Entry}
    (h : tree.find? location = some entry) (n : Nat) (hn : n < location.length) :
    tree.find? (location.take n) = some .directory := by
  have hreach : tree.isReachable location = true := by
    by_cases hr : tree.isReachable location = true
    · exact hr
    · rw [find?, if_neg hr] at h
      exact absurd h (by simp only [reduceCtorEq, not_false_eq_true])
  have hall : ∀ m, m < location.length →
      tree.listed? (location.take m) = some .directory := by
    intro m hm
    exact beq_iff_eq.mp (List.all_eq_true.mp hreach m (List.mem_range.mpr hm))
  have hprefix : tree.isReachable (location.take n) = true := by
    rw [isReachable, List.all_eq_true]
    intro m hm
    have hlt : m < n := by
      have hm' := List.mem_range.mp hm
      rw [List.length_take] at hm'
      omega
    rw [List.take_take, Nat.min_eq_left (Nat.le_of_lt hlt), hall m (by omega)]
    exact beq_self_eq_true _
  rw [find?, if_pos hprefix]
  exact hall n hn

/-- Walk until the next symbolic link, and hand the steps that remain behind it
    to `follow`. -/
def walkVia (tree : FileTree) (follow : Location → List Bytes → Except OsError Location) :
    Location → List Bytes → Except OsError Location
  | here, [] => .ok here
  | here, step :: rest =>
    if tree.find? here ≠ some .directory then .error .notDirectory
    else if step = Path.dot then walkVia tree follow here rest
    else if step = Path.dotdot then walkVia tree follow here.dropLast rest
    else if Path.maxSegment < step.length then .error .nameTooLong
    else match tree.find? (here ++ [step]) with
      | none => .error .noEntry
      | some (.link target) =>
        follow (if Path.isAbsolute target then [] else here) (Path.steps target ++ rest)
      | some _ => walkVia tree follow (here ++ [step]) rest

/-- The location that steps lead to, following at most so many links. -/
def walk (tree : FileTree) : Nat → Location → List Bytes → Except OsError Location
  | 0 => walkVia tree (fun _ _ => .error .tooManyLinks)
  | links + 1 => walkVia tree (walk tree links)

/-- The location that a path leads to. -/
def resolve (tree : FileTree) (path : Bytes) : Except OsError Location :=
  if path = [] then .error .noEntry
  else if Path.maxLength < path.length then .error .nameTooLong
  else tree.walk maxLinks (if Path.isAbsolute path then [] else workingDirectory)
    (Path.steps path)

/-- What a path leads to. A path with a zero octet is refused before anything
    is looked at. -/
def lookUp (tree : FileTree) (path : Bytes) : Except IoFault Entry :=
  if path.contains 0 then .error .zeroInPath
  else match tree.resolve path with
    | .error e => .error (.os e)
    | .ok location => match tree.find? location with
      | none => .error (.os .noEntry)
      | some entry => .ok entry

/-- Put an entry at a location, in place of what was there. -/
def set (tree : FileTree) (location : Location) (entry : Entry) : FileTree :=
  ⟨(location, entry) :: tree.entries.filter (fun e => e.1 ≠ location)⟩

/-- Take away what is at a location. -/
def erase (tree : FileTree) (location : Location) : FileTree :=
  ⟨tree.entries.filter (fun e => e.1 ≠ location)⟩

/-- The location that a path names for something to be put there: the
    directory it leads to but for its last segment, and that segment. -/
def place? (tree : FileTree) (path : Bytes) : Option Location :=
  match (Path.segments path).getLast? with
  | none => none
  | some last =>
    let start := if Path.isAbsolute path then [] else workingDirectory
    match tree.walk maxLinks start (Path.segments path).dropLast with
    | .error _ => none
    | .ok parent => some (parent ++ [last])

/-- Make the directories that steps lead through, where they are missing. -/
def makeDirectories (tree : FileTree) : Location → List Bytes → FileTree
  | _, [] => tree
  | here, step :: rest =>
    match tree.walk maxLinks here [step] with
    | .ok there => makeDirectories tree there rest
    | .error _ => makeDirectories (tree.set (here ++ [step]) .directory) (here ++ [step]) rest

/-- Move what is at a location, with everything below it, in place of what was
    at the other. Moving something to where it is changes nothing. -/
def move (tree : FileTree) (source target : Location) : FileTree :=
  if source = target then tree
  else ⟨(tree.erase target).entries.map fun e =>
    if source.isPrefixOf e.1 then (target ++ e.1.drop source.length, e.2) else e⟩

/-- One change to a tree. -/
inductive Change where
  /-- Make a file. -/
  | create (path data : Bytes)
  /-- Make a directory and those it lies in. -/
  | makeDirectory (path : Bytes)
  /-- Make a symbolic link that stands for a path. -/
  | link (path target : Bytes)
  /-- Write behind what a file holds. -/
  | append (path data : Bytes)
  /-- Take an entry away. -/
  | remove (path : Bytes)
  /-- Give an entry another place, taking away what was there. -/
  | rename (path target : Bytes)
  deriving Repr, DecidableEq

/-- Make a change. One that cannot be made leaves the tree as it is. -/
def change (tree : FileTree) : Change → FileTree
  | .create path data =>
    match tree.place? path with
    | some location => tree.set location (.file data)
    | none => tree
  | .makeDirectory path =>
    tree.makeDirectories (if Path.isAbsolute path then [] else workingDirectory)
      (Path.segments path)
  | .link path target =>
    match tree.place? path with
    | some location => tree.set location (.link target)
    | none => tree
  | .append path data =>
    match tree.resolve path with
    | .error _ => tree
    | .ok location => match tree.find? location with
      | some (.file old) => tree.set location (.file (old ++ data))
      | _ => tree
  | .remove path =>
    match tree.place? path with
    | some location => tree.erase location
    | none => tree
  | .rename path target =>
    match tree.place? path, tree.place? target with
    | some source, some location => tree.move source location
    | _, _ => tree

/-- Make changes in order. -/
def changes (tree : FileTree) (list : List Change) : FileTree :=
  list.foldl change tree

end FileTree

end FormData
