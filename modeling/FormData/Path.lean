import FormData.Bytes

/-!
# Paths

Reading a path as a sequence of segments.

A path is octets, of which only the slash has a meaning here. Repeated
slashes count once, so segments are never empty. Two readings of a path are
needed and they differ. Finding a file takes the segments one step at a time
(`steps`), where a slash at the end asks for a directory just as a final dot
does. Naming a file takes the last segment that names anything (`fileName?`),
passing over dots; a path that ends by going up names nothing.

## Main definitions

* `Path.segments`: The segments of a path.
* `Path.steps`: The segments as steps to take, a trailing slash included.
* `Path.isAbsolute`: Whether a path starts at the root.
* `Path.fileName?`: The segment that names what the path leads to.

## Theorems

* `Path.split_ne_nil`: Cutting a path gives at least one stretch.
-/

namespace FormData

namespace Path

/-- The segment that stays where it is. -/
def dot : Bytes := [46]

/-- The segment that goes up. -/
def dotdot : Bytes := [46, 46]

/-- The greatest number of octets in a segment. -/
def maxSegment : Nat := 255

/-- The greatest number of octets in a path. -/
def maxLength : Nat := 4095

/-- Cut a path at its slashes. Neighbouring slashes leave an empty stretch
    between them. -/
def split : Bytes → List Bytes
  | [] => [[]]
  | b :: rest =>
    if b = Bytes.slash then [] :: split rest
    else match split rest with
      | [] => [[b]]
      | stretch :: others => (b :: stretch) :: others

/-- Cutting a path gives at least one stretch. -/
theorem split_ne_nil (path : Bytes) : split path ≠ [] := by
  cases path with
  | nil => exact List.cons_ne_nil _ _
  | cons b rest =>
      unfold split
      split
      · exact List.cons_ne_nil _ _
      · split <;> exact List.cons_ne_nil _ _

/-- The segments of a path, none of them empty. -/
def segments (path : Bytes) : List Bytes :=
  (split path).filter (fun s => s ≠ [])

/-- Whether a path starts at the root. -/
def isAbsolute (path : Bytes) : Bool :=
  path.head? == some Bytes.slash

/-- The steps a path asks for. A slash at the end adds a step that stays where
    it is, which only a directory allows. -/
def steps (path : Bytes) : List Bytes :=
  segments path ++ (if path.getLast? = some Bytes.slash then [dot] else [])

/-- The segment that names what a path leads to, if there is one. -/
def fileName? (path : Bytes) : Option Bytes :=
  match ((segments path).filter (fun s => s ≠ dot)).getLast? with
  | some segment => if segment = dotdot then none else some segment
  | none => none

end Path

end FormData
