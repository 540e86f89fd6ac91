import FormData.Part.Request
import FormData.Traversal

/-!
# Session Replies

What a session answers.

A reply holds what was asked for, in the library's own types. Views of bodies,
parts and traversals are taken at one moment and do not change afterwards; the
text in them depends on the ledger of releases as it was then.

A part that was put into a body as it was made is kept as a handle only, and
what belongs to its kind cannot be asked of it any more. A view shows which of
those things it has (`PartView`).

## Main definitions

* `Refusal`: Why a step was not done.
* `PartView`, `BodyView`, `TraversalView`: What looking at something shows.
* `Reply`: The answer to a step.
-/

namespace FormData

/-- Why a step was not done. -/
inductive Refusal where
  /-- Nothing is kept under a name. -/
  | noHandle
  /-- A part cannot be made, or a token cannot be accepted, or there is no
      piece left. -/
  | request (fault : RequestFault)
  deriving Repr, DecidableEq

/-- What looking at a part shows. -/
structure PartView where
  name : String
  length : Nat
  chunks : List Bytes
  description : String
  /-- The value of a field. -/
  value : Option Bytes
  /-- The path of a file. -/
  path : Option Bytes
  /-- Whether a file has been released. -/
  isReleased : Option Bool
  /-- How often a part of the caller's own has been released. -/
  releases : Option Nat
  deriving Repr, DecidableEq

namespace PartView

/-- Whether a file has been released; nothing for other kinds. -/
def releasedOf (ledger : Ledger) (handle : Handle) : Option Bool :=
  handle.part.file?.map (fun _ => ledger.isReleased handle)

/-- How often a part of the caller's own has been released, so far as it keeps
    count; nothing for other kinds. -/
def releasesOf (ledger : Ledger) (handle : Handle) : Option Nat :=
  match handle.part with
  | .custom c => some (if c.countsReleases then ledger.count handle.key else 0)
  | .field _ | .file _ => none

/-- The value of a field; nothing for other kinds. -/
def valueOf : Part → Option Bytes
  | .field f => some f.value
  | .file _ | .custom _ => none

/-- Look at a part. If it is not `exposed`, what belongs to its kind is left
    out, but for the count that a part of the caller's own keeps. -/
def ofHandle (ledger : Ledger) (handle : Handle) (exposed : Bool) : PartView where
  name := handle.part.name
  length := handle.part.length
  chunks := handle.part.chunks
  description := handle.part.describe (ledger.isReleased handle)
  value := if exposed then valueOf handle.part else none
  path := if exposed then handle.part.file?.map FilePart.path else none
  isReleased := if exposed then releasedOf ledger handle else none
  releases := releasesOf ledger handle

end PartView

/-- What looking at a body shows. -/
structure BodyView where
  length : Nat
  parts : List (String × Nat)
  contentType : String
  token : String
  description : String
  deriving Repr, DecidableEq

namespace BodyView

/-- Look at a body. -/
def ofBody (ledger : Ledger) (body : Body) : BodyView where
  length := body.length
  parts := body.parts.map fun h => (h.part.name, h.part.length)
  contentType := body.contentType
  token := body.boundary.token
  description := body.describe ledger

end BodyView

/-- What looking at a traversal shows. -/
structure TraversalView where
  hasNext : Bool
  remaining : Nat
  closed : Bool
  endStream : Bool
  exact : Option Nat
  description : String
  deriving Repr, DecidableEq

namespace TraversalView

/-- Look at a traversal. -/
def ofTraversal (ledger : Ledger) (t : Traversal) : TraversalView where
  hasNext := t.hasNext
  remaining := t.remaining
  closed := t.closed
  endStream := t.isEndStream
  exact := t.sizeHint.exact
  description := t.describe ledger

end TraversalView

/-- The answer to a step. -/
inductive Reply where
  /-- The step was not done. -/
  | refused (refusal : Refusal)
  /-- A body was begun. -/
  | begun (length : Nat) (contentType : String)
  /-- A part was made, with so many pieces. -/
  | made (length chunks : Nat)
  /-- A part was added to a body, which now has this length and count. -/
  | added (length count : Nat)
  /-- A body was searched for a part to take out, and is now like this. -/
  | removed (removed : Bool) (length count : Nat)
  /-- A body was looked at. -/
  | body (view : BodyView)
  /-- A part was looked at. -/
  | part (view : PartView)
  /-- A part was released. -/
  | released (isReleased : Option Bool) (releases : Option Nat)
  /-- A traversal was begun or closed. -/
  | traversal (hasNext : Bool) (remaining : Nat) (closed : Bool)
  /-- A piece was asked for. -/
  | chunk (bytes : Option Bytes) (hasNext : Bool) (remaining : Nat)
  /-- A frame was asked for. -/
  | frame (data : Option Bytes) (hint : Traversal.SizeHint) (endStream : Bool)
  /-- So many pieces were asked for. -/
  | taken (chunks : List Bytes) (hasNext : Bool) (remaining : Nat)
  /-- All pieces were asked for. -/
  | drained (chunks : List Bytes) (hasNext : Bool) (remaining : Nat)
  /-- A traversal was looked at. -/
  | viewed (view : TraversalView)
  /-- A body of this length was written out in these pieces. -/
  | encoded (chunks : List Bytes) (length : Nat)
  /-- There is nothing to say. -/
  | nothing
  deriving Repr, DecidableEq

end FormData
