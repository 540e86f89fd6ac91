import FormData.Boundary
import FormData.Ledger

/-!
# Bodies

An ordered collection of parts, framed by one boundary.

A body written out is the first line, then the parts with the middle line
between neighbours, then the last line; with no parts it is the only line.
Its length is kept up to date as parts come and go rather than added up when
it is asked for. What each part is charged is its own length and one middle
line, and an empty body starts at the length of the only line. That charges
the first part for a line two octets longer than the one it gets, and the end
of the body for a line two octets shorter, so the total is right for every
number of parts and each change costs the same however many there are. The length
is a number without a bound. What becomes of it in a word, where a part may claim
to be as long as a word can count, is looked at beside the edits of a body.

A part may be added more than once. Taking it out takes out its first
occurrence and charges back what that occurrence was charged.

## Main definitions

* `Body`: The parts with their boundary and the length so far.
* `Body.empty`: The body with no parts.
* `Body.charge`: What a part is charged.
* `Body.add`: Putting a part behind the others.
* `Body.remove?`: Taking out the first occurrence of a part.
* `Body.contentType`: The content type that announces the boundary.
-/

namespace FormData

/-- An ordered collection of parts, framed by one boundary. -/
structure Body where
  boundary : Boundary
  /-- The parts in the order they are written. -/
  parts : List Handle
  /-- The number of octets in the body, kept up to date. -/
  length : Nat
  deriving DecidableEq

namespace Body

/-- The body with no parts. -/
def empty (boundary : Boundary) : Body where
  boundary
  parts := []
  length := boundary.only.length

/-- What a part is charged: its own length and one middle line. -/
def charge (boundary : Boundary) (part : Part) : Nat :=
  boundary.middle.length + part.length

/-- Put a part behind the others. -/
def add (body : Body) (handle : Handle) : Body :=
  { body with
    parts := body.parts ++ [handle]
    length := body.length + charge body.boundary handle.part }

/-- Take out the first occurrence of a part, if there is one. What was taken
    out is returned with the body that is left. -/
def remove? (body : Body) (handle : Handle) : Option (Handle × Body) :=
  match body.parts.find? (fun h => h.same handle) with
  | none => none
  | some removed =>
    some (removed,
      { body with
        parts := body.parts.eraseP (fun h => h.same handle)
        length := body.length - charge body.boundary removed.part })

/-- The content type that announces the boundary. It depends on nothing else,
    so it is fixed for as long as the body exists. -/
def contentType (body : Body) : String :=
  body.boundary.contentType

/-- What adding a part is reported as. -/
def addedEvent (body : Body) (handle : Handle) : Event :=
  .addedPart handle.part.name handle.part.length (body.add handle).length

/-- Parts as they are shown in messages, between brackets. -/
def describeParts (ledger : Ledger) (parts : List Handle) : String :=
  "[" ++ ", ".intercalate (parts.map fun h => h.part.describe (ledger.isReleased h)) ++ "]"

/-- A body as it is shown in messages. -/
def describe (ledger : Ledger) (body : Body) : String :=
  "MultiPartBody \x7b boundary: " ++ body.boundary.describe
    ++ ", content_type: " ++ Quoted.text body.contentType
    ++ ", parts: " ++ describeParts ledger body.parts
    ++ ", length: " ++ toString body.length ++ " \x7d"

end Body

end FormData
