import FormData.Body
import FormData.Fault

/-!
# Traversals

Going through a body piece by piece.

A traversal takes a copy of the list of parts when it begins, so the body may
change afterwards without disturbing it, and any number of traversals may be
under way at once. Its position is before everything, behind so many pieces of
a part, or at the end; each step yields one piece and says where that leads
(`step?`). A part's pieces are yielded as the part holds them, empty ones
included.

What is left to yield starts at the length of the body and goes down with each
piece. A part may report a length that is not its own, so it stops at nothing
rather than go below.

The same pieces can be asked for in three ways: as a piece or a fault, as a
piece or nothing, and as a frame for a transport. All three go through
`next?`, which leaves a traversal at its end as it is, so they can be mixed
freely.

Closing a traversal releases every part it began with, once, however far it
got. It can still be advanced afterwards.

## Main definitions

* `Traversal.Position`: How far a traversal has got.
* `Traversal`: A traversal under way.
* `Body.iterate`: Beginning a traversal.
* `Traversal.step?`: The next piece, and where it leads.
* `Traversal.next?`: The next piece, and the traversal behind it.
* `Traversal.nextChunk`, `next`, `pollFrame`: The three ways of asking.
* `Traversal.take`, `drain`: So many pieces, and all of them.
* `Traversal.close`: Releasing the parts.

## Theorems

* `Traversal.close_open`, `Traversal.close_closed`: What closing does the first
  time, and that it does nothing after that.
* `Traversal.close_fst`: A traversal that was closed is as it was, and closed.
-/

namespace FormData

namespace Traversal

/-- How far a traversal has got. -/
inductive Position where
  /-- Nothing has been yielded. -/
  | start
  /-- The line in front of a part has been yielded, and so many of its
      pieces. -/
  | content (part chunk : Nat)
  /-- The line that ends the body has been yielded. -/
  | done
  deriving Repr, DecidableEq

/-- A position as it is shown in messages. -/
def Position.describe : Position → String
  | .start => "Start"
  | .content part chunk =>
    "Content \x7b part: " ++ toString part ++ ", chunk: " ++ toString chunk ++ " \x7d"
  | .done => "Done"

end Traversal

/-- A traversal under way. -/
structure Traversal where
  boundary : Boundary
  /-- The parts of the body when the traversal began. -/
  parts : List Handle
  position : Traversal.Position
  /-- How many octets are left to yield. -/
  remaining : Nat
  /-- Whether the parts have been released. -/
  closed : Bool
  deriving DecidableEq

/-- Begin a traversal of a body. -/
def Body.iterate (body : Body) : Traversal where
  boundary := body.boundary
  parts := body.parts
  position := .start
  remaining := body.length
  closed := false

namespace Traversal

/-- Whether there is another piece. -/
def hasNext (t : Traversal) : Bool :=
  t.position != .done

/-- The next piece and the position behind it. -/
def step? (t : Traversal) : Option (Position × Bytes) :=
  match t.position with
  | .start =>
    if t.parts = [] then some (.done, t.boundary.only)
    else some (.content 0 0, t.boundary.first)
  | .content part chunk =>
    match t.parts[part]? with
    | none => none
    | some handle =>
      match handle.part.chunks[chunk]? with
      | some bytes => some (.content part (chunk + 1), bytes)
      | none =>
        if part + 1 < t.parts.length then some (.content (part + 1) 0, t.boundary.middle)
        else some (.done, t.boundary.last)
  | .done => none

/-- The next piece and the traversal behind it. -/
def next? (t : Traversal) : Option (Bytes × Traversal) :=
  match t.step? with
  | none => none
  | some (position, bytes) =>
    some (bytes, { t with position, remaining := t.remaining - bytes.length })

/-- The next piece, or the fault that there is none. -/
def nextChunk (t : Traversal) : Except Fault Bytes × Traversal :=
  match t.next? with
  | some (bytes, t') => (.ok bytes, t')
  | none => (.error .exhausted, t)

/-- The next piece, if there is one. -/
def next (t : Traversal) : Option Bytes × Traversal :=
  match t.next? with
  | some (bytes, t') => (some bytes, t')
  | none => (none, t)

/-- A frame that a transport sends on. Only data is ever sent. -/
inductive Frame where
  | data (bytes : Bytes)
  deriving Repr, DecidableEq

/-- The next frame for a transport, if there is one. A frame is always ready. -/
def pollFrame (t : Traversal) : Option Frame × Traversal :=
  match t.next? with
  | some (bytes, t') => (some (.data bytes), t')
  | none => (none, t)

/-- Whether a transport may stop asking for frames. -/
def isEndStream (t : Traversal) : Bool :=
  !t.hasNext

/-- What a transport is told to expect. -/
structure SizeHint where
  lower : Nat
  upper : Option Nat
  deriving Repr, DecidableEq

/-- The size that is expected exactly, where the bounds agree. -/
def SizeHint.exact (hint : SizeHint) : Option Nat :=
  if hint.upper = some hint.lower then some hint.lower else none

/-- What a transport is told to expect: exactly what is left. -/
def sizeHint (t : Traversal) : SizeHint where
  lower := t.remaining
  upper := some t.remaining

/-- The next pieces, as many as are asked for or as there are. -/
def take : Nat → Traversal → List Bytes × Traversal
  | 0, t => ([], t)
  | n + 1, t =>
    match t.next? with
    | none => ([], t)
    | some (bytes, t') => (bytes :: (take n t').1, (take n t').2)

/-- How many pieces a traversal of these parts yields from its beginning. Each
    part takes one for the line in front of it and one for each of its own, and
    the line that ends the body is one more. -/
def pieceCount : List Handle → Nat
  | [] => 1
  | handle :: rest => handle.part.chunks.length + 1 + pieceCount rest

/-- All pieces that are left. -/
def drain (t : Traversal) : List Bytes × Traversal :=
  t.take (pieceCount t.parts)

/-- Release the parts. Only the first time does anything. -/
def close (t : Traversal) (ledger : Ledger) : Traced (Traversal × Ledger) :=
  if t.closed then { result := (t, ledger) }
  else
    let released := ledger.releaseAll t.parts
    { result := ({ t with closed := true }, released.result)
      events := .closedTraversal t.parts.length t.remaining :: released.events }

/-- A traversal as it is shown in messages. -/
def describe (ledger : Ledger) (t : Traversal) : String :=
  "BodyIterator \x7b boundary: " ++ t.boundary.describe
    ++ ", parts: " ++ Body.describeParts ledger t.parts
    ++ ", state: " ++ t.position.describe
    ++ ", remaining: " ++ toString t.remaining
    ++ ", closed: " ++ toString t.closed ++ " \x7d"

theorem close_closed (t : Traversal) (ledger : Ledger) (h : t.closed = true) :
    t.close ledger = { result := (t, ledger) } := by
  rw [close, if_pos h]

/-- Closing a traversal that is not closed releases its parts and says so. -/
theorem close_open (t : Traversal) (ledger : Ledger) (h : t.closed = false) :
    (t.close ledger).result.2 = (ledger.releaseAll t.parts).result
      ∧ (t.close ledger).events
        = .closedTraversal t.parts.length t.remaining :: (ledger.releaseAll t.parts).events := by
  rw [close, h, if_neg Bool.false_ne_true]
  exact ⟨rfl, rfl⟩

theorem close_fst (t : Traversal) (ledger : Ledger) :
    (t.close ledger).result.1 = { t with closed := true } := by
  rcases hclosed : t.closed with _ | _
  · rw [close, hclosed, if_neg Bool.false_ne_true]
  · rw [t.close_closed ledger hclosed, ← hclosed]

end Traversal

end FormData
