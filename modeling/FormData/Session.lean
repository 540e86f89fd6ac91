import FormData.Session.Reply
import FormData.Session.Step
import FormData.Table

/-!
# Sessions

A run of steps on named bodies, parts and traversals.

A session holds the three tables, the files that parts are made from, the
ledger of releases, and the next unused key. Each step answers, may report
events, and leaves a session for the next one. A step that names something
that is not there, or that cannot be done, answers why and leaves the session
as it was.

The tables own what they hold only in part. A body and its traversals hold on
to the parts they have, so letting go of a name changes nothing for them. A
traversal that is let go of is closed, and that happens as well when another
one is put under its name; the new one is there first, so the events of
closing come after anything the step itself reports.

Everything a step reads or changes is in the session, so what a run of steps
answers is a function of the session it begins with.

## Main definitions

* `Session`: What a run of steps works on.
* `Outcome`: What a step leads to.
* `Session.step`: Doing one step.
* `Session.run`: Doing steps in order.
-/

namespace FormData

/-- A part kept under a name. -/
structure Shared where
  handle : Handle
  /-- Whether the part is still known by its kind. -/
  exposed : Bool
  deriving DecidableEq

/-- What a run of steps works on. -/
structure Session where
  files : FileTree := FileTree.initial
  bodies : Table Body := Table.empty
  parts : Table Shared := Table.empty
  traversals : Table Traversal := Table.empty
  ledger : Ledger := Ledger.empty
  /-- The key of the next part to be made. Those below it are taken. -/
  nextKey : Nat := 0

/-- What a step leads to. -/
structure Outcome where
  session : Session
  reply : Reply
  events : List Event := []

namespace Session

/-- Answer why a step is not done, and leave everything as it is. -/
def refuse (s : Session) (refusal : Refusal) : Outcome :=
  { session := s, reply := .refused refusal }

/-- Answer that a request cannot be met. -/
def refuseFault (s : Session) (fault : Fault) : Outcome :=
  s.refuse (.request (.fault fault))

/-- Go on with the body of a name, if there is one. -/
def withBody (s : Session) (id : String) (k : Body → Outcome) : Outcome :=
  match s.bodies.find? id with
  | none => s.refuse .noHandle
  | some body => k body

/-- Go on with the part of a name, if there is one. -/
def withPart (s : Session) (id : String) (k : Shared → Outcome) : Outcome :=
  match s.parts.find? id with
  | none => s.refuse .noHandle
  | some shared => k shared

/-- Go on with the traversal of a name, if there is one. -/
def withTraversal (s : Session) (id : String) (k : Traversal → Outcome) : Outcome :=
  match s.traversals.find? id with
  | none => s.refuse .noHandle
  | some t => k t

/-- Keep a body under a name. -/
def setBody (s : Session) (id : String) (body : Body) : Session :=
  { s with bodies := s.bodies.set id body }

/-- Keep a part under a name. -/
def setPart (s : Session) (id : String) (shared : Shared) : Session :=
  { s with parts := s.parts.set id shared }

/-- Keep a traversal under a name. -/
def setTraversal (s : Session) (id : String) (t : Traversal) : Session :=
  { s with traversals := s.traversals.set id t }

/-- Let go of a traversal that is under no name any more. -/
def discard (s : Session) (t : Traversal) : Traced Session :=
  let closed := t.close s.ledger
  { result := { s with ledger := closed.result.2 }, events := closed.events }

/-- Keep a new traversal under a name, and let go of the one it replaces. -/
def bindTraversal (s : Session) (id : String) (t : Traversal) : Traced Session :=
  match s.traversals.find? id with
  | none => { result := s.setTraversal id t }
  | some old => (s.setTraversal id t).discard old

/-- Give a part a key of its own. -/
def share (s : Session) (part : Part) : Handle × Session :=
  (⟨s.nextKey, part⟩, { s with nextKey := s.nextKey + 1 })

/-- Begin a body. -/
def beginBody (s : Session) (id : String) (token : TokenChoice) : Outcome :=
  let boundary := match token with
    | .given token => Boundary.ofToken? token
    | .drawn draws => .ok (Boundary.ofDraws draws)
  match boundary with
  | .error flaw => s.refuseFault (.invalidBoundary flaw)
  | .ok boundary =>
    let body := Body.empty boundary
    { session := s.setBody id body, reply := .begun body.length body.contentType }

/-- Make a part to be shared. -/
def makePart (s : Session) (id : String) (request : PartRequest) : Outcome :=
  let made := request.make s.files
  match made.result with
  | .error fault => { s.refuse (.request fault) with events := made.events }
  | .ok part =>
    let (handle, s) := s.share part
    { session := s.setPart id { handle, exposed := true }
      reply := .made part.length part.chunks.length
      events := made.events }

/-- Make a part, put it into a body, and keep the handle. The body has to be
    there before the part is made. -/
def addNew (s : Session) (id body : String) (request : PartRequest) : Outcome :=
  s.withBody body fun old =>
    let made := request.make s.files
    match made.result with
    | .error fault => { s.refuse (.request fault) with events := made.events }
    | .ok part =>
      let (handle, s) := s.share part
      let new := old.add handle
      { session := (s.setBody body new).setPart id { handle, exposed := false }
        reply := .added new.length new.parts.length
        events := made.events ++ [old.addedEvent handle] }

/-- Put a shared part into a body. -/
def addShared (s : Session) (body part : String) : Outcome :=
  s.withPart part fun shared =>
    s.withBody body fun old =>
      let new := old.add shared.handle
      { session := s.setBody body new
        reply := .added new.length new.parts.length
        events := [old.addedEvent shared.handle] }

/-- Take a part out of a body. -/
def removePart (s : Session) (body part : String) : Outcome :=
  s.withPart part fun shared =>
    s.withBody body fun old =>
      match old.remove? shared.handle with
      | none =>
        { session := s, reply := .removed false old.length old.parts.length }
      | some (removed, new) =>
        { session := s.setBody body new
          reply := .removed true new.length new.parts.length
          events := [.removedPart removed.part.name removed.part.length new.length] }

/-- Release a part. -/
def releasePart (s : Session) (part : String) : Outcome :=
  s.withPart part fun shared =>
    let released := s.ledger.release shared.handle
    { session := { s with ledger := released.result }
      reply := .released
        (if shared.exposed then PartView.releasedOf released.result shared.handle else none)
        (PartView.releasesOf released.result shared.handle)
      events := released.events }

/-- Begin a traversal of a body. -/
def iterate (s : Session) (id body : String) : Outcome :=
  s.withBody body fun body =>
    let t := body.iterate
    let bound := s.bindTraversal id t
    { session := bound.result
      reply := .traversal t.hasNext t.remaining t.closed
      events := bound.events }

/-- Close a traversal. -/
def closeTraversal (s : Session) (id : String) : Outcome :=
  s.withTraversal id fun t =>
    let closed := t.close s.ledger
    let t' := closed.result.1
    { session := { s.setTraversal id t' with ledger := closed.result.2 }
      reply := .traversal t'.hasNext t'.remaining t'.closed
      events := closed.events }

/-- Let go of a traversal. -/
def dropTraversal (s : Session) (id : String) : Outcome :=
  s.withTraversal id fun t =>
    let dropped := { s with traversals := s.traversals.erase id }.discard t
    { session := dropped.result, reply := .nothing, events := dropped.events }

/-- Ask a traversal for a piece or nothing. -/
def next (s : Session) (id : String) : Outcome :=
  s.withTraversal id fun t =>
    let (bytes, t') := t.next
    { session := s.setTraversal id t', reply := .chunk bytes t'.hasNext t'.remaining }

/-- Ask a traversal for a piece or a fault. -/
def nextChunk (s : Session) (id : String) : Outcome :=
  s.withTraversal id fun t =>
    let (chunk, t') := t.nextChunk
    match chunk with
    | .error fault => s.refuseFault fault
    | .ok bytes =>
      { session := s.setTraversal id t', reply := .chunk (some bytes) t'.hasNext t'.remaining }

/-- The octets of a frame. -/
def frameData : Traversal.Frame → Bytes
  | .data bytes => bytes

/-- Ask a traversal for a frame. -/
def poll (s : Session) (id : String) : Outcome :=
  s.withTraversal id fun t =>
    let (frame, t') := t.pollFrame
    { session := s.setTraversal id t'
      reply := .frame (frame.map frameData) t'.sizeHint t'.isEndStream }

/-- Ask a traversal for so many pieces. -/
def take (s : Session) (id : String) (count : Nat) : Outcome :=
  s.withTraversal id fun t =>
    let (chunks, t') := t.take count
    { session := s.setTraversal id t', reply := .taken chunks t'.hasNext t'.remaining }

/-- Ask a traversal for all pieces that are left. -/
def drain (s : Session) (id : String) : Outcome :=
  s.withTraversal id fun t =>
    let (chunks, t') := t.drain
    { session := s.setTraversal id t', reply := .drained chunks t'.hasNext t'.remaining }

/-- Write a body out with a traversal of its own, which is closed at the
    end. -/
def encode (s : Session) (body : String) : Outcome :=
  s.withBody body fun body =>
    let (chunks, t) := body.iterate.drain
    let dropped := s.discard t
    { session := dropped.result
      reply := .encoded chunks body.length
      events := dropped.events }

/-- Do one step. -/
def step (s : Session) : Step → Outcome
  | .beginBody id token => s.beginBody id token
  | .makePart id request => s.makePart id request
  | .addNew id body request => s.addNew id body request
  | .addShared body part => s.addShared body part
  | .removePart body part => s.removePart body part
  | .viewBody body => s.withBody body fun body =>
    { session := s, reply := .body (BodyView.ofBody s.ledger body) }
  | .viewPart part => s.withPart part fun shared =>
    { session := s
      reply := .part (PartView.ofHandle s.ledger shared.handle shared.exposed) }
  | .releasePart part => s.releasePart part
  | .iterate id body => s.iterate id body
  | .next id => s.next id
  | .nextChunk id => s.nextChunk id
  | .poll id => s.poll id
  | .take id count => s.take id count
  | .drain id => s.drain id
  | .viewTraversal id => s.withTraversal id fun t =>
    { session := s, reply := .viewed (TraversalView.ofTraversal s.ledger t) }
  | .closeTraversal id => s.closeTraversal id
  | .encode body => s.encode body
  | .dropBody body => s.withBody body fun _ =>
    { session := { s with bodies := s.bodies.erase body }, reply := .nothing }
  | .dropPart part => s.withPart part fun _ =>
    { session := { s with parts := s.parts.erase part }, reply := .nothing }
  | .dropTraversal id => s.dropTraversal id
  | .changeFiles changes =>
    { session := { s with files := s.files.changes changes }, reply := .nothing }

/-- Do steps in order. Each outcome begins with the session the one before it
    left. -/
def run (s : Session) : List Step → List Outcome
  | [] => []
  | step :: rest =>
    let outcome := s.step step
    outcome :: run outcome.session rest

end Session

end FormData
