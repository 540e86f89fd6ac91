import FormData.Proofs.Calls
import FormData.Proofs.Edits
import FormData.Session

/-!
# Deeds

What a step comes to.

There are twenty-one kinds of step, and most of what can be said about a run of
them depends on far fewer things: whether a part was made, whether pieces were
handed out, whether a traversal began or ended, whether a part was released.
A `Deed` is one of these things. It is read off the step and the names that lead
somewhere before it, and not off the answer, so it says what should come of the
step, whatever the session makes of it. Only the pieces that are handed out are
taken from the answer. How many of them there should be is counted apart, call by
call.

`Done` says everything that the session does for each deed, and `done_step`
that it does nothing else. To ask for pieces or for the end of a traversal that
is not there is a deed as well, one that changes nothing. This is the one place
where the kinds of step are told apart. Whatever holds along a run is shown deed
by deed from then on.

What a step does to the bodies and parts that are kept under names is the same
question for all deeds, and `Shelved` answers it: a body that is not edited
stays, and a handle that is held afterwards was held before or was just made.

## Main definitions

* `Reply.pieces`: The pieces an answer hands out.
* `Traversal.successes`: How many of so many calls get a piece.
* `Step.edits`, `Step.moves`: Which body a step may edit, and which traversal
  it may move.
* `Deed`: What a step comes to.
* `Session.deed`: What a step of a session comes to.
* `Session.Holds`: A body or a name leads to a part.
* `Session.Shelved`: What a step does to bodies and parts.
* `Session.Done`: What a step does, by what it comes to.

## Theorems

* `PartRequest.quiet_make`: Making a part ends nothing.
* `Session.done_step`: A step does what it comes to.
* `Session.shelved_step`: What a step does to bodies and parts.
-/

namespace FormData

/-- Whether an event reports that something ended: the handle of a file, or a
    traversal. -/
def Event.isEnding : Event → Bool
  | .releasedFile .. | .closedTraversal .. => true
  | .addedPart .. | .removedPart .. | .mappedWindow .. | .openedFile .. | .unmappable .. => false

namespace Reply

/-- The pieces that an answer hands out. -/
def pieces : Reply → List Bytes
  | .chunk bytes _ _ => bytes.toList
  | .frame data _ _ => data.toList
  | .taken chunks _ _ | .drained chunks _ _ => chunks
  | .encoded chunks _ => chunks
  | _ => []

end Reply

namespace Traversal

/-- How many of so many calls in a row get a piece. -/
def successes (t : Traversal) (calls : Nat) : Nat :=
  (t.calls calls).1.countP Except.isOk

/-- Calls that get a piece are as many as there are pieces to be taken. -/
theorem successes_eq (t : Traversal) (calls : Nat) :
    t.successes calls = (t.take calls).1.length := by
  have hok : ∀ pieces : List Bytes,
      (pieces.map (Except.ok : Bytes → Except Fault Bytes)).countP Except.isOk
        = pieces.length := by
    intro pieces
    rw [List.countP_map]
    exact List.countP_eq_length.mpr fun _ _ => rfl
  have hfault : ∀ n, (List.replicate n (.error .exhausted : Except Fault Bytes)).countP
      Except.isOk = 0 := by
    intro n
    rw [List.countP_replicate]
    rfl
  rw [successes, (calls_eq calls t).1, List.countP_append, hok, hfault, take_fst, Nat.add_zero]

end Traversal

namespace Step

/-- Whether a step may change what body is kept under a name. -/
def edits (name : String) : Step → Bool
  | .beginBody body _ | .addNew _ body _ | .addShared body _ | .removePart body _
  | .dropBody body => body == name
  | _ => false

/-- Whether a step asks the traversal under a name for pieces, puts another one
    in its place, or lets go of it. Closing it does none of these. -/
def moves (name : String) : Step → Bool
  | .next id | .nextChunk id | .poll id | .take id _ | .drain id | .iterate id _
  | .dropTraversal id => id == name
  | _ => false

end Step

/-- What a step comes to. -/
inductive Deed where
  /-- Nothing that concerns traversals or releases. -/
  | nothing
  /-- A part is made. -/
  | made (handle : Handle)
  /-- A part is released by name. -/
  | released (handle : Handle)
  /-- A traversal of a body is begun. -/
  | begun (id : String) (origin : Body)
  /-- Pieces are handed out, for so many successful calls. -/
  | heard (id : String) (pieces : List Bytes) (successes : Nat)
  /-- The traversal of a name, if there is one, is closed, maybe not for the first
      time. -/
  | closed (id : String)
  /-- The traversal of a name, if there is one, is let go of. -/
  | dropped (id : String)
  /-- A body is written out with a traversal of its own. -/
  | wrote (origin : Body) (pieces : List Bytes) (successes : Nat)

namespace Deed

/-- The parts that a deed makes. -/
def handles : Deed → List Handle
  | .made handle => [handle]
  | _ => []

/-- The name of the traversal that a deed ends. -/
def ends? : Deed → Option String
  | .closed id | .dropped id => some id
  | _ => none

theorem eq_of_ends? (deed : Deed) (id : String) (h : deed.ends? = some id) :
    deed = .closed id ∨ deed = .dropped id := by
  cases deed with
  | closed other => exact Or.inl (congrArg Deed.closed (Option.some.inj h))
  | dropped other => exact Or.inr (congrArg Deed.dropped (Option.some.inj h))
  | nothing => cases h
  | made handle => cases h
  | released handle => cases h
  | begun other origin => cases h
  | heard other pieces successes => cases h
  | wrote origin pieces successes => cases h

end Deed

namespace Window

theorem quiet_readAll (path : Bytes) (mapping : Nat → Nat → Except IoFault Bytes)
    (windows : List Window) :
    ∀ e ∈ (readAll path mapping windows).events, e.isEnding = false := by
  induction windows with
  | nil =>
      intro e he
      simp only [readAll, List.not_mem_nil] at he
  | cons window rest ih =>
      intro e he
      rcases hmapped : mapping window.offset window.length with cause | bytes
      · -- A window that cannot be mapped is not reported.
        simp only [readAll, hmapped, List.not_mem_nil] at he
      · simp only [readAll, hmapped, List.mem_cons] at he
        rcases he with rfl | he
        · rfl
        · exact ih e he

end Window

namespace FileRequest

theorem quiet_openIn (request : FileRequest) (tree : FileTree) :
    ∀ e ∈ (request.openIn tree).events, e.isEnding = false := by
  intro e he
  unfold openIn at he
  split at he
  · cases he
  · have hread := Window.quiet_readAll request.path
    unfold openWith at he
    simp only at he
    split at he
    · exact hread _ _ e he
    · -- The last event reports the part, and all others report its windows.
      rcases List.mem_append.mp he with he | he
      · exact hread _ _ e he
      · rw [List.mem_singleton.mp he]
        rfl
  · cases he

end FileRequest

namespace PartRequest

/-- Making a part ends nothing, whether or not it succeeds. -/
theorem quiet_make (tree : FileTree) (request : PartRequest) :
    ∀ e ∈ (request.make tree).events, e.isEnding = false := by
  intro e he
  cases request with
  | text name value => cases he
  | textIn name value charset tables =>
      rcases hnamed : Charset.named? tables charset with _ | set
      · simp only [make, hnamed, List.not_mem_nil] at he
      · simp only [make, hnamed, FieldPart.textIn] at he
        split at he
        · rw [List.mem_singleton.mp he]
          rfl
        · cases he
  | bytes name value headers =>
      rcases hheaders : HeaderMap.ofEdits? headers with flaw | map
      · simp only [make, hheaders, List.not_mem_nil] at he
      · simp only [make, hheaders, List.not_mem_nil] at he
  | file name path options =>
      rcases hoptions : options.mapM FileOption.setting? with flaw | settings
      · simp only [make, makeFile, hoptions, List.not_mem_nil] at he
      · simp only [make, makeFile, hoptions] at he
        exact FileRequest.quiet_openIn _ tree e he
  | custom c => cases he

end PartRequest

namespace Session

/-- What making a part comes to: if it can be made, it gets the next key. -/
def making (s : Session) (request : PartRequest) : Deed :=
  match (request.make s.files).result with
  | .error _ => .nothing
  | .ok part => .made ⟨s.nextKey, part⟩

/-- What so many calls on the traversal of a name come to, given what was handed
    out. -/
def hearing (s : Session) (id : String) (pieces : List Bytes) (calls : Traversal → Nat) : Deed :=
  .heard id pieces ((s.traversals.find? id).elim 0 fun t => t.successes (calls t))

/-- What a step of a session comes to. -/
def deed (s : Session) (step : Step) : Deed :=
  let pieces := (s.step step).reply.pieces
  match step with
  | .makePart _ request => s.making request
  | .addNew _ body request => (s.bodies.find? body).elim .nothing fun _ => s.making request
  | .releasePart part => (s.parts.find? part).elim .nothing fun shared => .released shared.handle
  | .iterate id body => (s.bodies.find? body).elim .nothing (.begun id)
  | .next id | .nextChunk id | .poll id => s.hearing id pieces fun _ => 1
  | .take id count => s.hearing id pieces fun _ => count
  | .drain id => s.hearing id pieces fun t => Traversal.pieceCount t.parts
  | .closeTraversal id => .closed id
  | .dropTraversal id => .dropped id
  | .encode body => (s.bodies.find? body).elim .nothing fun origin =>
    .wrote origin pieces (origin.iterate.successes (Traversal.pieceCount origin.parts))
  | _ => .nothing

/-- A part is in a body that is kept, or is kept under a name itself. -/
def Holds (s : Session) (handle : Handle) : Prop :=
  (∃ name body, s.bodies.find? name = some body ∧ handle ∈ body.parts)
    ∨ ∃ name shared, s.parts.find? name = some shared ∧ shared.handle = handle

/-- What a step that makes these parts does to the bodies and parts that are
    kept. -/
structure Shelved (s : Session) (step : Step) (s' : Session) (fresh : List Handle) : Prop where
  /-- Parts get the keys that are not taken, in order. -/
  keys : fresh.map Handle.key = (List.range fresh.length).map (s.nextKey + ·)
  nextKey : s'.nextKey = s.nextKey + fresh.length
  /-- A part that is held afterwards was held before or was made. -/
  held : ∀ handle, s'.Holds handle → s.Holds handle ∨ handle ∈ fresh
  /-- A body that is not edited stays. -/
  bodies : ∀ name, step.edits name = false → s'.bodies.find? name = s.bodies.find? name

/-- What a step does, by what it comes to. -/
inductive Done (s : Session) (step : Step) (o : Outcome) : Deed → Prop where
  /-- Traversals and releases are as they were. -/
  | nothing (htraversals : o.session.traversals = s.traversals)
      (hledger : o.session.ledger = s.ledger) (hquiet : ∀ e ∈ o.events, e.isEnding = false)
      (hshelved : s.Shelved step o.session []) : Done s step o .nothing
  /-- The part is new, and all else about it is as for nothing. -/
  | made (handle : Handle) (htraversals : o.session.traversals = s.traversals)
      (hledger : o.session.ledger = s.ledger) (hquiet : ∀ e ∈ o.events, e.isEnding = false)
      (hshelved : s.Shelved step o.session [handle]) : Done s step o (.made handle)
  /-- The part is one that is held, and is released once. -/
  | released (handle : Handle) (hheld : s.Holds handle)
      (hsession : o.session = { s with ledger := (s.ledger.release handle).result })
      (hevents : o.events = (s.ledger.release handle).events) : Done s step o (.released handle)
  /-- The traversal is put under a name that was free. -/
  | begun (id name : String) (body : Body) (hmoves : step.moves id = true)
      (hbody : s.bodies.find? name = some body) (hfree : s.traversals.find? id = none)
      (hsession : o.session = s.setTraversal id body.iterate) (hevents : o.events = []) :
      Done s step o (.begun id body)
  /-- The traversal is put in the place of another, which is closed. -/
  | replaced (id name : String) (body : Body) (old : Traversal) (hmoves : step.moves id = true)
      (hbody : s.bodies.find? name = some body) (hfind : s.traversals.find? id = some old)
      (hsession : o.session
        = { s.setTraversal id body.iterate with ledger := (old.close s.ledger).result.2 })
      (hevents : o.events = (old.close s.ledger).events) : Done s step o (.begun id body)
  /-- The pieces are the next ones of the traversal, and it is behind them. -/
  | heard (id : String) (t : Traversal) (count : Nat) (pieces : List Bytes) (successes : Nat)
      (hmoves : step.moves id = true) (hfind : s.traversals.find? id = some t)
      (hpieces : pieces = (t.take count).1) (hsuccesses : successes = pieces.length)
      (hsession : o.session = s.setTraversal id (t.take count).2) (hevents : o.events = []) :
      Done s step o (.heard id pieces successes)
  /-- There is no traversal, or it has no more pieces. -/
  | silent (id : String) (hsession : o.session = s) (hevents : o.events = []) :
      Done s step o (.heard id [] 0)
  /-- The traversal stays under its name. -/
  | closed (id : String) (t : Traversal) (hfind : s.traversals.find? id = some t)
      (hsession : o.session
        = { s.setTraversal id (t.close s.ledger).result.1 with
            ledger := (t.close s.ledger).result.2 })
      (hevents : o.events = (t.close s.ledger).events) : Done s step o (.closed id)
  /-- The traversal is closed, and its name is free. -/
  | dropped (id : String) (t : Traversal) (hmoves : step.moves id = true)
      (hfind : s.traversals.find? id = some t)
      (hsession : o.session
        = { s with
            traversals := s.traversals.erase id
            ledger := (t.close s.ledger).result.2 })
      (hevents : o.events = (t.close s.ledger).events) : Done s step o (.dropped id)
  /-- There is no traversal to be ended. -/
  | absent (id : String) (deed : Deed) (hends : deed.ends? = some id)
      (hfree : s.traversals.find? id = none) (hsession : o.session = s)
      (hevents : o.events = []) : Done s step o deed
  /-- A traversal of the body is drained and closed, and never gets a name. -/
  | wrote (name : String) (body : Body) (pieces : List Bytes) (successes : Nat)
      (hbody : s.bodies.find? name = some body) (hpieces : pieces = body.iterate.drain.1)
      (hsuccesses : successes = pieces.length)
      (hsession : o.session
        = { s with ledger := (body.iterate.drain.2.close s.ledger).result.2 })
      (hevents : o.events = (body.iterate.drain.2.close s.ledger).events) :
      Done s step o (.wrote body pieces successes)

theorem holds_setBody (s : Session) (name : String) (body : Body) (handle : Handle)
    (h : (s.setBody name body).Holds handle) : s.Holds handle ∨ handle ∈ body.parts := by
  rcases h with ⟨other, found, hfind, hmem⟩ | hnamed
  · -- Under any other name is what was there.
    by_cases hother : other = name
    · rw [hother, setBody, Table.find?_set_self] at hfind
      rw [Option.some.inj hfind]
      exact Or.inr hmem
    · rw [setBody, Table.find?_set_of_ne _ _ _ _ hother] at hfind
      exact Or.inl (Or.inl ⟨other, found, hfind, hmem⟩)
  · exact Or.inl (Or.inr hnamed)

theorem holds_setPart (s : Session) (name : String) (shared : Shared) (handle : Handle)
    (h : (s.setPart name shared).Holds handle) : s.Holds handle ∨ handle = shared.handle := by
  rcases h with hbody | ⟨other, found, hfind, hhandle⟩
  · exact Or.inl (Or.inl hbody)
  · by_cases hother : other = name
    · rw [hother, setPart, Table.find?_set_self] at hfind
      rw [Option.some.inj hfind]
      exact Or.inr hhandle.symm
    · rw [setPart, Table.find?_set_of_ne _ _ _ _ hother] at hfind
      exact Or.inl (Or.inr ⟨other, found, hfind, hhandle⟩)

/-- A step that leaves bodies and parts alone. -/
theorem shelved_same (s : Session) (step : Step) (s' : Session) (hbodies : s'.bodies = s.bodies)
    (hparts : s'.parts = s.parts) (hkey : s'.nextKey = s.nextKey) : s.Shelved step s' [] where
  keys := rfl
  nextKey := hkey
  held := by
    intro handle h
    rw [Holds, hbodies, hparts] at h
    exact Or.inl h
  bodies := by
    intro name _
    rw [hbodies]

theorem shelved_setBody (s : Session) (step : Step) (name : String) (body : Body)
    (hedits : step.edits name = true) (hparts : ∀ handle ∈ body.parts, s.Holds handle) :
    s.Shelved step (s.setBody name body) [] where
  keys := rfl
  nextKey := rfl
  held := by
    intro handle h
    rcases s.holds_setBody name body handle h with h | h
    · exact Or.inl h
    · exact Or.inl (hparts handle h)
  bodies := by
    intro other hother
    refine Table.find?_set_of_ne _ _ _ _ fun heq => ?_
    rw [heq, hedits] at hother
    cases hother

/-- A step that comes to nothing may be refused, if it reports no end. -/
theorem done_refuse (s : Session) (step : Step) (refusal : Refusal) (events : List Event)
    (hquiet : ∀ e ∈ events, e.isEnding = false) :
    s.Done step { s.refuse refusal with events } .nothing :=
  .nothing rfl rfl hquiet (shelved_same s step s rfl rfl rfl)

theorem done_noHandle (s : Session) (step : Step) : s.Done step (s.refuse .noHandle) .nothing :=
  done_refuse s step .noHandle [] fun _ he => nomatch he

theorem done_beginBody (s : Session) (id : String) (token : TokenChoice) :
    s.Done (.beginBody id token) (s.beginBody id token) .nothing := by
  unfold beginBody
  simp only
  -- A new body has no parts, so nothing is held by it.
  split
  · exact done_refuse s _ _ [] fun _ he => nomatch he
  · exact .nothing rfl rfl (fun _ he => nomatch he)
      (shelved_setBody s _ id _ (beq_self_eq_true id) fun _ hmem => nomatch hmem)

theorem done_makePart (s : Session) (id : String) (request : PartRequest) :
    s.Done (.makePart id request) (s.makePart id request) (s.making request) := by
  have hquiet := request.quiet_make s.files
  unfold makePart making
  rcases hmade : (request.make s.files).result with fault | part
  · simp only [hmade]
    exact done_refuse s _ _ _ hquiet
  · simp only [hmade]
    -- Under its name the part is held, and that is all that is new.
    refine .made _ rfl rfl hquiet ⟨rfl, rfl, fun handle h => ?_, fun _ _ => rfl⟩
    rcases holds_setPart _ _ _ _ h with h | h
    · exact Or.inl h
    · exact Or.inr (List.mem_singleton.mpr h)

theorem done_addNew (s : Session) (id name : String) (request : PartRequest) :
    s.Done (.addNew id name request) (s.addNew id name request)
      ((s.bodies.find? name).elim .nothing fun _ => s.making request) := by
  have hquiet := request.quiet_make s.files
  unfold addNew withBody making
  rcases hbody : s.bodies.find? name with _ | body
  · exact done_noHandle s _
  rcases hmade : (request.make s.files).result with fault | part
  · simp only [hmade, Option.elim_some]
    exact done_refuse s _ _ _ hquiet
  · simp only [hmade, Option.elim_some]
    refine .made _ rfl rfl (fun e he => ?_) ⟨rfl, rfl, fun handle h => ?_, fun other hother => ?_⟩
    · rcases List.mem_append.mp he with he | he
      · exact hquiet e he
      · rw [List.mem_singleton.mp he]
        rfl
    · -- The part is held twice, by the body and under its own name.
      rcases holds_setPart _ _ _ _ h with h | h
      · rcases holds_setBody _ _ _ _ h with h | h
        · exact Or.inl h
        · rcases List.mem_append.mp h with h | h
          · exact Or.inl (Or.inl ⟨name, body, hbody, h⟩)
          · exact Or.inr h
      · exact Or.inr (List.mem_singleton.mpr h)
    · refine Table.find?_set_of_ne _ _ _ _ fun heq => ?_
      simp only [Step.edits, heq, beq_self_eq_true, reduceCtorEq] at hother

theorem done_addShared (s : Session) (name part : String) :
    s.Done (.addShared name part) (s.addShared name part) .nothing := by
  unfold addShared withPart withBody
  rcases hpart : s.parts.find? part with _ | shared
  · exact done_noHandle s _
  rcases hbody : s.bodies.find? name with _ | body
  · exact done_noHandle s _
  refine .nothing rfl rfl (fun e he => ?_)
    (shelved_setBody s _ name _ (beq_self_eq_true name) fun handle hmem => ?_)
  · rw [List.mem_singleton.mp he]
    rfl
  · rcases List.mem_append.mp hmem with hmem | hmem
    · exact Or.inl ⟨name, body, hbody, hmem⟩
    · exact Or.inr ⟨part, shared, hpart, (List.mem_singleton.mp hmem).symm⟩

theorem done_removePart (s : Session) (name part : String) :
    s.Done (.removePart name part) (s.removePart name part) .nothing := by
  unfold removePart withPart withBody
  rcases hpart : s.parts.find? part with _ | shared
  · exact done_noHandle s _
  rcases hbody : s.bodies.find? name with _ | body
  · exact done_noHandle s _
  -- Taking out what is not there is a step that comes to nothing, too.
  rcases body.remove?_cases shared.handle with
    ⟨hnone, -⟩ | ⟨before, removed, after, hparts, -, -, hsome⟩
  · simp only [hnone]
    exact .nothing rfl rfl (fun _ he => nomatch he) (shelved_same s _ _ rfl rfl rfl)
  · simp only [hsome]
    refine .nothing rfl rfl (fun e he => ?_)
      (shelved_setBody s _ name _ (beq_self_eq_true name) fun handle hmem => ?_)
    · rw [List.mem_singleton.mp he]
      rfl
    · -- What is left of the body was in it before.
      refine Or.inl ⟨name, body, hbody, ?_⟩
      rw [hparts]
      rcases List.mem_append.mp hmem with hmem | hmem
      · exact List.mem_append_left _ hmem
      · exact List.mem_append_right _ (List.mem_cons_of_mem _ hmem)

theorem done_releasePart (s : Session) (part : String) :
    s.Done (.releasePart part) (s.releasePart part)
      ((s.parts.find? part).elim .nothing fun shared => .released shared.handle) := by
  unfold releasePart withPart
  rcases hpart : s.parts.find? part with _ | shared
  · exact done_noHandle s _
  exact .released shared.handle (Or.inr ⟨part, shared, hpart, rfl⟩) rfl rfl

theorem done_iterate (s : Session) (id name : String) :
    s.Done (.iterate id name) (s.iterate id name)
      ((s.bodies.find? name).elim .nothing (.begun id)) := by
  unfold iterate withBody
  rcases hbody : s.bodies.find? name with _ | body
  · exact done_noHandle s _
  simp only [Option.elim_some, bindTraversal]
  -- Under a name that is taken, the traversal there is closed on the way.
  rcases hfind : s.traversals.find? id with _ | old
  · exact .begun id name body (beq_self_eq_true id) hbody hfind rfl rfl
  · exact .replaced id name body old (beq_self_eq_true id) hbody hfind rfl rfl

/-- The calls of a step on a traversal that is there. -/
theorem done_hearing (s : Session) (step : Step) (id : String) (t : Traversal)
    (calls : Traversal → Nat) (o : Outcome) (hmoves : step.moves id = true)
    (hfind : s.traversals.find? id = some t) (hpieces : o.reply.pieces = (t.take (calls t)).1)
    (hsession : o.session = s.setTraversal id (t.take (calls t)).2) (hevents : o.events = []) :
    s.Done step o (s.hearing id o.reply.pieces calls) := by
  rw [hearing, hfind, Option.elim_some, t.successes_eq, hpieces]
  exact .heard id t (calls t) _ _ hmoves hfind rfl rfl hsession hevents

/-- A step that asks a traversal that is not there for pieces. -/
theorem done_unheard (s : Session) (step : Step) (id : String) (calls : Traversal → Nat)
    (hfind : s.traversals.find? id = none) :
    s.Done step (s.refuse .noHandle) (s.hearing id [] calls) := by
  rw [hearing, hfind, Option.elim_none]
  exact .silent id rfl rfl

theorem done_next (s : Session) (id : String) :
    s.Done (.next id) (s.next id) (s.hearing id (s.next id).reply.pieces fun _ => 1) := by
  unfold next withTraversal
  rcases hfind : s.traversals.find? id with _ | t
  · exact done_unheard s _ id _ hfind
  simp only [t.next_eq_take]
  -- At the end there is no piece, which is an answer too.
  rcases t.take_one_cases with htake | ⟨bytes, t', htake⟩ <;>
    exact done_hearing s _ id t _ _ (beq_self_eq_true id) hfind (by rw [htake]; rfl) rfl rfl

theorem done_nextChunk (s : Session) (id : String) :
    s.Done (.nextChunk id) (s.nextChunk id)
      (s.hearing id (s.nextChunk id).reply.pieces fun _ => 1) := by
  unfold nextChunk withTraversal
  rcases hfind : s.traversals.find? id with _ | t
  · exact done_unheard s _ id _ hfind
  simp only [t.nextChunk_eq_take]
  rcases t.take_one_cases with htake | ⟨bytes, t', htake⟩
  · -- At the end the step is refused, and the traversal is as it was.
    rw [htake, hearing, hfind, Option.elim_some, t.successes_eq, htake]
    exact .silent id rfl rfl
  · rw [htake]
    exact done_hearing s _ id t (fun _ => 1) _ (beq_self_eq_true id) hfind (by rw [htake]; rfl)
      (by rw [htake]; rfl) rfl

theorem done_poll (s : Session) (id : String) :
    s.Done (.poll id) (s.poll id) (s.hearing id (s.poll id).reply.pieces fun _ => 1) := by
  unfold poll withTraversal
  rcases hfind : s.traversals.find? id with _ | t
  · exact done_unheard s _ id _ hfind
  simp only [t.pollFrame_eq_take]
  -- At the end there is no piece, which is an answer too.
  rcases t.take_one_cases with htake | ⟨bytes, t', htake⟩ <;>
    exact done_hearing s _ id t _ _ (beq_self_eq_true id) hfind (by rw [htake]; rfl) rfl rfl

theorem done_take (s : Session) (id : String) (count : Nat) :
    s.Done (.take id count) (s.take id count)
      (s.hearing id (s.take id count).reply.pieces fun _ => count) := by
  unfold take withTraversal
  rcases hfind : s.traversals.find? id with _ | t
  · exact done_unheard s _ id _ hfind
  exact done_hearing s _ id t (fun _ => count) _ (beq_self_eq_true id) hfind rfl rfl rfl

theorem done_drain (s : Session) (id : String) :
    s.Done (.drain id) (s.drain id)
      (s.hearing id (s.drain id).reply.pieces fun t => Traversal.pieceCount t.parts) := by
  unfold drain withTraversal
  rcases hfind : s.traversals.find? id with _ | t
  · exact done_unheard s _ id _ hfind
  exact done_hearing s _ id t (fun t => Traversal.pieceCount t.parts) _ (beq_self_eq_true id)
    hfind rfl rfl rfl

theorem done_closeTraversal (s : Session) (id : String) :
    s.Done (.closeTraversal id) (s.closeTraversal id) (.closed id) := by
  unfold closeTraversal withTraversal
  rcases hfind : s.traversals.find? id with _ | t
  · exact .absent id _ rfl hfind rfl rfl
  exact .closed id t hfind rfl rfl

theorem done_dropTraversal (s : Session) (id : String) :
    s.Done (.dropTraversal id) (s.dropTraversal id) (.dropped id) := by
  unfold dropTraversal withTraversal
  rcases hfind : s.traversals.find? id with _ | t
  · exact .absent id _ rfl hfind rfl rfl
  exact .dropped id t (beq_self_eq_true id) hfind rfl rfl

theorem done_encode (s : Session) (name : String) :
    s.Done (.encode name) (s.encode name) (s.deed (.encode name)) := by
  simp only [deed, step]
  unfold encode withBody
  rcases hbody : s.bodies.find? name with _ | body
  · exact done_noHandle s _
  exact .wrote name body _ _ hbody rfl (body.iterate.successes_eq _) rfl rfl

theorem done_dropBody (s : Session) (name : String) :
    s.Done (.dropBody name) (s.step (.dropBody name)) .nothing := by
  simp only [step, withBody]
  rcases hbody : s.bodies.find? name with _ | body
  · exact done_noHandle s _
  refine .nothing rfl rfl (fun _ he => nomatch he)
    ⟨rfl, rfl, fun handle h => Or.inl ?_, fun other hother => ?_⟩
  · -- Fewer bodies are kept, so no part is held that was not held before.
    rcases h with ⟨other, found, hfind, hmem⟩ | hnamed
    · exact Or.inl ⟨other, found, Table.find?_of_find?_erase _ _ _ _ hfind, hmem⟩
    · exact Or.inr hnamed
  · refine Table.find?_erase_of_ne _ _ _ fun heq => ?_
    simp only [Step.edits, heq, beq_self_eq_true, reduceCtorEq] at hother

theorem done_dropPart (s : Session) (part : String) :
    s.Done (.dropPart part) (s.step (.dropPart part)) .nothing := by
  simp only [step, withPart]
  rcases hpart : s.parts.find? part with _ | shared
  · exact done_noHandle s _
  refine .nothing rfl rfl (fun _ he => nomatch he)
    ⟨rfl, rfl, fun handle h => Or.inl ?_, fun _ _ => rfl⟩
  -- The bodies that have the part keep it.
  rcases h with hbody | ⟨other, found, hfind, hhandle⟩
  · exact Or.inl hbody
  · exact Or.inr ⟨other, found, Table.find?_of_find?_erase _ _ _ _ hfind, hhandle⟩

theorem done_view (s : Session) (step : Step) (reply : Reply) :
    s.Done step { session := s, reply } .nothing :=
  .nothing rfl rfl (fun _ he => nomatch he) (shelved_same s step s rfl rfl rfl)

/-- A step does what it comes to, and nothing else. -/
theorem done_step (s : Session) (step : Step) : s.Done step (s.step step) (s.deed step) := by
  cases step with
  | beginBody id token => exact s.done_beginBody id token
  | makePart id request => exact s.done_makePart id request
  | addNew id body request => exact s.done_addNew id body request
  | addShared body part => exact s.done_addShared body part
  | removePart body part => exact s.done_removePart body part
  | viewBody body =>
      simp only [deed, Session.step, withBody]
      rcases hbody : s.bodies.find? body with _ | found
      · exact done_noHandle s _
      · exact done_view s _ _
  | viewPart part =>
      simp only [deed, Session.step, withPart]
      rcases hpart : s.parts.find? part with _ | shared
      · exact done_noHandle s _
      · exact done_view s _ _
  | releasePart part => exact s.done_releasePart part
  | iterate id body => exact s.done_iterate id body
  | next id => exact s.done_next id
  | nextChunk id => exact s.done_nextChunk id
  | poll id => exact s.done_poll id
  | take id count => exact s.done_take id count
  | drain id => exact s.done_drain id
  | viewTraversal id =>
      simp only [deed, Session.step, withTraversal]
      rcases hfind : s.traversals.find? id with _ | t
      · exact done_noHandle s _
      · exact done_view s _ _
  | closeTraversal id => exact s.done_closeTraversal id
  | encode body => exact s.done_encode body
  | dropBody body => exact s.done_dropBody body
  | dropPart part => exact s.done_dropPart part
  | dropTraversal id => exact s.done_dropTraversal id
  | changeFiles changes =>
      exact .nothing rfl rfl (fun _ he => nomatch he) (shelved_same s _ _ rfl rfl rfl)

/-- What a step does to bodies and parts, whatever it comes to. -/
theorem shelved_step (s : Session) (step : Step) :
    s.Shelved step (s.step step).session (s.deed step).handles := by
  have hdone := s.done_step step
  generalize s.deed step = deed at hdone ⊢
  -- Only what comes to nothing, or to a part, may have touched them.
  cases hdone with
  | nothing htraversals hledger hquiet hshelved => exact hshelved
  | made handle htraversals hledger hquiet hshelved => exact hshelved
  | released handle hheld hsession hevents =>
      rw [hsession]
      exact shelved_same s step _ rfl rfl rfl
  | begun id name body hmoves hbody hfree hsession hevents =>
      rw [hsession]
      exact shelved_same s step _ rfl rfl rfl
  | replaced id name body old hmoves hbody hfind hsession hevents =>
      rw [hsession]
      exact shelved_same s step _ rfl rfl rfl
  | heard id t count pieces successes hmoves hfind hpieces hsuccesses hsession hevents =>
      rw [hsession]
      exact shelved_same s step _ rfl rfl rfl
  | silent id hsession hevents =>
      rw [hsession]
      exact shelved_same s step _ rfl rfl rfl
  | closed id t hfind hsession hevents =>
      rw [hsession]
      exact shelved_same s step _ rfl rfl rfl
  | dropped id t hmoves hfind hsession hevents =>
      rw [hsession]
      exact shelved_same s step _ rfl rfl rfl
  | absent id deed hends hfree hsession hevents =>
      rw [hsession]
      rcases deed.eq_of_ends? id hends with rfl | rfl <;> exact shelved_same s step _ rfl rfl rfl
  | wrote name body pieces successes hbody hpieces hsuccesses hsession hevents =>
      rw [hsession]
      exact shelved_same s step _ rfl rfl rfl

end Session

end FormData
