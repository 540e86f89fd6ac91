import FormData.Proofs.Deed

/-!
# Chronicles

What has happened to every traversal, and what has been reported.

A session forgets. A traversal that was let go of is in no table any more, the
ledger does not say who asked for a release, and pieces are gone once they are
handed out. What holds over a whole run is about all of these, so a run is
followed by someone who writes things down. A `Chronicle` has a `Passage` for
every traversal that was ever begun: the body as it was then, the pieces it has
handed out, and whether it has ended. It has the parts that were made, the
releases that were asked for by name, and the events.

The chronicle is written from what was asked for: the names in a step, and the
bodies and parts that were kept under those names. A step that closes a traversal
is written down as an end of the traversal the chronicle has under that name,
whether or not the session agrees. Pieces are copied from the answers, and how
many there should be is counted call by call. The traversals and the ledger that
a step leaves are never looked at. That is why it is worth something that they
can be read off the chronicle. A traversal is at any time what a fresh traversal
of its origin is after as many pieces (`Passage.resume`), and a run keeps it
that way (`Followed`).

## Main definitions

* `Session.after`: The session that a run of steps leaves.
* `Passage`: What has happened to one traversal.
* `Passage.resume`: The traversal that a passage has led to.
* `Chronicle`: What has happened in a run.
* `Chronicle.record`: Writing down what a step came to.
* `Chronicle.ofRun`: The chronicle of a run that begins with nothing.
* `Followed`: The traversals under names are those of a chronicle.

## Theorems

* `Chronicle.log_follow`: The events of a chronicle are those of the run.
* `Chronicle.follow_induction`: What every step keeps holds along a run.
* `Passage.resume_hear`: Handing out pieces leads a passage as far as it leads
  the traversal.
* `Followed.note`: A step keeps the traversals followed.
* `Followed.ofRun`: The traversals of a run are those of its chronicle.
-/

namespace FormData

namespace Session

/-- The session that a run of steps leaves. -/
def after (s : Session) (steps : List Step) : Session :=
  steps.foldl (fun s step => (s.step step).session) s

end Session

/-- What has happened to one traversal. -/
structure Passage where
  /-- The body when the traversal was begun. -/
  origin : Body
  /-- The pieces that were handed out, in order. -/
  yielded : List Bytes := []
  /-- How many times a piece was asked for and there was one. -/
  successes : Nat := 0
  /-- How many pieces there had been when it was closed or let go of first. -/
  ending : Option Nat := none

namespace Passage

/-- More pieces were handed out. -/
def hear (p : Passage) (pieces : List Bytes) (successes : Nat) : Passage :=
  { p with yielded := p.yielded ++ pieces, successes := p.successes + successes }

/-- It was closed or let go of. Only the first time counts. -/
def finish (p : Passage) : Passage :=
  { p with ending := p.ending.or (some p.successes) }

/-- The traversal that a passage has led to: the one a fresh traversal of the
    origin leads to in as many steps. -/
def resume (p : Passage) : Traversal :=
  { (p.origin.iterate.take p.successes).2 with closed := p.ending.isSome }

/-- What was handed out is what a fresh traversal of the origin hands out, one
    piece for each request. -/
def Faithful (p : Passage) : Prop :=
  p.yielded = (p.origin.iterate.take p.successes).1 ∧ p.yielded.length = p.successes

theorem faithful_fresh (body : Body) : ({ origin := body } : Passage).Faithful := ⟨rfl, rfl⟩

theorem faithful_finish (p : Passage) (h : p.Faithful) : p.finish.Faithful := h

/-- A request that gets nothing leaves no trace. -/
@[simp] theorem hear_nil (p : Passage) : p.hear [] 0 = p := by
  rw [hear, List.append_nil, Nat.add_zero]

@[simp] theorem parts_resume (p : Passage) : p.resume.parts = p.origin.parts :=
  Traversal.parts_take _ _

theorem close_resume (p : Passage) (ledger : Ledger) :
    (p.resume.close ledger).result.1 = p.finish.resume := by
  rcases p with ⟨origin, yielded, successes, ending⟩
  cases ending with
  | none => rfl
  | some count => rfl

/-- Handing out pieces leads a passage as far as it leads the traversal, even
    if more were asked for than there are. -/
theorem resume_hear (p : Passage) (count : Nat) (h : p.Faithful) :
    let pieces := (p.resume.take count).1
    (p.hear pieces pieces.length).resume = (p.resume.take count).2
      ∧ (p.hear pieces pieces.length).Faithful := by
  intro pieces
  have hpieces : pieces = ((p.origin.iterate.take p.successes).2.take count).1 := by
    simp only [pieces, resume, Traversal.take_setClosed]
  -- As many steps as there were pieces do what so many requests did.
  have htake : p.origin.iterate.take (p.successes + pieces.length)
      = (p.yielded ++ pieces, ((p.origin.iterate.take p.successes).2.take count).2) := by
    rw [Traversal.take_add, hpieces, Traversal.take_length, h.1]
  refine ⟨?_, ?_, ?_⟩
  · simp only [resume, hear, htake, Traversal.take_setClosed]
  · simp only [hear, htake]
  · simp only [hear, List.length_append, h.2]

end Passage

/-- What has happened in a run. -/
structure Chronicle where
  /-- The traversals that have a name. -/
  live : Table Passage := Table.empty
  /-- The traversals that were let go of, the latest first. -/
  gone : List Passage := []
  /-- The parts that were made, in order. -/
  made : List Handle := []
  /-- The keys of the parts that were released by name, the latest first. -/
  direct : List Nat := []
  /-- The events that were reported, in order. -/
  log : List Event := []

namespace Chronicle

/-- All traversals that were ever begun. -/
def passages (c : Chronicle) : List Passage :=
  c.live.values ++ c.gone

/-- Something happened to the traversal of a name. -/
def amend (c : Chronicle) (id : String) (f : Passage → Passage) : Chronicle :=
  match c.live.find? id with
  | none => c
  | some p => { c with live := c.live.set id (f p) }

/-- The traversal of a name, if there is one, was let go of. -/
def leave (c : Chronicle) (id : String) : Chronicle :=
  match c.live.find? id with
  | none => c
  | some p => { c with live := c.live.erase id, gone := p.finish :: c.gone }

/-- A traversal of a body was begun under a free name. -/
def enter (c : Chronicle) (id : String) (origin : Body) : Chronicle :=
  { c with live := c.live.set id { origin } }

/-- Write down what a step came to. -/
def record (c : Chronicle) : Deed → Chronicle
  | .nothing => c
  | .made handle => { c with made := c.made ++ [handle] }
  | .released handle => { c with direct := handle.key :: c.direct }
  | .begun id origin => (c.leave id).enter id origin
  | .heard id pieces successes => c.amend id fun p => p.hear pieces successes
  | .closed id => c.amend id Passage.finish
  | .dropped id => c.leave id
  | .wrote origin pieces successes =>
    { c with gone := (({ origin } : Passage).hear pieces successes).finish :: c.gone }

/-- Write down a step of a session, and what it reported. -/
def note (c : Chronicle) (s : Session) (step : Step) : Chronicle :=
  { c.record (s.deed step) with log := c.log ++ (s.step step).events }

/-- Write down a run of steps. -/
def follow (c : Chronicle) (s : Session) : List Step → Chronicle
  | [] => c
  | step :: rest => (c.note s step).follow (s.step step).session rest

/-- The chronicle of a run that begins with files and nothing else. -/
def ofRun (files : FileTree) (steps : List Step) : Chronicle :=
  ({} : Chronicle).follow { files } steps

/-- The events of a chronicle are those of the run, in order. -/
theorem log_follow (c : Chronicle) (s : Session) (steps : List Step) :
    (c.follow s steps).log = c.log ++ (s.run steps).flatMap Outcome.events := by
  induction steps generalizing c s with
  | nil => rw [follow, Session.run, List.flatMap_nil, List.append_nil]
  | cons step rest ih =>
      -- What is recorded of a step leaves the log alone.
      rw [follow, ih, Session.run, List.flatMap_cons, ← List.append_assoc]
      rfl

/-- What every step keeps holds along a run. -/
theorem follow_induction (P : Session → Chronicle → Prop)
    (hstep : ∀ s c step, P s c → P (s.step step).session (c.note s step))
    (s : Session) (c : Chronicle) (steps : List Step) (h : P s c) :
    P (s.after steps) (c.follow s steps) := by
  induction steps generalizing s c with
  | nil => exact h
  | cons step rest ih => exact ih _ _ (hstep s c step h)

theorem amend_of_free (c : Chronicle) (id : String) (f : Passage → Passage)
    (h : c.live.find? id = none) : c.amend id f = c := by
  simp only [amend, h]

theorem leave_of_free (c : Chronicle) (id : String) (h : c.live.find? id = none) :
    c.leave id = c := by
  simp only [leave, h]

/-- There is nothing to write down about the end of a traversal that is not
    there. -/
theorem record_of_free (c : Chronicle) (deed : Deed) (id : String) (hends : deed.ends? = some id)
    (h : c.live.find? id = none) : c.record deed = c := by
  rcases deed.eq_of_ends? id hends with rfl | rfl
  · exact c.amend_of_free id _ h
  · exact c.leave_of_free id h

theorem mem_passages_of_find? (c : Chronicle) (id : String) (p : Passage)
    (h : c.live.find? id = some p) : p ∈ c.passages :=
  List.mem_append_left _ (c.live.mem_values_of_find? id p h)

theorem find?_amend_self (c : Chronicle) (id : String) (f : Passage → Passage) :
    (c.amend id f).live.find? id = (c.live.find? id).map f := by
  unfold amend
  rcases hfind : c.live.find? id with _ | p
  · exact hfind
  · exact Table.find?_set_self _ _ _

theorem find?_amend_of_ne (c : Chronicle) (id other : String) (f : Passage → Passage)
    (h : other ≠ id) : (c.amend id f).live.find? other = c.live.find? other := by
  unfold amend
  rcases hfind : c.live.find? id with _ | p
  · rfl
  · exact Table.find?_set_of_ne _ _ _ _ h

theorem find?_leave_self (c : Chronicle) (id : String) : (c.leave id).live.find? id = none := by
  unfold leave
  rcases hfind : c.live.find? id with _ | p
  · exact hfind
  · exact Table.find?_erase_self _ _

theorem find?_leave_of_ne (c : Chronicle) (id other : String) (h : other ≠ id) :
    (c.leave id).live.find? other = c.live.find? other := by
  unfold leave
  rcases hfind : c.live.find? id with _ | p
  · rfl
  · exact Table.find?_erase_of_ne _ _ _ h

theorem mem_passages_amend (c : Chronicle) (id : String) (f : Passage → Passage) (p : Passage)
    (h : p ∈ (c.amend id f).passages) :
    p ∈ c.passages ∨ ∃ q, c.live.find? id = some q ∧ p = f q := by
  unfold amend at h
  rcases hfind : c.live.find? id with _ | q
  · rw [hfind] at h
    exact Or.inl h
  · rw [hfind] at h
    -- The amended passage is in front, and all others were there before.
    rcases List.mem_append.mp h with h | h
    · rcases List.mem_cons.mp h with h | h
      · exact Or.inr ⟨q, rfl, h⟩
      · exact Or.inl (List.mem_append_left _ (Table.mem_values_of_erase _ _ _ h))
    · exact Or.inl (List.mem_append_right _ h)

theorem mem_passages_leave (c : Chronicle) (id : String) (p : Passage)
    (h : p ∈ (c.leave id).passages) :
    p ∈ c.passages ∨ ∃ q, c.live.find? id = some q ∧ p = q.finish := by
  unfold leave at h
  rcases hfind : c.live.find? id with _ | q
  · rw [hfind] at h
    exact Or.inl h
  · rw [hfind] at h
    rcases List.mem_append.mp h with h | h
    · exact Or.inl (List.mem_append_left _ (Table.mem_values_of_erase _ _ _ h))
    · rcases List.mem_cons.mp h with h | h
      · exact Or.inr ⟨q, rfl, h⟩
      · exact Or.inl (List.mem_append_right _ h)

theorem mem_passages_enter (c : Chronicle) (id : String) (origin : Body) (p : Passage)
    (h : p ∈ (c.enter id origin).passages) : p ∈ c.passages ∨ p = { origin } := by
  rcases List.mem_append.mp h with h | h
  · rcases List.mem_cons.mp h with h | h
    · exact Or.inr h
    · exact Or.inl (List.mem_append_left _ (Table.mem_values_of_erase _ _ _ h))
  · exact Or.inl (List.mem_append_right _ h)

end Chronicle

/-- The traversals under names are those of a chronicle, and what they handed
    out is what their origins had to give. -/
structure Followed (traversals : Table Traversal) (c : Chronicle) : Prop where
  named : ∀ id, traversals.find? id = (c.live.find? id).map Passage.resume
  faithful : ∀ p ∈ c.passages, p.Faithful

namespace Followed

theorem passage_of_find? {traversals : Table Traversal} {c : Chronicle}
    (h : Followed traversals c) {id : String} {t : Traversal}
    (hfind : traversals.find? id = some t) :
    ∃ p, c.live.find? id = some p ∧ p.Faithful ∧ t = p.resume := by
  rw [h.named id] at hfind
  rcases Option.map_eq_some_iff.mp hfind with ⟨p, hp, hresume⟩
  exact ⟨p, hp, h.faithful p (c.mem_passages_of_find? id p hp), hresume.symm⟩

/-- The traversal of one name goes on, and its passage goes on with it. -/
theorem amend {traversals : Table Traversal} {c : Chronicle} (h : Followed traversals c)
    {id : String} {t t' : Traversal} (f : Passage → Passage)
    (hfind : traversals.find? id = some t)
    (hf : ∀ p : Passage, p.Faithful → t = p.resume → t' = (f p).resume ∧ (f p).Faithful) :
    Followed (traversals.set id t') (c.amend id f) := by
  rcases h.passage_of_find? hfind with ⟨p, hp, hfaithful, hresume⟩
  rcases hf p hfaithful hresume with ⟨hresume', hfaithful'⟩
  refine ⟨fun other => ?_, fun q hq => ?_⟩
  · -- Only what is under the name has changed, on both sides.
    by_cases hother : other = id
    · rw [hother, Table.find?_set_self, c.find?_amend_self, hp, hresume']
      rfl
    · rw [Table.find?_set_of_ne _ _ _ _ hother, c.find?_amend_of_ne _ _ _ hother, h.named other]
  · rcases c.mem_passages_amend id f q hq with hq | ⟨q', hq', hqf⟩
    · exact h.faithful q hq
    · rw [hp, Option.some.injEq] at hq'
      rw [hqf, ← hq']
      exact hfaithful'

/-- A name that leads nowhere leads nowhere in the chronicle. -/
theorem free {traversals : Table Traversal} {c : Chronicle} (h : Followed traversals c)
    {id : String} (hfree : traversals.find? id = none) : c.live.find? id = none := by
  rw [h.named id, Option.map_eq_none_iff] at hfree
  exact hfree

/-- A request that gets nothing leaves everything where it is. -/
theorem silent {traversals : Table Traversal} {c : Chronicle} (h : Followed traversals c)
    (id : String) : Followed traversals (c.amend id fun p => p.hear [] 0) := by
  refine ⟨fun other => ?_, fun q hq => ?_⟩
  · by_cases hother : other = id
    · simp only [hother, c.find?_amend_self, Passage.hear_nil, Option.map_id', h.named id]
    · rw [c.find?_amend_of_ne _ _ _ hother, h.named other]
  · rcases c.mem_passages_amend id _ q hq with hq | ⟨q', hq', hqf⟩
    · exact h.faithful q hq
    · rw [hqf, Passage.hear_nil]
      exact h.faithful q' (c.mem_passages_of_find? id q' hq')

/-- The traversal of one name is let go of. -/
theorem leave {traversals : Table Traversal} {c : Chronicle} (h : Followed traversals c)
    (id : String) : Followed (traversals.erase id) (c.leave id) := by
  refine ⟨fun other => ?_, fun q hq => ?_⟩
  · by_cases hother : other = id
    · rw [hother, Table.find?_erase_self, c.find?_leave_self]
      rfl
    · rw [Table.find?_erase_of_ne _ _ _ hother, c.find?_leave_of_ne _ _ hother, h.named other]
  · rcases c.mem_passages_leave id q hq with hq | ⟨q', hq', hqf⟩
    · exact h.faithful q hq
    · rw [hqf]
      exact h.faithful q' (c.mem_passages_of_find? id q' hq')

/-- A traversal is begun, and the one it replaces, if any, is let go of. -/
theorem enter {traversals : Table Traversal} {c : Chronicle} (h : Followed traversals c)
    (id : String) (body : Body) :
    Followed (traversals.set id body.iterate) ((c.leave id).enter id body) := by
  refine ⟨fun other => ?_, fun q hq => ?_⟩
  · by_cases hother : other = id
    · rw [hother, Table.find?_set_self, Chronicle.enter, Table.find?_set_self]
      rfl
    · rw [Table.find?_set_of_ne _ _ _ _ hother, Chronicle.enter,
        Table.find?_set_of_ne _ _ _ _ hother, c.find?_leave_of_ne _ _ hother, h.named other]
  · -- The new passage has handed out nothing, and that is what it should have.
    rcases (c.leave id).mem_passages_enter id body q hq with hq | hq
    · exact (h.leave id).faithful q hq
    · rw [hq]
      exact Passage.faithful_fresh body

/-- A body is written out with a traversal that never gets a name. -/
theorem write {traversals : Table Traversal} {c : Chronicle} (h : Followed traversals c)
    (body : Body) :
    Followed traversals (c.record
      (.wrote body body.iterate.drain.1 body.iterate.drain.1.length)) := by
  -- Names are not touched, so only the new passage has to be looked at.
  refine ⟨h.named, fun q hq => ?_⟩
  rcases List.mem_append.mp hq with hq | hq
  · exact h.faithful q (List.mem_append_left _ hq)
  · rcases List.mem_cons.mp hq with hq | hq
    · rw [hq]
      exact (Passage.resume_hear { origin := body } _ (Passage.faithful_fresh body)).2
    · exact h.faithful q (List.mem_append_right _ hq)

/-- A step keeps the traversals followed, whatever it comes to. -/
theorem note {s : Session} {c : Chronicle} (h : Followed s.traversals c) (step : Step) :
    Followed (s.step step).session.traversals (c.note s step) := by
  -- The log is no part of what is followed.
  suffices hrecord : Followed (s.step step).session.traversals (c.record (s.deed step)) from
    ⟨hrecord.named, hrecord.faithful⟩
  have hdone := s.done_step step
  generalize s.deed step = deed at hdone
  cases hdone with
  | nothing htraversals hledger hquiet hshelved =>
      rw [htraversals]
      exact h
  | made handle htraversals hledger hquiet hshelved =>
      rw [htraversals]
      -- The list of parts is longer, and nothing that is followed has changed.
      exact ⟨h.named, h.faithful⟩
  | released handle hheld hsession hevents =>
      rw [hsession]
      exact ⟨h.named, h.faithful⟩
  | begun id name body hmoves hbody hfree hsession hevents =>
      rw [hsession]
      exact h.enter id body
  | replaced id name body old hmoves hbody hfind hsession hevents =>
      rw [hsession]
      exact h.enter id body
  | heard id t count pieces successes hmoves hfind hpieces hsuccesses hsession hevents =>
      rw [hsession, hsuccesses, hpieces]
      -- The traversal and its passage go on by the same pieces.
      refine h.amend _ hfind fun p hfaithful hresume => ?_
      rw [hresume]
      have hhear := p.resume_hear count hfaithful
      exact ⟨hhear.1.symm, hhear.2⟩
  | silent id hsession hevents =>
      rw [hsession]
      exact h.silent id
  | closed id t hfind hsession hevents =>
      rw [hsession]
      refine h.amend _ hfind fun p hfaithful hresume => ?_
      rw [hresume]
      exact ⟨p.close_resume s.ledger, p.faithful_finish hfaithful⟩
  | dropped id t hmoves hfind hsession hevents =>
      rw [hsession]
      exact h.leave id
  | absent id deed hends hfree hsession hevents =>
      rw [hsession, c.record_of_free deed id hends (h.free hfree)]
      exact h
  | wrote name body pieces successes hbody hpieces hsuccesses hsession hevents =>
      rw [hsession, hsuccesses, hpieces]
      exact h.write body

/-- The traversals of a run are those of its chronicle. -/
theorem ofRun (files : FileTree) (steps : List Step) :
    Followed (({ files } : Session).after steps).traversals (Chronicle.ofRun files steps) :=
  Chronicle.follow_induction (fun s c => Followed s.traversals c) (fun _ _ step h => h.note step)
    { files } {} steps ⟨fun _ => rfl, fun _ hp => nomatch hp⟩

end Followed

end FormData
