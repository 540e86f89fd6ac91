import FormData.Proofs.Chronicle

/-!
# Independence of Traversals

What one traversal yields does not depend on anything else that goes on.

Traversals share parts with bodies and with each other, and all the while parts
come and go, are released, and other traversals get ahead. None of this can be
noticed by a traversal. It has its own list of parts, parts do not change, and
what is recorded about them is recorded elsewhere. So what a traversal has
yielded and what it will yield are settled by the body it was begun on and by
how many pieces it was asked for, and by nothing else in the session.

The claim has two halves. That a traversal is where its own history puts it
comes from the chronicle. That a step which does not ask it for a piece leaves
it where it is comes from what a step can do at all, and needs no history. The
one thing that may change about such a traversal is that it becomes closed, and
a traversal does not look at that when it yields.

Trying again is the case that matters most. A body that is not edited is the
same body the second time, so a traversal of it yields the same pieces, however
the first attempt ended.

## Main definitions

* `Traversal.Alike`: Two traversals differ at most in being closed.

## Theorems

* `Passage.observe_resume`: What a traversal shows, from its own history.
* `Session.alike_step`: A step that does not move a traversal leaves it alike.
* `Session.bodies_after`: A body that is not edited stays.
* `Session.reply_drain`: Draining a traversal that was just begun.
* `Session.traversals_independent`: Traversals, bodies and releases do not
  interfere.
-/

namespace FormData

namespace Traversal

/-- Two traversals differ at most in whether they are closed. -/
def Alike (t t' : Traversal) : Prop :=
  t' = { t with closed := t'.closed }

theorem alike_refl (t : Traversal) : t.Alike t := rfl

theorem alike_trans (t t' t'' : Traversal) (h : t.Alike t') (h' : t'.Alike t'') :
    t.Alike t'' := by
  rw [Alike] at h h' ⊢
  rw [h', h]

theorem alike_close (t : Traversal) (ledger : Ledger) : t.Alike (t.close ledger).result.1 := by
  rw [Alike, close_fst]

theorem next_fst (t : Traversal) : t.next.1 = t.ahead.head? := by
  rw [next_eq_take, take_fst, List.head?_take, if_neg Nat.one_ne_zero]

theorem observe_of_alike (t t' : Traversal) (h : t.Alike t') :
    t'.hasNext = t.hasNext ∧ t'.remaining = t.remaining ∧ t'.next.1 = t.next.1 := by
  rw [Alike] at h
  refine ⟨?_, ?_, ?_⟩
  · rw [h]
    rfl
  · rw [h]
  · rw [next_fst, next_fst, h]
    rfl

end Traversal

namespace Passage

theorem yielded_prefix_drain (p : Passage) (h : p.Faithful) :
    p.yielded <+: p.origin.iterate.drain.1 := by
  rw [h.1, Traversal.take_fst, Traversal.drain_fst]
  exact List.take_prefix _ _

/-- What a traversal shows is settled by the body it was begun on and by how
    many pieces it has handed out. -/
theorem observe_resume (p : Passage) (h : p.Faithful) :
    let pieces := p.origin.iterate.drain.1
    p.resume.hasNext = decide (p.successes < pieces.length)
      ∧ p.resume.remaining = p.origin.length - Bytes.total p.yielded
      ∧ p.resume.next.1 = pieces[p.successes]? := by
  intro pieces
  -- Where the traversal stands is told by what it has ahead.
  have hahead : p.resume.ahead = pieces.drop p.successes := by
    have hpieces : pieces = p.origin.iterate.ahead := Traversal.drain_fst _
    rw [hpieces]
    exact Traversal.ahead_take p.successes p.origin.iterate
  have hrange : p.resume.InRange :=
    Traversal.inRange_take p.successes _ (Traversal.inRange_iterate p.origin)
  refine ⟨?_, ?_, ?_⟩
  · by_cases hlt : p.successes < pieces.length
    · rw [decide_eq_true hlt]
      by_contra hno
      rw [Bool.not_eq_true, Traversal.hasNext_eq_false_iff _ hrange, hahead,
        List.drop_eq_nil_iff] at hno
      omega
    · rw [decide_eq_false hlt, Traversal.hasNext_eq_false_iff _ hrange, hahead,
        List.drop_eq_nil_iff]
      omega
  · rw [h.1]
    exact Traversal.remaining_take p.successes p.origin.iterate
  · rw [Traversal.next_fst, hahead, List.head?_drop]

end Passage

namespace Session

/-- A step that does not move a traversal leaves it alike. -/
theorem alike_step (s : Session) (step : Step) (id : String) (t : Traversal)
    (hfind : s.traversals.find? id = some t) (hmoves : step.moves id = false) :
    ∃ t', (s.step step).session.traversals.find? id = some t' ∧ t.Alike t' := by
  -- A traversal under another name may be anything afterwards.
  have hother : ∀ other : String, step.moves other = true → id ≠ other := by
    intro other hother heq
    rw [← heq, hmoves] at hother
    cases hother
  have hdone := s.done_step step
  generalize s.deed step = deed at hdone
  cases hdone with
  | nothing htraversals hledger hquiet hshelved =>
      rw [htraversals]
      exact ⟨t, hfind, t.alike_refl⟩
  | made handle htraversals hledger hquiet hshelved =>
      rw [htraversals]
      exact ⟨t, hfind, t.alike_refl⟩
  | released handle hheld hsession hevents =>
      rw [hsession]
      exact ⟨t, hfind, t.alike_refl⟩
  | begun other name body hmoved hbody hfree hsession hevents =>
      rw [hsession]
      exact ⟨t, (Table.find?_set_of_ne _ _ _ _ (hother other hmoved)).trans hfind, t.alike_refl⟩
  | replaced other name body old hmoved hbody hold hsession hevents =>
      rw [hsession]
      exact ⟨t, (Table.find?_set_of_ne _ _ _ _ (hother other hmoved)).trans hfind, t.alike_refl⟩
  | heard other old count pieces successes hmoved hold hpieces hsuccesses hsession hevents =>
      rw [hsession]
      exact ⟨t, (Table.find?_set_of_ne _ _ _ _ (hother other hmoved)).trans hfind, t.alike_refl⟩
  | silent other hsession hevents =>
      rw [hsession]
      exact ⟨t, hfind, t.alike_refl⟩
  | closed other old hold hsession hevents =>
      rw [hsession]
      -- Closing is the one thing that a step which does not move it may do to it.
      by_cases heq : id = other
      · rw [← heq, hfind] at hold
        rw [← Option.some.inj hold, ← heq]
        exact ⟨_, Table.find?_set_self _ _ _, t.alike_close s.ledger⟩
      · exact ⟨t, (Table.find?_set_of_ne _ _ _ _ heq).trans hfind, t.alike_refl⟩
  | dropped other old hmoved hold hsession hevents =>
      rw [hsession]
      exact ⟨t, (Table.find?_erase_of_ne _ _ _ (hother other hmoved)).trans hfind, t.alike_refl⟩
  | absent other deed hends hfree hsession hevents =>
      rw [hsession]
      exact ⟨t, hfind, t.alike_refl⟩
  | wrote name body pieces successes hbody hpieces hsuccesses hsession hevents =>
      rw [hsession]
      exact ⟨t, hfind, t.alike_refl⟩

theorem alike_after (s : Session) (steps : List Step) (id : String) (t : Traversal)
    (hfind : s.traversals.find? id = some t) (hmoves : ∀ step ∈ steps, step.moves id = false) :
    ∃ t', (s.after steps).traversals.find? id = some t' ∧ t.Alike t' := by
  induction steps generalizing s t with
  | nil => exact ⟨t, hfind, t.alike_refl⟩
  | cons step rest ih =>
      rcases s.alike_step step id t hfind (hmoves step List.mem_cons_self) with
        ⟨t', hfind', halike⟩
      rcases ih _ t' hfind' (fun x hx => hmoves x (List.mem_cons_of_mem _ hx)) with
        ⟨t'', hfind'', halike'⟩
      exact ⟨t'', hfind'', t.alike_trans t' t'' halike halike'⟩

theorem bodies_after (s : Session) (steps : List Step) (name : String)
    (hedits : ∀ step ∈ steps, step.edits name = false) :
    (s.after steps).bodies.find? name = s.bodies.find? name := by
  induction steps generalizing s with
  | nil => rfl
  | cons step rest ih =>
      have hrest := ih (s.step step).session fun x hx => hedits x (List.mem_cons_of_mem _ hx)
      exact hrest.trans ((s.shelved_step step).bodies name (hedits step List.mem_cons_self))

/-- The traversal that was begun last under a name is a fresh one. -/
theorem find?_iterate (s : Session) (id name : String) (body : Body)
    (hbody : s.bodies.find? name = some body) :
    (s.step (.iterate id name)).session.traversals.find? id = some body.iterate := by
  simp only [step, iterate, withBody, hbody, bindTraversal]
  -- The name may have been taken, and then the old traversal is closed first.
  rcases hfind : s.traversals.find? id with _ | old
  · exact Table.find?_set_self _ _ _
  · exact Table.find?_set_self _ _ _

/-- Draining a traversal that was just begun answers with all the pieces of the
    body, and there are no more. -/
theorem reply_drain (s : Session) (id name : String) (body : Body)
    (hbody : s.bodies.find? name = some body) :
    ((s.after [.iterate id name]).step (.drain id)).reply
      = .drained body.iterate.drain.1 false body.iterate.drain.2.remaining := by
  have hfind := s.find?_iterate id name body hbody
  simp only [after, List.foldl_cons, List.foldl_nil]
  simp only [step, drain, withTraversal] at hfind ⊢
  rw [hfind]
  simp only [Traversal.hasNext_drain_iterate]

/-- Traversals, bodies and releases do not interfere. After any run of steps,
    whatever they interleave:

    - Every traversal there has been has handed out a beginning of what draining
      its body would have yielded when it was begun, as many pieces as it was
      successfully asked for.
    - What a traversal shows is settled by that body and that number.
    - It stays so through any steps that do not ask it for pieces, replace it or
      let go of it.
    - Two full drains of a body that is not edited in between yield the same,
      whatever else was done before, between and to the first traversal. -/
theorem traversals_independent (files : FileTree) (steps : List Step) :
    let s := ({ files } : Session).after steps
    let c := Chronicle.ofRun files steps
    (∀ p ∈ c.passages,
      p.yielded <+: p.origin.iterate.drain.1 ∧ p.yielded.length = p.successes)
    ∧ (∀ id t, s.traversals.find? id = some t →
        ∃ p, c.live.find? id = some p
          ∧ t.hasNext = decide (p.successes < p.origin.iterate.drain.1.length)
          ∧ t.remaining = p.origin.length - Bytes.total p.yielded
          ∧ t.next.1 = p.origin.iterate.drain.1[p.successes]?)
    ∧ (∀ id t others, s.traversals.find? id = some t →
        (∀ step ∈ others, step.moves id = false) →
        ∃ t', (s.after others).traversals.find? id = some t'
          ∧ t'.hasNext = t.hasNext ∧ t'.remaining = t.remaining ∧ t'.next.1 = t.next.1)
    ∧ (∀ name body before between id id', s.bodies.find? name = some body →
        (∀ step ∈ before ++ between, step.edits name = false) →
        let first := ((s.after before).after [.iterate id name]).step (.drain id)
        let second :=
          ((first.session.after between).after [.iterate id' name]).step (.drain id')
        first.reply = .drained body.iterate.drain.1 false body.iterate.drain.2.remaining
          ∧ second.reply = first.reply) := by
  intro s c
  have hfollowed : Followed s.traversals c := Followed.ofRun files steps
  refine ⟨fun p hp => ?_, fun id t hfind => ?_, fun id t others hfind hmoves => ?_,
    fun name body before between id id' hbody hedits => ?_⟩
  · exact ⟨p.yielded_prefix_drain (hfollowed.faithful p hp), (hfollowed.faithful p hp).2⟩
  · -- What is under a name is where its own history puts it.
    rcases hfollowed.passage_of_find? hfind with ⟨p, hp, hfaithful, hresume⟩
    rw [hresume]
    exact ⟨p, hp, p.observe_resume hfaithful⟩
  · rcases s.alike_after others id t hfind hmoves with ⟨t', hfind', halike⟩
    exact ⟨t', hfind', t.observe_of_alike t' halike⟩
  · intro first second
    have hbefore : (s.after before).bodies.find? name = some body := by
      rw [s.bodies_after before name fun x hx => hedits x (List.mem_append_left _ hx)]
      exact hbody
    -- Iterating and draining are no edits either.
    have hfirst : first.session.bodies.find? name = some body := by
      rw [(shelved_step _ _).bodies name rfl, bodies_after _ _ name fun x hx => ?_]
      · exact hbefore
      · rw [List.mem_singleton.mp hx]
        rfl
    have hbetween : (first.session.after between).bodies.find? name = some body := by
      rw [bodies_after _ between name fun x hx => hedits x (List.mem_append_right _ hx)]
      exact hfirst
    have hreply := reply_drain (s.after before) id name body hbefore
    exact ⟨hreply, (reply_drain _ id' name body hbetween).trans hreply.symm⟩

/-- A traversal goes on as it was after its part is taken out and released, and
    a second attempt yields what the first one did. -/
theorem attempts_independent_released :
    let b : Boundary := ⟨"B", by decide⟩
    let s := ({ files := FileTree.initial } : Session).after
      [.beginBody "b" (.given "B"), .addNew "p" "b" (.custom ⟨"own", [[104], [105]], 2, false⟩),
       .iterate "i" "b", .next "i"]
    let retried := (s.after [.iterate "j" "b"]).step (.drain "j")
    (∃ t,
      (s.after [.removePart "b" "p", .releasePart "p", .closeTraversal "i"]).traversals.find? "i"
          = some t
        ∧ t.hasNext = true ∧ t.remaining = 11 ∧ t.next.1 = some [104])
    ∧ (((retried.session.after [.dropTraversal "i", .dropTraversal "j"]).after
        [.iterate "k" "b"]).step (.drain "k")).reply
      = .drained [b.first, [104], [105], b.last] false 0 := by
  intro b s retried
  have hall := traversals_independent FileTree.initial
    [.beginBody "b" (.given "B"), .addNew "p" "b" (.custom ⟨"own", [[104], [105]], 2, false⟩),
     .iterate "i" "b", .next "i"]
  rcases hall.2.2.1 "i" _ [.removePart "b" "p", .releasePart "p", .closeTraversal "i"] rfl
    (by decide) with ⟨t, hfind, hnext, hremaining, hpiece⟩
  rcases hall.2.2.2 "b" _ [] [.dropTraversal "i", .dropTraversal "j"] "j" "k" rfl (by decide) with
    ⟨hfirst, hsecond⟩
  exact ⟨⟨t, hfind, hnext, hremaining, hpiece⟩, hsecond.trans hfirst⟩

end Session

end FormData
