import FormData.Proofs.Accounts

/-!
# Releases Along a Run

How often a part is released, and what is reported about it.

A part may be in several bodies, twice in one, and in traversals of bodies it
has been taken out of since. All of them share it, and each traversal releases
it when it ends, once for every time it has it. So the number of releases of a
part is a sum over the past of the session, and no part of the session as it is
now says what the sum is. The chronicle does.

The accounts themselves are kept by lemmas that know nothing of sessions. What
is left is that a session never touches a part behind their back. `Held` says
so: whatever can be reached, in a body, under a name or in a traversal, is one
of the parts that were made, and these have the keys from zero on, each once. A
part that is about to be made has a key that no release can have named.

## Main definitions

* `Chronicle.releaseCount`: How often a part was released, by the chronicle.
* `Held`: Whatever can be reached was made.

## Theorems

* `Held.note`: A step reaches nothing but what was made.
* `Chronicle.accounts_note`: A step keeps the accounts.
* `Session.closed_suffix_after`: No run takes back what was closed.
* `Session.closeTraversal_find?`, `Session.dropTraversal_find?`: The end of a
  traversal that has a name is carried out.
* `Session.releases_accounted`: Releases and reports of ends, over a whole run.
-/

namespace FormData

namespace Chronicle

/-- How often a part was released: by name, and by every traversal that has
    ended as often as its body had the part when it was begun. -/
def releaseCount (c : Chronicle) (key : Nat) : Nat :=
  c.direct.count key + (c.passages.map fun p => p.releases key).sum

theorem passages_amend (c : Chronicle) (id : String) (f : Passage → Passage) (p : Passage)
    (hdistinct : c.live.Distinct) (h : c.live.find? id = some p) :
    ∃ rest, c.passages.Perm (p :: rest) ∧ (c.amend id f).passages.Perm (f p :: rest) := by
  refine ⟨(c.live.erase id).values ++ c.gone, ?_, ?_⟩
  · exact (c.live.values_perm id p hdistinct h).append_right c.gone
  · simp only [amend, h]
    exact List.Perm.refl _

/-- A request that gets nothing changes no passage. -/
theorem passages_silent (c : Chronicle) (id : String) (hdistinct : c.live.Distinct) :
    (c.amend id fun p => p.hear [] 0).passages.Perm c.passages := by
  rcases hfind : c.live.find? id with _ | p
  · rw [c.amend_of_free id _ hfind]
  · rcases c.passages_amend id (fun p => p.hear [] 0) p hdistinct hfind with ⟨rest, hbefore, hafter⟩
    rw [Passage.hear_nil] at hafter
    exact hafter.trans hbefore.symm

theorem passages_leave (c : Chronicle) (id : String) (p : Passage)
    (hdistinct : c.live.Distinct) (h : c.live.find? id = some p) :
    ∃ rest, c.passages.Perm (p :: rest) ∧ (c.leave id).passages.Perm (p.finish :: rest) := by
  refine ⟨(c.live.erase id).values ++ c.gone, ?_, ?_⟩
  · exact (c.live.values_perm id p hdistinct h).append_right c.gone
  · simp only [leave, h]
    exact List.perm_middle

theorem passages_enter (c : Chronicle) (id : String) (origin : Body)
    (h : c.live.find? id = none) :
    (c.enter id origin).passages = { origin } :: c.passages := by
  have herase := c.live.erase_of_find?_eq_none id h
  simp only [passages, enter, Table.values, Table.set, herase, List.map_cons, List.cons_append]

/-- Amending touches only what is under the name. -/
theorem amend_eq (c : Chronicle) (id : String) (f : Passage → Passage) :
    c.amend id f = { c with live := (c.amend id f).live } := by
  unfold amend
  split <;> rfl

/-- Leaving touches only the passages. -/
theorem leave_eq (c : Chronicle) (id : String) :
    c.leave id = { c with live := (c.leave id).live, gone := (c.leave id).gone } := by
  unfold leave
  split <;> rfl

@[simp] theorem made_amend (c : Chronicle) (id : String) (f : Passage → Passage) :
    (c.amend id f).made = c.made := by
  rw [amend_eq]

@[simp] theorem direct_amend (c : Chronicle) (id : String) (f : Passage → Passage) :
    (c.amend id f).direct = c.direct := by
  rw [amend_eq]

@[simp] theorem made_leave (c : Chronicle) (id : String) : (c.leave id).made = c.made := by
  rw [leave_eq]

@[simp] theorem direct_leave (c : Chronicle) (id : String) : (c.leave id).direct = c.direct := by
  rw [leave_eq]

theorem distinct_amend (c : Chronicle) (id : String) (f : Passage → Passage)
    (h : c.live.Distinct) : (c.amend id f).live.Distinct := by
  unfold amend
  split
  · exact h
  · exact Table.distinct_set _ _ _ h

theorem distinct_leave (c : Chronicle) (id : String) (h : c.live.Distinct) :
    (c.leave id).live.Distinct := by
  unfold leave
  split
  · exact h
  · exact Table.distinct_erase _ _ h

theorem distinct_record (c : Chronicle) (deed : Deed) (h : c.live.Distinct) :
    (c.record deed).live.Distinct := by
  cases deed with
  | nothing => exact h
  | made handle => exact h
  | released handle => exact h
  | begun id origin => exact Table.distinct_set _ _ _ (c.distinct_leave id h)
  | heard id pieces successes => exact c.distinct_amend id _ h
  | closed id => exact c.distinct_amend id _ h
  | dropped id => exact c.distinct_leave id h
  | wrote origin pieces successes => exact h

theorem made_record (c : Chronicle) (deed : Deed) :
    (c.record deed).made = c.made ++ deed.handles := by
  cases deed with
  | made handle => rfl
  | nothing => exact (List.append_nil _).symm
  | released handle => exact (List.append_nil _).symm
  | begun id origin => exact (c.made_leave id).trans (List.append_nil _).symm
  | heard id pieces successes => exact (c.made_amend id _).trans (List.append_nil _).symm
  | closed id => exact (c.made_amend id _).trans (List.append_nil _).symm
  | dropped id => exact (c.made_leave id).trans (List.append_nil _).symm
  | wrote origin pieces successes => exact (List.append_nil _).symm

theorem origin_amend (c : Chronicle) (id : String) (f : Passage → Passage) (p : Passage)
    (hf : ∀ q : Passage, (f q).origin = q.origin) (h : p ∈ (c.amend id f).passages) :
    ∃ q ∈ c.passages, p.origin = q.origin := by
  rcases c.mem_passages_amend id f p h with hp | ⟨q, hq, hpq⟩
  · exact ⟨p, hp, rfl⟩
  · exact ⟨q, c.mem_passages_of_find? id q hq, by rw [hpq, hf]⟩

theorem origin_leave (c : Chronicle) (id : String) (p : Passage)
    (h : p ∈ (c.leave id).passages) : ∃ q ∈ c.passages, p.origin = q.origin := by
  rcases c.mem_passages_leave id p h with hp | ⟨q, hq, hpq⟩
  · exact ⟨p, hp, rfl⟩
  · exact ⟨q, c.mem_passages_of_find? id q hq, by rw [hpq, Passage.finish]⟩

/-- A passage goes on from the body it began with, and a new one begins with a
    body that is kept. -/
theorem origin_note (c : Chronicle) (s : Session) (step : Step) (p : Passage)
    (h : p ∈ (c.note s step).passages) :
    (∃ q ∈ c.passages, p.origin = q.origin) ∨ ∃ name, s.bodies.find? name = some p.origin := by
  -- The log is no part of the passages.
  have hrecord : p ∈ (c.record (s.deed step)).passages := h
  have henter : ∀ id name body, s.bodies.find? name = some body →
      p ∈ ((c.leave id).enter id body).passages →
      (∃ q ∈ c.passages, p.origin = q.origin) ∨ ∃ name, s.bodies.find? name = some p.origin := by
    intro id name body hbody hp
    rcases (c.leave id).mem_passages_enter id body p hp with hp | hp
    · exact Or.inl (c.origin_leave id p hp)
    · exact Or.inr ⟨name, by rw [hp]; exact hbody⟩
  have hdone := s.done_step step
  generalize s.deed step = deed at hdone hrecord
  cases hdone with
  | nothing htraversals hledger hquiet hshelved => exact Or.inl ⟨p, hrecord, rfl⟩
  | made handle htraversals hledger hquiet hshelved => exact Or.inl ⟨p, hrecord, rfl⟩
  | released handle hheld hsession hevents => exact Or.inl ⟨p, hrecord, rfl⟩
  | begun id name body hmoves hbody hfree hsession hevents =>
      exact henter id name body hbody hrecord
  | replaced id name body old hmoves hbody hfind hsession hevents =>
      exact henter id name body hbody hrecord
  | heard id t count pieces successes hmoves hfind hpieces hsuccesses hsession hevents =>
      exact Or.inl (c.origin_amend id (fun q => q.hear pieces successes) p (fun _ => rfl) hrecord)
  | silent id hsession hevents =>
      exact Or.inl (c.origin_amend id (fun q => q.hear [] 0) p (fun _ => rfl) hrecord)
  | closed id t hfind hsession hevents =>
      exact Or.inl (c.origin_amend id Passage.finish p (fun _ => rfl) hrecord)
  | dropped id t hmoves hfind hsession hevents => exact Or.inl (c.origin_leave id p hrecord)
  | absent id deed hends hfree hsession hevents =>
      rcases deed.eq_of_ends? id hends with rfl | rfl
      · exact Or.inl (c.origin_amend id Passage.finish p (fun _ => rfl) hrecord)
      · exact Or.inl (c.origin_leave id p hrecord)
  | wrote name body pieces successes hbody hpieces hsuccesses hsession hevents =>
      rcases List.mem_append.mp hrecord with hp | hp
      · exact Or.inl ⟨p, List.mem_append_left _ hp, rfl⟩
      · rcases List.mem_cons.mp hp with hp | hp
        · exact Or.inr ⟨name, by rw [hp]; exact hbody⟩
        · exact Or.inl ⟨p, List.mem_append_right _ hp, rfl⟩

theorem direct_note (c : Chronicle) (s : Session) (step : Step) (key : Nat)
    (h : key ∈ (c.note s step).direct) :
    key ∈ c.direct ∨ ∃ handle, s.Holds handle ∧ handle.key = key := by
  have hrecord : key ∈ (c.record (s.deed step)).direct := h
  have hdone := s.done_step step
  generalize s.deed step = deed at hdone hrecord
  cases hdone with
  | released handle hheld hsession hevents =>
      rcases List.mem_cons.mp hrecord with hkey | hkey
      · exact Or.inr ⟨handle, hheld, hkey.symm⟩
      · exact Or.inl hkey
  | nothing htraversals hledger hquiet hshelved => exact Or.inl hrecord
  | made handle htraversals hledger hquiet hshelved => exact Or.inl hrecord
  | begun id name body hmoves hbody hfree hsession hevents =>
      exact Or.inl (c.direct_leave id ▸ hrecord)
  | replaced id name body old hmoves hbody hfind hsession hevents =>
      exact Or.inl (c.direct_leave id ▸ hrecord)
  | heard id t count pieces successes hmoves hfind hpieces hsuccesses hsession hevents =>
      exact Or.inl (c.direct_amend id _ ▸ hrecord)
  | silent id hsession hevents => exact Or.inl (c.direct_amend id _ ▸ hrecord)
  | closed id t hfind hsession hevents => exact Or.inl (c.direct_amend id _ ▸ hrecord)
  | dropped id t hmoves hfind hsession hevents => exact Or.inl (c.direct_leave id ▸ hrecord)
  | absent id deed hends hfree hsession hevents =>
      rcases deed.eq_of_ends? id hends with rfl | rfl
      · exact Or.inl (c.direct_amend id _ ▸ hrecord)
      · exact Or.inl (c.direct_leave id ▸ hrecord)
  | wrote name body pieces successes hbody hpieces hsuccesses hsession hevents =>
      exact Or.inl hrecord

end Chronicle

/-- Whatever can be reached in a session was made, and the parts that were made
    have the keys from zero on. -/
structure Held (s : Session) (c : Chronicle) : Prop where
  keys : c.made.map Handle.key = List.range s.nextKey
  held : ∀ handle, s.Holds handle → handle ∈ c.made
  origins : ∀ p ∈ c.passages, ∀ handle ∈ p.origin.parts, handle ∈ c.made
  direct : ∀ key ∈ c.direct, key < s.nextKey
  distinct : c.live.Distinct

namespace Held

variable {s : Session} {c : Chronicle}

theorem empty (files : FileTree) : Held { files } {} where
  keys := rfl
  held := by
    rintro handle (⟨name, body, hbody, -⟩ | ⟨name, shared, hshared, -⟩)
    · cases hbody
    · cases hshared
  origins := fun _ hp => nomatch hp
  direct := fun _ hkey => nomatch hkey
  distinct := Table.distinct_empty

theorem key_lt (h : Held s c) (handle : Handle) (hmade : handle ∈ c.made) :
    handle.key < s.nextKey := by
  rw [← List.mem_range, ← h.keys]
  exact List.mem_map_of_mem hmade

theorem keys_nodup (h : Held s c) : (c.made.map Handle.key).Nodup := by
  rw [h.keys]
  exact List.nodup_range

/-- A step reaches nothing but what was made. -/
theorem note (h : Held s c) (step : Step) : Held (s.step step).session (c.note s step) := by
  have hshelved := s.shelved_step step
  have hmade : (c.note s step).made = c.made ++ (s.deed step).handles := c.made_record _
  refine ⟨?_, fun handle hholds => ?_, fun p hp handle hmem => ?_, fun key hkey => ?_,
    c.distinct_record _ h.distinct⟩
  · -- The new keys go on where the others stop.
    rw [hmade, List.map_append, h.keys, hshelved.keys, hshelved.nextKey, List.range_add]
  · rw [hmade]
    rcases hshelved.held handle hholds with hheld | hfresh
    · exact List.mem_append_left _ (h.held handle hheld)
    · exact List.mem_append_right _ hfresh
  · rw [hmade]
    refine List.mem_append_left _ ?_
    rcases c.origin_note s step p hp with ⟨q, hq, horigin⟩ | ⟨name, hbody⟩
    · exact h.origins q hq handle (horigin ▸ hmem)
    · exact h.held handle (Or.inl ⟨name, p.origin, hbody, hmem⟩)
  · rw [hshelved.nextKey]
    rcases c.direct_note s step key hkey with hkey | ⟨handle, hheld, rfl⟩
    · have hlt := h.direct key hkey
      omega
    · have hlt := h.key_lt handle (h.held handle hheld)
      omega

/-- The next key has not been released. -/
theorem count_nextKey (h : Held s c)
    (haccounted : Accounted c.made c.direct c.passages c.log s.ledger) :
    s.ledger.count s.nextKey = 0 := by
  -- Neither a name nor a traversal can have led to a part with that key.
  have hdirect : c.direct.count s.nextKey = 0 := by
    refine List.count_eq_zero.mpr fun hmem => ?_
    exact absurd (h.direct _ hmem) (Nat.lt_irrefl _)
  have hpassages : (c.passages.map fun p => p.releases s.nextKey).sum = 0 := by
    refine List.sum_eq_zero fun n hn => ?_
    rcases List.mem_map.mp hn with ⟨p, hp, rfl⟩
    unfold Passage.releases
    rcases p.ending with _ | count
    · rfl
    · refine List.count_eq_zero.mpr fun hmem => ?_
      rcases List.mem_map.mp hmem with ⟨handle, hpart, hkey⟩
      have hlt := h.key_lt handle (h.origins p hp handle hpart)
      omega
  rw [haccounted.count, hdirect, hpassages]

end Held

namespace Chronicle

/-- A ledger agrees with what a chronicle has. -/
def Accounts (c : Chronicle) (ledger : Ledger) : Prop :=
  Accounted c.made c.direct c.passages c.log ledger

variable {s : Session} {c : Chronicle}

/-- A step keeps the accounts. Each deed is one entry in them, or two where a
    traversal takes the place of another or is over as soon as it begins. -/
theorem accounts_note (hfollowed : Followed s.traversals c) (hheld : Held s c)
    (h : c.Accounts s.ledger) (step : Step) :
    (c.note s step).Accounts (s.step step).session.ledger := by
  have hkeys := hheld.keys_nodup
  have hfresh := hheld.count_nextKey h
  have horigin : ∀ id p, c.live.find? id = some p → ∀ x ∈ p.origin.parts, x ∈ c.made :=
    fun id p hp => hheld.origins p (c.mem_passages_of_find? id p hp)
  have hshelved := s.shelved_step step
  have hdone := s.done_step step
  -- The log is written apart from the rest.
  suffices hrecord : Accounted (c.record (s.deed step)).made (c.record (s.deed step)).direct
      (c.record (s.deed step)).passages (c.log ++ (s.step step).events)
      (s.step step).session.ledger from hrecord
  generalize s.deed step = deed at hdone hshelved ⊢
  cases hdone with
  | nothing htraversals hledger hquiet _ =>
      rw [hledger]
      exact h.quiet _ hquiet
  | made handle htraversals hledger hquiet _ =>
      have hkey : handle.key = s.nextKey := (List.cons.inj hshelved.keys).1
      rw [hledger]
      exact (h.make handle (by rw [hkey]; exact hfresh)).quiet _ hquiet
  | released handle hholds hsession hevents =>
      rw [hsession, hevents]
      exact h.release handle hkeys (hheld.held handle hholds)
  | begun id name body hmoves hbody hfree hsession hevents =>
      -- The name is free in the chronicle too, so there is nothing to leave.
      have hlive := hfollowed.free hfree
      rw [hsession, hevents, List.append_nil]
      simp only [record, c.leave_of_free id hlive, c.passages_enter id body hlive]
      exact h.begin body
  | replaced id name body old hmoves hbody hfind hsession hevents =>
      -- The old passage is finished first, and then the new one begins.
      rcases hfollowed.passage_of_find? hfind with ⟨p, hp, -, hold⟩
      rcases c.passages_leave id p hheld.distinct hp with ⟨rest, hbefore, hafter⟩
      have hended := ((h.perm _ hbefore).finish hkeys (horigin id p hp)).perm _ hafter.symm
      rw [hsession, hevents, hold]
      simp only [record, (c.leave id).passages_enter id body (c.find?_leave_self id)]
      rw [← c.made_leave id, ← c.direct_leave id] at hended
      exact hended.begin body
  | heard id t count pieces successes hmoves hfind hpieces hsuccesses hsession hevents =>
      -- Pieces are handed out, and no count depends on them.
      rcases hfollowed.passage_of_find? hfind with ⟨p, hp, -, -⟩
      rcases c.passages_amend id (fun q => q.hear pieces successes) p hheld.distinct hp with
        ⟨rest, hbefore, hafter⟩
      rw [hsession, hevents, List.append_nil]
      simp only [record, made_amend, direct_amend]
      exact ((h.perm _ hbefore).hear pieces successes).perm _ hafter.symm
  | silent id hsession hevents =>
      rw [hsession, hevents, List.append_nil]
      simp only [record, made_amend, direct_amend]
      exact h.perm _ (c.passages_silent id hheld.distinct).symm
  | closed id t hfind hsession hevents =>
      rcases hfollowed.passage_of_find? hfind with ⟨p, hp, -, ht⟩
      -- The one passage under the name is finished, and the others stay.
      rcases c.passages_amend id Passage.finish p hheld.distinct hp with ⟨rest, hbefore, hafter⟩
      rw [hsession, hevents, ht]
      simp only [record, made_amend, direct_amend]
      exact ((h.perm _ hbefore).finish hkeys (horigin id p hp)).perm _ hafter.symm
  | dropped id t hmoves hfind hsession hevents =>
      rcases hfollowed.passage_of_find? hfind with ⟨p, hp, -, ht⟩
      rcases c.passages_leave id p hheld.distinct hp with ⟨rest, hbefore, hafter⟩
      rw [hsession, hevents, ht]
      simp only [record, made_leave, direct_leave]
      exact ((h.perm _ hbefore).finish hkeys (horigin id p hp)).perm _ hafter.symm
  | absent id deed hends hfree hsession hevents =>
      -- What is not there in the session is not there in the chronicle.
      rw [hsession, hevents, List.append_nil, c.record_of_free deed id hends (hfollowed.free hfree)]
      exact h
  | wrote name body pieces successes hbody hpieces hsuccesses hsession hevents =>
      -- The traversal that was drained is the one its passage would resume.
      have hresume := (Passage.resume_hear { origin := body } (Traversal.pieceCount body.parts)
        (Passage.faithful_fresh body)).1
      have hdrain : (({ origin := body } : Passage).hear pieces successes).resume
          = body.iterate.drain.2 := by
        rw [hsuccesses, hpieces]
        exact hresume
      have hended := ((h.begin body).hear pieces successes).finish hkeys
        fun x hx => hheld.held x (Or.inl ⟨name, body, hbody, hx⟩)
      rw [hdrain] at hended
      rw [hsession, hevents]
      exact hended.perm _ List.perm_middle.symm

end Chronicle

namespace Session

/-- No step takes back what was closed. -/
theorem closed_suffix_step (s : Session) (step : Step) :
    s.ledger.closed <:+ (s.step step).session.ledger.closed := by
  have hdone := s.done_step step
  generalize s.deed step = deed at hdone
  cases hdone with
  | nothing htraversals hledger hquiet hshelved => rw [hledger]
  | made handle htraversals hledger hquiet hshelved => rw [hledger]
  | released handle hheld hsession hevents =>
      rw [hsession]
      exact s.ledger.closed_suffix_release handle
  | begun id name body hmoves hbody hfree hsession hevents =>
      rw [hsession]
      exact List.suffix_refl _
  | replaced id name body old hmoves hbody hfind hsession hevents =>
      rw [hsession]
      exact old.closed_suffix_close s.ledger
  | heard id t count pieces successes hmoves hfind hpieces hsuccesses hsession hevents =>
      rw [hsession]
      exact List.suffix_refl _
  | silent id hsession hevents => rw [hsession]
  | closed id t hfind hsession hevents =>
      rw [hsession]
      exact t.closed_suffix_close s.ledger
  | dropped id t hmoves hfind hsession hevents =>
      rw [hsession]
      exact t.closed_suffix_close s.ledger
  | absent id deed hends hfree hsession hevents => rw [hsession]
  | wrote name body pieces successes hbody hpieces hsuccesses hsession hevents =>
      rw [hsession]
      exact Traversal.closed_suffix_close _ s.ledger

theorem closed_suffix_after (s : Session) (steps : List Step) :
    s.ledger.closed <:+ (s.after steps).ledger.closed := by
  induction steps generalizing s with
  | nil => exact List.suffix_refl _
  | cons step rest ih => exact (s.closed_suffix_step step).trans (ih _)

/-- A traversal that has a name can be closed, and then it has released what it
    has. -/
theorem closeTraversal_find? (s : Session) (id : String) (t : Traversal)
    (h : s.traversals.find? id = some t) :
    let s' := (s.step (.closeTraversal id)).session
    s'.traversals.find? id = some { t with closed := true }
      ∧ s'.ledger = (t.close s.ledger).result.2 := by
  intro s'
  simp only [s', step, closeTraversal, withTraversal, h, t.close_fst]
  exact ⟨Table.find?_set_self _ _ _, trivial⟩

/-- A traversal that has a name can be let go of, and has then released what it
    has. -/
theorem dropTraversal_find? (s : Session) (id : String) (t : Traversal)
    (h : s.traversals.find? id = some t) :
    let s' := (s.step (.dropTraversal id)).session
    s'.traversals.find? id = none ∧ s'.ledger = (t.close s.ledger).result.2 := by
  intro s'
  simp only [s', step, dropTraversal, withTraversal, h]
  exact ⟨Table.find?_erase_self _ _, rfl⟩

/-- Releases and reports of ends, over a whole run:

    - The traversals that have a name are those of the chronicle, and are closed
      when the chronicle has an end of them.
    - Parts have keys of their own, and a part has been released as often as it
      was released by name, and by each traversal that ended as often as that
      one's body had the part when it was begun.
    - A file says that it is released if it was released at least once, and it
      keeps saying so. Its cell holds the file until then and is empty from then
      on, and its handle was closed once then and not otherwise.
    - Each file that was released is reported once, and no other file is.
    - Each traversal that ended is reported once, and no other traversal is.
    - To close a traversal, to let go of it and to release a part by name is
      carried out for every name that leads somewhere. A traversal that is closed
      already releases nothing more.
    - Letting go of a part reports nothing and releases nothing. -/
theorem releases_accounted (files : FileTree) (steps : List Step) :
    let start : Session := { files }
    let s := start.after steps
    let c := Chronicle.ofRun files steps
    c.log = (start.run steps).flatMap Outcome.events
    ∧ (∀ id, s.traversals.find? id = (c.live.find? id).map Passage.resume)
    ∧ (c.made.map Handle.key).Nodup
    ∧ (∀ key, s.ledger.count key = c.releaseCount key)
    ∧ (∀ handle file, handle ∈ c.made → handle.part = .file file →
        PartView.releasedOf s.ledger handle = some (decide (1 ≤ c.releaseCount handle.key))
        ∧ s.ledger.cell? handle = (if 1 ≤ c.releaseCount handle.key then none else some file)
        ∧ s.ledger.closures handle.key = (if 1 ≤ c.releaseCount handle.key then 1 else 0)
        ∧ ∀ others, PartView.releasedOf s.ledger handle = some true →
            PartView.releasedOf (s.after others).ledger handle = some true)
    ∧ (∀ name path, c.log.count (.releasedFile name path)
        = c.made.countP fun h =>
            h.releasing? == some (.releasedFile name path)
              && decide (1 ≤ c.releaseCount h.key))
    ∧ (∀ parts remaining, c.log.count (.closedTraversal parts remaining)
        = (c.passages.filterMap Passage.closing?).count (.closedTraversal parts remaining))
    ∧ (∀ id t, s.traversals.find? id = some t →
        let closing := (s.step (.closeTraversal id)).session
        let dropping := (s.step (.dropTraversal id)).session
        closing.traversals.find? id = some { t with closed := true }
        ∧ dropping.traversals.find? id = none
        ∧ ∀ key,
            let owed := if t.closed then 0 else (t.parts.map Handle.key).count key
            closing.ledger.count key = s.ledger.count key + owed
            ∧ dropping.ledger.count key = s.ledger.count key + owed)
    ∧ (∀ part shared, s.parts.find? part = some shared → ∀ key,
        (s.step (.releasePart part)).session.ledger.count key
          = s.ledger.count key + (if shared.handle.key = key then 1 else 0))
    ∧ (∀ part, (s.step (.dropPart part)).events = []
        ∧ (s.step (.dropPart part)).session.ledger = s.ledger) := by
  intro start s c
  -- The three have to be kept together: the accounts of a step need that its
  -- traversals are followed and that its parts were made.
  have hrun : Followed s.traversals c ∧ Held s c ∧ c.Accounts s.ledger :=
    Chronicle.follow_induction
      (fun s c => Followed s.traversals c ∧ Held s c ∧ c.Accounts s.ledger)
      (fun s c step h =>
        ⟨h.1.note step, h.2.1.note step, c.accounts_note h.1 h.2.1 h.2.2 step⟩)
      start {} steps ⟨Followed.ofRun files [], Held.empty files, Accounted.empty⟩
  rcases hrun with ⟨hfollowed, hheld, haccounts⟩
  have hcount : ∀ key, s.ledger.count key = c.releaseCount key := haccounts.count
  have hreleased : ∀ handle file, handle ∈ c.made → handle.part.file? = some file →
      s.ledger.isReleased handle = decide (1 ≤ c.releaseCount handle.key) := by
    intro handle file hmade hfile
    rw [(haccounts.cells handle hmade).isReleased (Option.isSome_of_eq_some hfile), hcount]
  refine ⟨Chronicle.log_follow {} start steps, hfollowed.named, hheld.keys_nodup, hcount,
    fun handle file hmade hpart => ?_, fun name path => ?_, haccounts.closings,
    fun id t hfind => ?_, fun part shared hpart key => ?_, fun part => ?_⟩
  · have hfile : handle.part.file? = some file := by rw [hpart, Part.file?]
    refine ⟨?_, ?_, ?_, fun others => ?_⟩
    · rw [PartView.releasedOf, hfile, Option.map_some, hreleased handle file hmade hfile]
    · rw [Ledger.cell?_eq, hreleased handle file hmade hfile, hfile]
      simp only [decide_eq_true_eq]
    · rw [haccounts.cells handle hmade, hfile, hcount]
      simp only [Option.isSome_some, true_and]
    · simp only [PartView.releasedOf, hfile, Option.map_some, Option.some.injEq]
      exact Ledger.isReleased_of_suffix _ _ handle (s.closed_suffix_after others)
  · rw [haccounts.files name path]
    refine List.countP_congr fun h hmade => ?_
    rcases hfile : h.part.file? with _ | file
    · -- A part that is no file is not reported on either side.
      rw [Handle.releasing?, hfile]
      exact Iff.rfl
    · rw [hreleased h file hmade hfile]
  · have hclosed := s.closeTraversal_find? id t hfind
    have hdropped := s.dropTraversal_find? id t hfind
    refine ⟨hclosed.1, hdropped.1, fun key => ⟨?_, ?_⟩⟩
    · rw [hclosed.2, t.count_close]
    · rw [hdropped.2, t.count_close]
  · simp only [step, releasePart, withPart, hpart]
    exact s.ledger.count_release shared.handle key
  · simp only [step, withPart]
    rcases s.parts.find? part with _ | shared
    · exact ⟨rfl, rfl⟩
    · exact ⟨rfl, rfl⟩

/-- A body has a file twice, and its traversal is closed, closed again and let
    go of. With one release by name these are three, of which the first one is
    reported, and the end of the traversal is reported once. Another traversal,
    which nobody has closed yet, still has two to add. -/
theorem releases_accounted_twice :
    let files : FileTree :=
      ⟨[(FileTree.workingDirectory, .directory),
        (FileTree.workingDirectory ++ [[102]], .file [])]⟩
    let steps : List Step :=
      [.beginBody "b" (.given "B"), .addNew "p" "b" (.file "a" [102] []), .addShared "b" "p",
       .iterate "i" "b", .next "i", .closeTraversal "i", .closeTraversal "i",
       .dropTraversal "i", .releasePart "p", .iterate "j" "b"]
    let header := ({ name := "a", path := [102] } : FileRequest).header
    let handle : Handle := ⟨0, .file (FilePart.ofPieces "a" [102] header [])⟩
    let start : Session := { files }
    (start.after steps).ledger.count 0 = 3
    ∧ (start.after steps).ledger.closures 0 = 1
    ∧ PartView.releasedOf (start.after steps).ledger handle = some true
    ∧ PartView.releasedOf ((start.after steps).after [.dropPart "p"]).ledger handle = some true
    ∧ ((start.run steps).flatMap Outcome.events).count (.releasedFile "a" [102]) = 1
    ∧ ((start.run steps).flatMap Outcome.events).countP Event.isEnding = 2
    ∧ ((start.after steps).step (.closeTraversal "j")).session.ledger.count 0 = 5 := by
  intro files steps header handle start
  rcases releases_accounted files steps with
    ⟨hlog, -, -, hcount, hfile, hfiles, -, hcarried, -, -⟩
  have hmade : handle ∈ (Chronicle.ofRun files steps).made := by decide +kernel +zetaReduce
  have hthree : (Chronicle.ofRun files steps).releaseCount 0 = 3 := by decide +kernel +zetaReduce
  rcases hfile handle _ hmade rfl with ⟨hshown, -, hclosed, hkeeps⟩
  have hreleased : PartView.releasedOf (start.after steps).ledger handle = some true := by
    rw [hshown, hthree]
    rfl
  refine ⟨(hcount 0).trans hthree, ?_, hreleased, hkeeps _ hreleased, ?_, ?_, ?_⟩
  · have hkey : handle.key = 0 := rfl
    rw [hkey, hthree, if_pos (by decide)] at hclosed
    exact hclosed
  · rw [← hlog, hfiles]
    decide +kernel +zetaReduce
  · decide +kernel +zetaReduce
  · -- The second traversal is not closed, and has the file twice.
    have hlive : ((start.after steps).traversals.find? "j").map (fun t => (t.closed, t.parts.map Handle.key))
        = some (false, [0, 0]) := by
      decide +kernel +zetaReduce
    rcases Option.map_eq_some_iff.mp hlive with ⟨t, hfind, ht⟩
    rw [Prod.mk.injEq] at ht
    rw [((hcarried "j" t hfind).2.2 0).1, hcount 0, hthree, ht.1, ht.2]
    rfl

end Session

end FormData
