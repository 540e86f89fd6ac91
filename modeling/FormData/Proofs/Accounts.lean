import FormData.Proofs.Chronicle
import Mathlib.Algebra.BigOperators.Group.List.Basic
import Mathlib.Algebra.Order.Ring.Int
import Mathlib.Data.List.Infix
import Mathlib.Data.List.Nodup

/-!
# Release Accounts

How releases add up.

Four records are kept of releases, and none of them says what the others do. The
ledger has the releases that were asked for, from which one can count, and apart
from these the handles that were taken out of their cells and closed. The log has
an event for every file whose handle was closed and one for every traversal that
was. The chronicle has the traversals that ended and the releases that were asked
for by name. `Accounted` says that the four agree, part by part and event by
event.

That the cell of a file is empty once the file was asked to be released, and that
its handle was closed once then and not again, is part of the agreement
(`Ledger.Settled`). It holds of a file that was just opened, and a release of any
part that was made keeps it.

The agreement is kept by each of the few things that can happen to the records
(`Accounted.finish`, `Accounted.release` and so on), and what a step does is a
sequence of these. None of them mentions a session. Only two facts about
sessions are needed here: that parts which are different have different keys,
and that nothing is released but parts that were made.

A file reports its release only the first time, so its events cannot be added
up release by release. What is kept is a count over all parts that were made:
releasing a file that was not released before moves one part from one side to
the other and reports it, and releasing it again does neither
(`Ledger.count_release_events`).

## Main definitions

* `Handle.releasing?`: What the first release of a part is reported as.
* `Ledger.Settled`: What was closed of a part agrees with what was asked for.
* `Passage.releases`: How often a traversal has released a part.
* `Passage.closing?`: What the end of a traversal is reported as.
* `Accounted`: Ledger, log and chronicle agree.

## Theorems

* `Ledger.Settled.isReleased`: The cell of a file is empty when the file has
  been released.
* `Ledger.settled_release`: A release keeps every part settled.
* `Ledger.count_release_events`: A release reports what it changes.
* `Ledger.count_releaseAll_events`: So do releases in order.
* `Ledger.isReleased_of_suffix`: A cell that is empty stays empty.
* `Traversal.count_close`: What closing a traversal releases.
* `Accounted.finish`: Closing a traversal keeps the agreement, the first time
  and every other time.
-/

namespace FormData

/-- What the first release of a part is reported as, if it is a file. -/
def Handle.releasing? (handle : Handle) : Option Event :=
  handle.part.file?.map fun file => .releasedFile file.name file.path

namespace Ledger

/-- What was closed of a part agrees with what was asked for: the handle of a
    file was closed once if the file was released, and no other part had one. -/
def Settled (ledger : Ledger) (handle : Handle) : Prop :=
  ledger.closures handle.key
    = if handle.part.file?.isSome ∧ 1 ≤ ledger.count handle.key then 1 else 0

/-- Nothing is closed that was not asked to be released. -/
def Asked (ledger : Ledger) : Prop :=
  ∀ key, ledger.closures key ≤ ledger.count key

/-- A cell is full when it is that of a file whose handle was not closed. -/
theorem isReleased_eq_false_iff (ledger : Ledger) (handle : Handle) :
    ledger.isReleased handle = false
      ↔ handle.part.file?.isSome ∧ ledger.closures handle.key = 0 := by
  rw [isReleased_eq, Bool.or_eq_false_iff, List.contains_eq_mem, decide_eq_false_iff_not,
    closures, List.count_eq_zero, Option.isNone_eq_false_iff, and_comm]

/-- The cell of a file is empty when the file has been released. -/
theorem Settled.isReleased {ledger : Ledger} {handle : Handle} (h : ledger.Settled handle)
    (hfile : handle.part.file?.isSome) :
    ledger.isReleased handle = decide (1 ≤ ledger.count handle.key) := by
  unfold Settled at h
  rw [← Bool.not_inj_iff, ← decide_not, Bool.eq_iff_iff, Bool.not_eq_true',
    isReleased_eq_false_iff, decide_eq_true_iff, h]
  by_cases hcount : 1 ≤ ledger.count handle.key
  · simp only [hfile, hcount, and_self, if_true, Nat.one_ne_zero, and_false, not_true]
  · simp only [hfile, hcount, and_false, if_false, and_self, not_false_eq_true]

/-- A release closes one handle if the cell is full, and none otherwise. -/
theorem closures_release (ledger : Ledger) (handle : Handle) (key : Nat) :
    (ledger.release handle).result.closures key
      = ledger.closures key
        + (if handle.key = key ∧ ledger.isReleased handle = false then 1 else 0) := by
  rw [closures, closed_release, closures]
  rcases ledger.isReleased handle with _ | _
  · simp only [Bool.false_eq_true, if_false, List.count_cons, beq_iff_eq, and_true]
  · simp only [if_true, Bool.true_eq_false, and_false, if_false, Nat.add_zero]

theorem asked_release (ledger : Ledger) (handle : Handle) (h : ledger.Asked) :
    (ledger.release handle).result.Asked := by
  intro key
  have hkey := h key
  rw [closures_release, count_release]
  split <;> split <;> omega

/-- A release keeps every part settled, the one that is released and those that
    have other keys. -/
theorem settled_release (ledger : Ledger) (handle other : Handle)
    (hkey : handle.key = other.key → handle = other) (h : ledger.Settled other) :
    (ledger.release handle).result.Settled other := by
  unfold Settled at h ⊢
  rw [closures_release, count_release]
  by_cases heq : handle.key = other.key
  · -- The cell is full when it is a file that nobody has released.
    simp only [hkey heq, true_and, if_true, isReleased_eq_false_iff, h]
    by_cases hfile : other.part.file?.isSome
    · by_cases hcount : 1 ≤ ledger.count other.key
      · simp only [hfile, hcount, and_self, if_true, Nat.one_ne_zero, and_false, if_false,
          Nat.le_add_left]
      · simp only [hfile, hcount, and_false, if_false, and_self, if_true, Nat.le_add_left]
    · simp only [hfile, false_and, if_false, Bool.false_eq_true]
  · rw [if_neg heq, if_neg fun hc => heq hc.1, Nat.add_zero, Nat.add_zero, h]

theorem events_release_eq (ledger : Ledger) (handle : Handle) :
    (ledger.release handle).events
      = if ledger.isReleased handle then [] else handle.releasing?.toList := by
  rw [events_release, isReleased, cell?, Handle.releasing?]
  split
  · rfl
  · rcases handle.part.file? with _ | file <;> rfl

/-- What holds of a ledger and is kept by each of some releases is kept by all of
    them, in order. -/
theorem releaseAll_induction (P : Ledger → Prop) (handles : List Handle) (ledger : Ledger)
    (hstep : ∀ l, ∀ handle ∈ handles, P l → P (l.release handle).result) (h : P ledger) :
    P (ledger.releaseAll handles).result := by
  induction handles generalizing ledger with
  | nil => exact h
  | cons handle rest ih =>
      exact ih _ (fun l other hmem => hstep l other (List.mem_cons_of_mem _ hmem))
        (hstep _ _ List.mem_cons_self h)

/-- Releases report nothing but files that are released. -/
theorem releasedFile_of_mem_releaseAll (ledger : Ledger) (handles : List Handle) (e : Event)
    (h : e ∈ (ledger.releaseAll handles).events) : ∃ name path, e = .releasedFile name path := by
  induction handles generalizing ledger with
  | nil => cases h
  | cons handle rest ih =>
      rcases List.mem_append.mp h with h | h
      · -- Of the first part there is one event at most.
        rw [events_release_eq] at h
        split at h
        · cases h
        · unfold Handle.releasing? at h
          rcases Option.map_eq_some_iff.mp (Option.mem_toList.mp h) with ⟨file, -, hfile⟩
          exact ⟨file.name, file.path, hfile.symm⟩
      · exact ih _ h

/-- The end of a traversal is nothing that a release reports. -/
theorem count_closedTraversal_releaseAll (ledger : Ledger) (handles : List Handle)
    (parts remaining : Nat) :
    (ledger.releaseAll handles).events.count (.closedTraversal parts remaining) = 0 := by
  refine List.count_eq_zero.mpr fun hmem => ?_
  rcases ledger.releasedFile_of_mem_releaseAll handles _ hmem with ⟨name, path, heq⟩
  cases heq

/-- A release reports what it changes. Among parts with different keys, the
    files that are reported and those that were released before make up those
    that are released afterwards. -/
theorem count_release_events (ledger : Ledger) (made : List Handle) (handle : Handle) (e : Event)
    (hkeys : (made.map Handle.key).Nodup) (hmade : handle ∈ made) :
    (ledger.release handle).events.count e
        + made.countP (fun h => h.releasing? == some e && ledger.isReleased h)
      = made.countP (fun h =>
          h.releasing? == some e && (ledger.release handle).result.isReleased h) := by
  -- The order does not matter to a count, so the part is moved to the front.
  rcases List.append_of_mem hmade with ⟨before, after, hsplit⟩
  have hperm : made.Perm (handle :: (before ++ after)) := by
    rw [hsplit]
    exact List.perm_middle
  have hnot := List.nodup_cons.mp ((hperm.map Handle.key).nodup_iff.mp hkeys)
  -- No part but the one that is released has its key, so all others stay.
  have hother : (before ++ after).countP (fun h =>
        h.releasing? == some e && (ledger.release handle).result.isReleased h)
      = (before ++ after).countP (fun h =>
        h.releasing? == some e && ledger.isReleased h) := by
    refine List.countP_congr fun h hmem => ?_
    have hne : h.key ≠ handle.key := by
      intro heq
      exact hnot.1 (List.mem_map.mpr ⟨h, hmem, heq⟩)
    rw [isReleased_release_of_ne _ _ _ hne]
  rw [hperm.countP_eq, hperm.countP_eq, List.countP_cons, List.countP_cons, hother,
    isReleased_release_self, events_release_eq]
  by_cases hreleased : ledger.isReleased handle = true
  · -- Nothing is reported, and the part counted before.
    rw [if_pos hreleased, hreleased, List.count_nil]
    omega
  · -- The part did not count before. If it is the file in question it counts
    -- now, and that is the one event.
    rw [Bool.not_eq_true] at hreleased
    rw [hreleased, if_neg Bool.false_ne_true]
    rcases handle.releasing? with _ | reported
    · have hne : ((none : Option Event) == some e) = false := rfl
      simp only [hne, Option.toList_none, List.count_nil, Bool.false_and, Bool.false_eq_true,
        if_false, Nat.zero_add]
    · rw [Option.toList_some, List.count_singleton]
      by_cases heq : reported = e
      · rw [heq]
        simp only [beq_self_eq_true, if_true, Bool.and_true, Bool.and_false, Bool.false_eq_true,
          if_false]
        omega
      · have hne : (some reported == some e) = false :=
          beq_false_of_ne fun h => heq (Option.some.inj h)
        simp only [beq_false_of_ne heq, hne, Bool.false_and, Bool.false_eq_true, if_false,
          Nat.zero_add]

theorem count_releaseAll_events (ledger : Ledger) (made handles : List Handle) (e : Event)
    (hkeys : (made.map Handle.key).Nodup) (hmade : ∀ h ∈ handles, h ∈ made) :
    (ledger.releaseAll handles).events.count e
        + made.countP (fun h => h.releasing? == some e && ledger.isReleased h)
      = made.countP (fun h =>
          h.releasing? == some e && (ledger.releaseAll handles).result.isReleased h) := by
  induction handles generalizing ledger with
  | nil => rw [releaseAll, List.count_nil, Nat.zero_add]
  | cons handle rest ih =>
      have hhead := ledger.count_release_events made handle e hkeys (hmade _ List.mem_cons_self)
      have hrest := ih (ledger.release handle).result
        fun h hmem => hmade h (List.mem_cons_of_mem _ hmem)
      simp only [releaseAll, List.count_append]
      omega

/-- A release takes back nothing that was closed. -/
theorem closed_suffix_release (ledger : Ledger) (handle : Handle) :
    ledger.closed <:+ (ledger.release handle).result.closed := by
  rw [closed_release]
  split
  · exact List.suffix_refl _
  · exact List.suffix_cons _ _

theorem closed_suffix_releaseAll (ledger : Ledger) (handles : List Handle) :
    ledger.closed <:+ (ledger.releaseAll handles).result.closed :=
  releaseAll_induction (fun l => ledger.closed <:+ l.closed) handles ledger
    (fun l handle _ h => h.trans (l.closed_suffix_release handle)) (List.suffix_refl _)

/-- A cell that is empty stays empty if nothing that was closed is taken back. -/
theorem isReleased_of_suffix (ledger ledger' : Ledger) (handle : Handle)
    (hsuffix : ledger.closed <:+ ledger'.closed) (h : ledger.isReleased handle = true) :
    ledger'.isReleased handle = true := by
  rw [isReleased_eq, Bool.or_eq_true, List.contains_iff_mem] at h ⊢
  exact h.imp (fun hmem => hsuffix.subset hmem) id

end Ledger

namespace Traversal

theorem closed_suffix_close (t : Traversal) (ledger : Ledger) :
    ledger.closed <:+ (t.close ledger).result.2.closed := by
  rcases hclosed : t.closed with _ | _
  · rw [(t.close_open ledger hclosed).1]
    exact ledger.closed_suffix_releaseAll t.parts
  · rw [t.close_closed ledger hclosed]

/-- Closing a traversal that is not closed releases each part as often as the
    traversal has it. -/
theorem count_close (t : Traversal) (ledger : Ledger) (key : Nat) :
    (t.close ledger).result.2.count key
      = ledger.count key + (if t.closed then 0 else (t.parts.map Handle.key).count key) := by
  rcases hclosed : t.closed with _ | _
  · rw [(t.close_open ledger hclosed).1, Ledger.count_releaseAll, if_neg Bool.false_ne_true]
  · rw [t.close_closed ledger hclosed, if_pos rfl, Nat.add_zero]

end Traversal

namespace Passage

/-- How often a traversal has released a part: as often as its body had the
    part when it was begun, once it has ended. -/
def releases (p : Passage) (key : Nat) : Nat :=
  match p.ending with
  | none => 0
  | some _ => (p.origin.parts.map Handle.key).count key

/-- What the end of a traversal is reported as, once it has ended: how many
    parts its body had, and what was left to yield when it ended. -/
def closing? (p : Passage) : Option Event :=
  p.ending.map fun count =>
    .closedTraversal p.origin.parts.length (p.origin.iterate.take count).2.remaining

end Passage

/-- A ledger and a log agree with what has been written down about the parts
    that were made, the releases by name and the traversals. -/
structure Accounted (made : List Handle) (direct : List Nat) (passages : List Passage)
    (log : List Event) (ledger : Ledger) : Prop where
  /-- A part is released by name, and by each traversal that ended as often as
      that one had it. -/
  count : ∀ key, ledger.count key = direct.count key + (passages.map fun p => p.releases key).sum
  /-- The handle of a file was closed once if the file was released. -/
  cells : ∀ handle ∈ made, ledger.Settled handle
  asked : ledger.Asked
  /-- Each file that was released is reported once. -/
  files : ∀ name path, log.count (.releasedFile name path)
    = made.countP fun h =>
        h.releasing? == some (.releasedFile name path) && ledger.isReleased h
  /-- Each traversal that ended is reported once. -/
  closings : ∀ parts remaining, log.count (.closedTraversal parts remaining)
    = (passages.filterMap Passage.closing?).count (.closedTraversal parts remaining)

namespace Accounted

variable {made : List Handle} {direct : List Nat} {passages : List Passage} {log : List Event}
  {ledger : Ledger}

theorem empty : Accounted [] [] [] [] Ledger.empty :=
  ⟨fun _ => rfl, List.forall_mem_nil _, fun _ => Nat.le_refl _, fun _ _ => rfl, fun _ _ => rfl⟩

theorem perm (h : Accounted made direct passages log ledger) (passages' : List Passage)
    (hperm : passages.Perm passages') : Accounted made direct passages' log ledger where
  count := by
    intro key
    rw [h.count key, (hperm.map fun p => p.releases key).sum_eq]
  cells := h.cells
  asked := h.asked
  files := h.files
  closings := by
    intro parts remaining
    rw [h.closings parts remaining, (hperm.filterMap Passage.closing?).count_eq]

/-- Other events make no difference. -/
theorem quiet (h : Accounted made direct passages log ledger) (events : List Event)
    (hquiet : ∀ e ∈ events, e.isEnding = false) :
    Accounted made direct passages (log ++ events) ledger := by
  have hnone : ∀ e : Event, e.isEnding = true → events.count e = 0 := by
    intro e he
    refine List.count_eq_zero.mpr fun hmem => ?_
    rw [hquiet e hmem] at he
    cases he
  refine ⟨h.count, h.cells, h.asked, fun name path => ?_, fun parts remaining => ?_⟩
  · rw [List.count_append, hnone _ rfl, Nat.add_zero, h.files name path]
  · rw [List.count_append, hnone _ rfl, Nat.add_zero, h.closings parts remaining]

/-- A traversal that was just begun has not released anything. -/
theorem begin (h : Accounted made direct passages log ledger) (origin : Body) :
    Accounted made direct ({ origin } :: passages) log ledger where
  count := by
    intro key
    rw [h.count key, List.map_cons, List.sum_cons, Passage.releases, Nat.zero_add]
  cells := h.cells
  asked := h.asked
  files := h.files
  closings := h.closings

/-- Handing out pieces releases nothing. -/
theorem hear {p : Passage} (h : Accounted made direct (p :: passages) log ledger)
    (pieces : List Bytes) (successes : Nat) :
    Accounted made direct (p.hear pieces successes :: passages) log ledger :=
  ⟨h.count, h.cells, h.asked, h.files, h.closings⟩

/-- Nothing has happened to a part that nobody has released. -/
theorem settled_fresh (h : Accounted made direct passages log ledger) (handle : Handle)
    (hfresh : ledger.count handle.key = 0) : ledger.Settled handle := by
  have hclosed := h.asked handle.key
  have hnot : ¬ 1 ≤ ledger.count handle.key := by omega
  rw [Ledger.Settled, if_neg fun hc => hnot hc.2]
  omega

/-- Releasing parts that were made, which have keys of their own, keeps all of
    them settled. -/
theorem settled_releaseAll (h : Accounted made direct passages log ledger)
    (handles : List Handle) (hkeys : (made.map Handle.key).Nodup)
    (hmade : ∀ x ∈ handles, x ∈ made) :
    (∀ handle ∈ made, (ledger.releaseAll handles).result.Settled handle)
      ∧ (ledger.releaseAll handles).result.Asked := by
  refine ⟨fun other hother => ?_, ?_⟩
  · refine Ledger.releaseAll_induction (fun l => l.Settled other) handles ledger
      (fun l handle hmem hl => l.settled_release handle other (fun heq => ?_) hl)
      (h.cells other hother)
    exact List.inj_on_of_nodup_map hkeys (hmade handle hmem) hother heq
  · exact Ledger.releaseAll_induction Ledger.Asked handles ledger
      (fun l handle _ hl => l.asked_release handle hl) h.asked

/-- A part that was just made has not been released, so a file among such parts is
    open. -/
theorem make (h : Accounted made direct passages log ledger) (handle : Handle)
    (hfresh : ledger.count handle.key = 0) :
    Accounted (made ++ [handle]) direct passages log ledger where
  count := h.count
  cells := by
    intro other hother
    rcases List.mem_append.mp hother with hother | hother
    · exact h.cells other hother
    · rw [List.mem_singleton.mp hother]
      exact settled_fresh h handle hfresh
  asked := h.asked
  files := by
    intro name path
    have hnot : (handle.releasing? == some (.releasedFile name path)
        && ledger.isReleased handle) = false := by
      rcases hfile : handle.part.file? with _ | file
      · rw [Handle.releasing?, hfile]
        rfl
      · -- The file is open, since nobody can have asked for its release.
        have hreleased := (settled_fresh h handle hfresh).isReleased (by rw [hfile]; rfl)
        rw [hreleased, hfresh]
        exact Bool.and_false _
    -- One part more is looked at, and it does not count.
    rw [List.countP_append, List.countP_singleton, hnot, h.files name path]
    rfl
  closings := h.closings

/-- A release by name is counted, and reported if it is the first one. -/
theorem release (h : Accounted made direct passages log ledger) (handle : Handle)
    (hkeys : (made.map Handle.key).Nodup) (hmade : handle ∈ made) :
    Accounted made (handle.key :: direct) passages (log ++ (ledger.release handle).events)
      (ledger.release handle).result where
  count := by
    intro key
    rw [Ledger.count_release, h.count key, List.count_cons]
    by_cases hkey : handle.key = key
    · rw [if_pos hkey, if_pos (beq_iff_eq.mpr hkey)]
      omega
    · rw [if_neg hkey, if_neg (fun hc => hkey (beq_iff_eq.mp hc))]
      omega
  cells := (h.settled_releaseAll [handle] hkeys (List.forall_mem_singleton.mpr hmade)).1
  asked := ledger.asked_release handle h.asked
  files := by
    intro name path
    have hevents := ledger.count_release_events made handle (.releasedFile name path) hkeys hmade
    rw [List.count_append, h.files name path]
    omega
  closings := by
    intro parts remaining
    have hnone := ledger.count_closedTraversal_releaseAll [handle] parts remaining
    rw [Ledger.releaseAll, Ledger.releaseAll, List.append_nil] at hnone
    rw [List.count_append, hnone, Nat.add_zero, h.closings parts remaining]

/-- Closing a traversal releases its parts and is reported, the first time.
    After that it does nothing. -/
theorem finish {p : Passage} (h : Accounted made direct (p :: passages) log ledger)
    (hkeys : (made.map Handle.key).Nodup) (hmade : ∀ x ∈ p.origin.parts, x ∈ made) :
    Accounted made direct (p.finish :: passages) (log ++ (p.resume.close ledger).events)
      (p.resume.close ledger).result.2 := by
  rcases hended : p.ending with _ | count
  · have hclosed : p.resume.closed = false := by
      rw [Passage.resume, hended]
      rfl
    have hclose := p.resume.close_open ledger hclosed
    rw [p.parts_resume] at hclose
    rw [hclose.1, hclose.2]
    have hsettled := h.settled_releaseAll p.origin.parts hkeys hmade
    -- One after the other: counts, files, and the end of the traversal itself.
    refine ⟨fun key => ?_, hsettled.1, hsettled.2, fun name path => ?_, fun parts remaining => ?_⟩
    · have hcount := h.count key
      simp only [List.map_cons, List.sum_cons, Passage.releases, Passage.finish, hended,
        Option.none_or] at hcount ⊢
      rw [Ledger.count_releaseAll, hcount]
      omega
    · have hevents := ledger.count_releaseAll_events made p.origin.parts
        (.releasedFile name path) hkeys hmade
      rw [List.count_append, List.count_cons_of_ne Event.noConfusion, h.files name path]
      omega
    · have hnone := ledger.count_closedTraversal_releaseAll p.origin.parts parts remaining
      have hclosing : p.finish.closing?
          = some (.closedTraversal p.origin.parts.length p.resume.remaining) := by
        rw [Passage.closing?, Passage.finish, hended]
        rfl
      have hclosings := h.closings parts remaining
      rw [List.filterMap_cons_none (by rw [Passage.closing?, hended]; rfl)] at hclosings
      rw [List.filterMap_cons_some hclosing, List.count_append, List.count_cons, List.count_cons,
        hnone, hclosings]
      omega
  · -- It ended before, so neither the passage nor its traversal does anything.
    have hclosed : p.resume.closed = true := by
      rw [Passage.resume, hended]
      rfl
    have hfinish : p.finish = p := by
      rw [Passage.finish, hended, Option.some_or, ← hended]
    rw [Traversal.close_closed _ ledger hclosed, hfinish, List.append_nil]
    exact h

end Accounted

end FormData
