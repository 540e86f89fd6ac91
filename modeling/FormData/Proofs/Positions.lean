import FormData.Proofs.Views
import Mathlib.Data.Prod.Lex

/-!
# Where a Traversal Stands

A traversal never looks for a part that is not there, and it never turns back.

A position within the content names a part by index, and a step takes the part of
that index without asking whether there is one. Nothing about a position by itself
says that there is, and where there is none `step?` answers as it does at the end.
To tell the two apart, the step is written once more with a look-up that has to
find its part (`Traversal.stepChecked`). An index that names no part is a failure
there, a call that comes upon one is not answered, and neither are the calls
behind it (`useAllChecked`). What keeps that from happening is that a use that
finds the position within the parts leaves it there (`inRange_use`). A traversal
begins within them, so all calls on it are answered, and as they are answered where
nobody checks (`useAllChecked_eq_ok`).

Positions are in order: the beginning, then those within the content by part and
by piece of the part, then the end. A step goes up in that order wherever it is
taken (`lt_of_step?`). So a run never comes back to a position it has left, and it
leaves one exactly if it is told of a piece.

## Main definitions

* `Traversal.Position.key`: What positions are compared by.
* `Traversal.stepChecked`: A step that fails if the index names no part.
* `Traversal.useChecked`, `useAllChecked`: Calls that are answered only if such
  steps do not fail.

## Theorems

* `Traversal.lt_of_step?`: A step leads to a later position.
* `Traversal.use_moves`, `useAll_moves`: Calls lead on exactly if they are told
  of a piece.
* `Traversal.stepChecked_cases`: When a checked step fails.
* `Traversal.useAllChecked_eq_ok`: Within range, checking makes no difference.
* `Traversal.position_useAll`: Where the traversals of a body can stand.
-/

namespace FormData

namespace Traversal

namespace Position

/-- What positions are compared by. The beginning is in front of everything and
    the end is behind it. Between them, a part comes before the parts behind it,
    and a piece before those behind it in the same part. -/
def key : Position → ℕ ×ₗ ℕ ×ₗ ℕ
  | .start => toLex (0, toLex (0, 0))
  | .content part chunk => toLex (1, toLex (part, chunk))
  | .done => toLex (2, toLex (0, 0))

theorem key_injective : Function.Injective key := by
  intro a b h
  cases a <;> cases b <;> simp_all [key]

instance : LinearOrder Position :=
  LinearOrder.lift' key key_injective

theorem lt_iff_key (a b : Position) : a < b ↔ a.key < b.key :=
  Iff.rfl

theorem start_lt_content (part chunk : Nat) : start < content part chunk :=
  Prod.Lex.toLex_lt_toLex.mpr (Or.inl Nat.zero_lt_one)

theorem start_lt_done : start < done :=
  Prod.Lex.toLex_lt_toLex.mpr (Or.inl Nat.zero_lt_two)

theorem content_lt_done (part chunk : Nat) : content part chunk < done :=
  Prod.Lex.toLex_lt_toLex.mpr (Or.inl Nat.one_lt_two)

theorem content_lt_content_iff (part chunk part' chunk' : Nat) :
    content part chunk < content part' chunk' ↔ part < part' ∨ part = part' ∧ chunk < chunk' := by
  rw [lt_iff_key, key, key, Prod.Lex.toLex_lt_toLex, Prod.Lex.toLex_lt_toLex]
  simp only [Nat.lt_irrefl, false_or, true_and]

end Position

/-- A step leads to a later position. -/
theorem lt_of_step? (t : Traversal) (position : Position) (bytes : Bytes)
    (h : t.step? = some (position, bytes)) : t.position < position := by
  cases leads_of_step? t position bytes h with
  | only hstart hparts =>
      rw [hstart]
      exact Position.start_lt_done
  | first hstart hparts =>
      rw [hstart]
      exact Position.start_lt_content 0 0
  | chunk part chunk handle bytes hposition hpart hchunk =>
      rw [hposition, Position.content_lt_content_iff]
      exact Or.inr ⟨rfl, Nat.lt_succ_self chunk⟩
  | middle part chunk handle hposition hpart hchunk hnext =>
      rw [hposition, Position.content_lt_content_iff]
      exact Or.inl (Nat.lt_succ_self part)
  | last part chunk handle hposition hpart hchunk hend =>
      rw [hposition]
      exact Position.content_lt_done part chunk

theorem lt_of_next? (t t' : Traversal) (bytes : Bytes) (h : t.next? = some (bytes, t')) :
    t.position < t'.position := by
  rcases step?_of_next? t t' bytes h with ⟨position, hstep, rfl⟩
  exact lt_of_step? t position bytes hstep

/-- A use that is told of a piece leads to a later position. One that fails, or
    closes the traversal, leaves the position as it is. -/
theorem use_moves (t : Traversal) (ledger : Ledger) (u : Use) :
    ((t.use ledger u).1.piece? = none ∧ (t.use ledger u).2.1.position = t.position) ∨
    ∃ bytes, (t.use ledger u).1.piece? = some bytes
      ∧ t.position < (t.use ledger u).2.1.position := by
  rcases use_eq t ledger u with ⟨htold, hask, hclose⟩
  rw [htold, piece?_told]
  rcases hasks : u.asks with _ | _
  · rw [hclose hasks]
    exact Or.inl ⟨rfl, rfl⟩
  · rw [hask hasks]
    rcases hnext : t.next? with _ | ⟨bytes, t'⟩
    · refine Or.inl ?_
      simp only [nextChunk, hnext]
      exact ⟨rfl, trivial⟩
    · refine Or.inr ⟨bytes, ?_⟩
      simp only [nextChunk, hnext]
      exact ⟨rfl, lt_of_next? t t' bytes hnext⟩

/-- The same for any number of uses. They lead to a later position if one of them
    is told of a piece, and otherwise to the position they find. -/
theorem useAll_moves (uses : List Use) (t : Traversal) (ledger : Ledger) :
    (pieces (t.useAll ledger uses).1 = []
        ∧ (t.useAll ledger uses).2.1.position = t.position) ∨
    (pieces (t.useAll ledger uses).1 ≠ []
        ∧ t.position < (t.useAll ledger uses).2.1.position) := by
  induction uses generalizing t ledger with
  | nil => exact Or.inl ⟨rfl, rfl⟩
  | cons u rest ih =>
      have hrest := ih (t.use ledger u).2.1 (t.use ledger u).2.2
      simp only [pieces, useAll, List.filterMap_cons] at hrest ⊢
      rcases use_moves t ledger u with ⟨hpiece, hstay⟩ | ⟨bytes, hpiece, hlt⟩
      · rw [hpiece, ← hstay]
        exact hrest
      · -- Where the first use leads on, the others do not lead back.
        rw [hpiece]
        refine Or.inr ⟨List.cons_ne_nil _ _, ?_⟩
        rcases hrest with ⟨-, hsame⟩ | ⟨-, hmore⟩
        · rwa [hsame]
        · exact hlt.trans hmore

/-- A use that finds the position within the parts leaves it there. -/
theorem inRange_use (t : Traversal) (ledger : Ledger) (u : Use) (h : t.InRange) :
    (t.use ledger u).2.1.InRange := by
  rcases use_cases t ledger u with ⟨-, -, hnext⟩ | ⟨-, -, hclosed⟩
  · rw [hnext]
    exact inRange_take 1 t h
  · rw [hclosed]
    exact h

/-- The next piece and the position behind it, where the look-up for a part has to
    find one. An index that names no part is a failure, which tells of the index. -/
def stepChecked (t : Traversal) : Except Nat (Option (Position × Bytes)) :=
  match t.position with
  | .start =>
    if t.parts = [] then .ok (some (.done, t.boundary.only))
    else .ok (some (.content 0 0, t.boundary.first))
  | .content part chunk =>
    match t.parts[part]? with
    | none => .error part
    | some handle =>
      match handle.part.chunks[chunk]? with
      | some bytes => .ok (some (.content part (chunk + 1), bytes))
      | none =>
        if part + 1 < t.parts.length then .ok (some (.content (part + 1) 0, t.boundary.middle))
        else .ok (some (.done, t.boundary.last))
  | .done => .ok none

/-- Ask for a piece or a fault, unless the look-up for a part fails. -/
def nextChunkChecked (t : Traversal) : Except Nat (Except Fault Bytes × Traversal) :=
  match t.stepChecked with
  | .error part => .error part
  | .ok none => .ok (.error .exhausted, t)
  | .ok (some (position, bytes)) =>
    .ok (.ok bytes, { t with position, remaining := t.remaining - bytes.length })

/-- Make one call, unless the look-up for a part fails. Closing looks up none. -/
def useChecked (t : Traversal) (ledger : Ledger) (u : Use) :
    Except Nat (Answer × Traversal × Ledger) :=
  if u.asks then t.nextChunkChecked.map fun asked => (u.told asked.1, asked.2, ledger)
  else .ok (.closed, (t.close ledger).result)

/-- Make calls in order, up to the first in which a look-up fails. -/
def useAllChecked (t : Traversal) (ledger : Ledger) :
    List Use → Except Nat (List Answer × Traversal × Ledger)
  | [] => .ok ([], t, ledger)
  | u :: rest =>
    match t.useChecked ledger u with
    | .error part => .error part
    | .ok used =>
      (used.2.1.useAllChecked used.2.2 rest).map fun later => (used.1 :: later.1, later.2)

/-- A step is the same with the look-up checked, unless the index names no part. -/
theorem stepChecked_cases (t : Traversal) :
    t.stepChecked = .ok t.step? ∨
    ∃ part chunk, t.position = .content part chunk ∧ t.parts.length ≤ part
      ∧ t.stepChecked = .error part := by
  rcases hposition : t.position with _ | ⟨part, chunk⟩ | _
  · by_cases hparts : t.parts = []
    · exact Or.inl (by simp only [stepChecked, step?, hposition, hparts, if_true])
    · exact Or.inl (by simp only [stepChecked, step?, hposition, hparts, if_false])
  · rcases hpart : t.parts[part]? with _ | handle
    · refine Or.inr ⟨part, chunk, rfl, List.getElem?_eq_none_iff.mp hpart, ?_⟩
      simp only [stepChecked, hposition, hpart]
    · refine Or.inl ?_
      simp only [stepChecked, step?, hposition, hpart]
      rcases handle.part.chunks[chunk]? with _ | piece
      · by_cases hnext : part + 1 < t.parts.length
        · simp only [hnext, if_true]
        · simp only [hnext, if_false]
      · rfl
  · exact Or.inl (by simp only [stepChecked, step?, hposition])

-- An index that is off: unchecked, the step looks like one at the end.
example :
    let t : Traversal :=
      ⟨⟨"B", by decide⟩, [⟨0, .field (FieldPart.text "a" "1")⟩], .content 1 0, 0, false⟩
    t.step? = none ∧ t.stepChecked = .error 1 := by
  exact ⟨rfl, rfl⟩

theorem stepChecked_eq_ok (t : Traversal) (h : t.InRange) : t.stepChecked = .ok t.step? := by
  rcases stepChecked_cases t with hok | ⟨part, chunk, hposition, hle, -⟩
  · exact hok
  · -- A position within the parts names one of them.
    rw [InRange, hposition] at h
    rcases h with ⟨handle, hpart, -⟩
    rw [List.getElem?_eq_none hle] at hpart
    cases hpart

theorem nextChunkChecked_eq_ok (t : Traversal) (h : t.InRange) :
    t.nextChunkChecked = .ok t.nextChunk := by
  have hchecked := stepChecked_eq_ok t h
  rcases hstep : t.step? with _ | ⟨position, bytes⟩
  · simp only [nextChunkChecked, nextChunk, next?, hchecked, hstep]
  · simp only [nextChunkChecked, nextChunk, next?, hchecked, hstep]

theorem useChecked_eq_ok (t : Traversal) (ledger : Ledger) (u : Use) (h : t.InRange) :
    t.useChecked ledger u = .ok (t.use ledger u) := by
  rcases use_eq t ledger u with ⟨htold, hask, -⟩
  rcases hasks : u.asks with _ | _
  · cases u with
    | close => rfl
    | nextChunk | next | pollFrame => cases hasks
  · rw [useChecked, if_pos hasks, nextChunkChecked_eq_ok t h, Except.map, ← htold, ← hask hasks]

/-- Calls on a traversal whose position is within the parts are answered, and the
    way they are answered where no look-up is checked. -/
theorem useAllChecked_eq_ok (uses : List Use) (t : Traversal) (ledger : Ledger) (h : t.InRange) :
    t.useAllChecked ledger uses = .ok (t.useAll ledger uses) := by
  induction uses generalizing t ledger with
  | nil => rfl
  | cons u rest ih =>
      have hrest := ih _ (t.use ledger u).2.2 (inRange_use t ledger u h)
      simp only [useAllChecked, useChecked_eq_ok t ledger u h, hrest, Except.map, useAll]

theorem inRange_useAll (uses : List Use) (t : Traversal) (ledger : Ledger) (h : t.InRange) :
    (t.useAll ledger uses).2.1.InRange := by
  rw [(useAll_eq uses t ledger).2]
  exact inRange_take _ t h

theorem parts_useAll (uses : List Use) (t : Traversal) (ledger : Ledger) :
    (t.useAll ledger uses).2.1.parts = t.parts := by
  rw [(useAll_eq uses t ledger).2]
  exact parts_take _ t

/-- Where the traversals of a body can stand. Take any body and any uses of a
    traversal of it. No look-up for a part fails in them: checked, they are answered
    as they are unchecked. If the traversal is within the content afterwards, it is
    at one of the parts of the body, behind no more pieces than that part has. So it
    is never within the content of a body without parts.

    One further use leads on to a later position if it is told of a piece, and if it
    fails or closes the traversal, it leaves the position as it is. Any number of
    further uses lead on if one of them is told of a piece, and otherwise leave the
    position as well. -/
theorem position_useAll (body : Body) (ledger : Ledger) (uses more : List Use) :
    let reached := body.iterate.useAll ledger uses
    let t := reached.2.1
    let later := t.useAll reached.2.2 more
    body.iterate.useAllChecked ledger uses = .ok reached
    ∧ t.parts = body.parts
    ∧ (∀ part chunk, t.position = .content part chunk →
        ∃ h : part < body.parts.length, chunk ≤ body.parts[part].part.chunks.length)
    ∧ (body.parts = [] → t.position = .start ∨ t.position = .done)
    ∧ (∀ u, let used := t.use reached.2.2 u
        (used.1.piece? = none ∧ used.2.1.position = t.position) ∨
        ∃ bytes, used.1.piece? = some bytes ∧ t.position < used.2.1.position)
    ∧ ((pieces later.1 = [] ∧ later.2.1.position = t.position) ∨
        (pieces later.1 ≠ [] ∧ t.position < later.2.1.position)) := by
  intro reached t later
  have hrange : t.InRange := inRange_useAll uses body.iterate ledger (inRange_iterate body)
  have hparts : t.parts = body.parts := parts_useAll uses body.iterate ledger
  have hwithin : ∀ part chunk, t.position = .content part chunk →
      ∃ h : part < body.parts.length, chunk ≤ body.parts[part].part.chunks.length := by
    intro part chunk hposition
    rw [InRange, hposition, hparts] at hrange
    rcases hrange with ⟨handle, hpart, hchunk⟩
    rcases List.getElem?_eq_some_iff.mp hpart with ⟨hlt, hhandle⟩
    exact ⟨hlt, by rwa [hhandle]⟩
  refine ⟨useAllChecked_eq_ok uses body.iterate ledger (inRange_iterate body), hparts, hwithin,
    fun hnone => ?_, fun u => use_moves t reached.2.2 u, useAll_moves more t reached.2.2⟩
  rcases hposition : t.position with _ | ⟨part, chunk⟩ | _
  · exact Or.inl rfl
  · -- No index names a part of such a body.
    rcases hwithin part chunk hposition with ⟨hlt, -⟩
    rw [hnone] at hlt
    exact absurd hlt (Nat.not_lt_zero part)
  · exact Or.inr rfl

/-- Behind the last piece of a field, which follows a part without pieces, and on a
    body without parts. -/
theorem position_useAll_used_up :
    let b : Boundary := ⟨"B", by decide⟩
    let body := ((Body.empty b).add ⟨0, .custom ⟨"own", [], 0, false⟩⟩).add
      ⟨1, .field (FieldPart.text "a" "1")⟩
    let t := (body.iterate.useAll Ledger.empty
      [.nextChunk, .next, .pollFrame, .close, .nextChunk]).2.1
    let t' := ((Body.empty b).iterate.useAll Ledger.empty [.pollFrame, .next]).2.1
    t.position = .content 1 2
    ∧ (∃ h : 1 < body.parts.length, 2 ≤ body.parts[1].part.chunks.length)
    ∧ (t'.position = .start ∨ t'.position = .done) := by
  intro b body t t'
  have hused := position_useAll body Ledger.empty
    [.nextChunk, .next, .pollFrame, .close, .nextChunk] []
  have hbare := position_useAll (Body.empty b) Ledger.empty [.pollFrame, .next] []
  exact ⟨rfl, hused.2.2.1 1 2 rfl, hbare.2.2.2.1 rfl⟩

end Traversal

end FormData
