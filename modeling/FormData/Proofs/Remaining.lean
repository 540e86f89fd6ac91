import FormData.Proofs.Length
import FormData.Proofs.Uses

/-!
# What Is Left to Yield

The count of octets that a traversal keeps, at every point.

A transport is told how many octets are still to come, and it announces that
number before it has seen any of them. The count begins at the length of the
body, which is itself kept rather than computed, and every piece takes its own
length off it. Two accounts therefore meet here. That of the edits says what the
length is made up of, and that of the steps says which pieces are yielded.

Where the parts report what they have, the two agree octet for octet. The count
is then the length of what is ahead (`remaining_eq_total_ahead`), so no piece is
ever longer than what is left and the subtraction is exact. It reaches nothing
at the end and not before, because the line that ends a body is not empty
(`total_ahead_eq_zero_iff`). A part of the caller's own may report anything, and
then the count is the length less what was yielded, or nothing where more was
yielded than that.

## Theorems

* `Traversal.total_ahead_eq_zero_iff`: Whatever is ahead has an octet.
* `Traversal.remaining_eq_total_ahead`: A traversal of parts that report what
  they have counts what is ahead.
* `Traversal.remaining_useAll`: The count after any uses of a traversal of an
  edited body.
-/

namespace FormData

theorem Bytes.length_le_total (piece : Bytes) (pieces : List Bytes) (h : piece ∈ pieces) :
    piece.length ≤ Bytes.total pieces := by
  induction pieces with
  | nil => exact absurd h List.not_mem_nil
  | cons first rest ih =>
      rw [Bytes.total_cons]
      rcases List.mem_cons.mp h with rfl | hrest
      · omega
      · have hle := ih hrest
        omega

namespace Boundary

theorem last_mem_closing (b : Boundary) (parts : List Handle) : b.last ∈ b.closing parts := by
  induction parts with
  | nil => exact List.mem_cons_self
  | cons handle rest ih => exact List.mem_cons_of_mem _ (List.mem_append_right _ ih)

theorem exists_mem_layout (b : Boundary) (parts : List Handle) :
    ∃ line ∈ b.layout parts, 0 < line.length := by
  cases parts with
  | nil =>
      refine ⟨b.only, List.mem_cons_self, ?_⟩
      simp only [only, Bytes.crlf, List.length_append, List.length_cons]
      omega
  | cons handle rest =>
      have hlast := b.length_last
      exact ⟨b.last, List.mem_cons_of_mem _ (List.mem_append_right _ (b.last_mem_closing rest)),
        by omega⟩

end Boundary

namespace Traversal

/-- Whatever is ahead has an octet, since the line that ends the body is
    ahead. -/
theorem total_ahead_eq_zero_iff (t : Traversal) : Bytes.total t.ahead = 0 ↔ t.ahead = [] := by
  constructor
  · intro hzero
    by_contra hne
    have hline : ∃ line ∈ t.ahead, 0 < line.length := by
      rcases t with ⟨b, parts, position, remaining, closed⟩
      cases position with
      | start => exact b.exists_mem_layout parts
      | content part chunk =>
          rcases hpart : parts[part]? with _ | handle
          · simp only [ahead, hpart, not_true_eq_false] at hne
          · have hlast := b.length_last
            refine ⟨b.last, ?_, by omega⟩
            simp only [ahead, hpart]
            exact List.mem_append_right _ (b.last_mem_closing _)
      | done => exact absurd rfl hne
    rcases hline with ⟨line, hmem, hpos⟩
    have hle := Bytes.length_le_total line t.ahead hmem
    omega
  · intro hnil
    rw [hnil, Bytes.total_nil]

/-- Steps on a fresh traversal leave the count at what is ahead if the body has
    the length of its pieces: those that were yielded are taken off it, and they
    and the others are all there are. -/
theorem remaining_eq_total_ahead (body : Body) (n : Nat)
    (hlength : body.length = Bytes.total (body.boundary.layout body.parts)) :
    (body.iterate.take n).2.remaining = Bytes.total (body.iterate.take n).2.ahead := by
  have hahead : body.iterate.ahead = body.boundary.layout body.parts := rfl
  have hsplit : Bytes.total (body.boundary.layout body.parts)
      = Bytes.total ((body.boundary.layout body.parts).take n)
        + Bytes.total ((body.boundary.layout body.parts).drop n) := by
    rw [← Bytes.total_append, List.take_append_drop]
  have hcount : body.iterate.remaining = body.length := rfl
  rw [remaining_take, take_fst, ahead_take, hahead, hcount, hlength]
  omega

/-- What is left to yield. Take any edited body, any list of uses of a
    traversal of it, and the pieces those uses were answered with, one for each
    that was successful. What is left is the length that the body had, less the
    octets of these pieces, or nothing if they have more; and a transport is told
    that number exactly.

    If the parts report what they have, then what is left is the total of the
    pieces that are still to be yielded, the next piece is always subtracted
    exactly, and nothing is left just when there is no next piece. -/
theorem remaining_useAll (b : Boundary) (edits : List Body.Edit) (ledger : Ledger)
    (uses : List Use) :
    let body := (Body.empty b).editAll edits
    let used := body.iterate.useAll ledger uses
    let t := used.2.1
    let yielded := pieces used.1
    yielded ++ t.drain.1 = body.iterate.drain.1
    ∧ (t.remaining : Int) = max 0 ((body.length : Int) - (Bytes.total yielded : Int))
    ∧ t.sizeHint.exact = some t.remaining
    ∧ ((∀ h ∈ body.parts, h.part.length = Bytes.total h.part.chunks) →
        t.remaining = Bytes.total t.drain.1
        ∧ (∀ bytes t', t.next? = some (bytes, t') →
            t'.remaining + bytes.length = t.remaining)
        ∧ (t.remaining = 0 ↔ t.hasNext = false)) := by
  intro body used t yielded
  have hyielded : yielded = (body.iterate.take (uses.countP Use.asks)).1 :=
    (useAll_eq uses body.iterate ledger).1
  have ht : t = { (body.iterate.take (uses.countP Use.asks)).2 with
      closed := body.iterate.closed || uses.any fun u => !u.asks } :=
    (useAll_eq uses body.iterate ledger).2
  -- Whether the traversal is closed has no share in what it shows.
  have hremaining : t.remaining = (body.iterate.take (uses.countP Use.asks)).2.remaining := by
    rw [ht]
  have hahead : t.ahead = (body.iterate.take (uses.countP Use.asks)).2.ahead := by
    rw [ht]
    rfl
  refine ⟨?_, ?_, if_pos rfl, fun htrue => ?_⟩
  · rw [drain_fst, drain_fst, hahead, hyielded, take_fst, ahead_take, List.take_append_drop]
  · have hcount : body.iterate.remaining = body.length := rfl
    rw [hremaining, remaining_take, ← hyielded, hcount]
    omega
  · have hcharged : body.Charged := Body.charged_editAll _ edits (Body.charged_empty b)
    have hlength : body.length = Bytes.total (body.boundary.layout body.parts) := by
      have hsum := Body.length_sub_total_layout body hcharged
      rw [Body.sum_surplus_eq_zero body.parts fun h hh c hc => ?_] at hsum
      · omega
      · have hpart := htrue h hh
        rwa [hc] at hpart
    have htotal : t.remaining = Bytes.total t.ahead := by
      rw [hremaining, hahead]
      exact remaining_eq_total_ahead body _ hlength
    have hrange : t.InRange := by
      rw [ht]
      exact inRange_take _ _ (inRange_iterate body)
    refine ⟨by rw [htotal, drain_fst], fun bytes t' hnext => ?_, ?_⟩
    · -- The piece is one of those ahead, so it is no longer than what is left.
      rcases ahead_of_next? t t' bytes hnext with ⟨hpiece, -, -, -, -, hrest⟩
      rw [hpiece, Bytes.total_cons] at htotal
      omega
    · rw [htotal, total_ahead_eq_zero_iff, hasNext_eq_false_iff t hrange]

/-- A body of a field and a part with an empty piece, asked in each way with the
    traversal closed in between. Three pieces were yielded, and what is left is
    the two pieces of the part and the lines around them. -/
theorem remaining_useAll_mixed :
    let b : Boundary := ⟨"B", by decide⟩
    let body := (Body.empty b).editAll
      [.add ⟨0, .field (FieldPart.text "a" "1")⟩,
        .add ⟨1, .custom ⟨"own", [[], [98, 99]], 2, true⟩⟩]
    let used := body.iterate.useAll Ledger.empty [.pollFrame, .close, .next, .nextChunk, .close]
    (pieces used.1).length = 3 ∧ used.2.1.closed = true
    ∧ used.2.1.remaining = Bytes.total [b.middle, [], [98, 99], b.last] := by
  intro b body used
  have htrue : ∀ h ∈ body.parts, h.part.length = Bytes.total h.part.chunks := by
    intro h hmem
    have hparts : body.parts = [⟨0, .field (FieldPart.text "a" "1")⟩,
        ⟨1, .custom ⟨"own", [[], [98, 99]], 2, true⟩⟩] := rfl
    rw [hparts] at hmem
    simp only [List.mem_cons, List.not_mem_nil, or_false] at hmem
    rcases hmem with rfl | rfl
    · rfl
    · rfl
  have hall := remaining_useAll b
    [.add ⟨0, .field (FieldPart.text "a" "1")⟩,
      .add ⟨1, .custom ⟨"own", [[], [98, 99]], 2, true⟩⟩]
    Ledger.empty [.pollFrame, .close, .next, .nextChunk, .close]
  exact ⟨rfl, rfl, (hall.2.2.2 htrue).1⟩

-- A part that reports too little: the count is used up before the pieces are.
example :
    let body := (Body.empty ⟨"B", by decide⟩).add ⟨0, .custom ⟨"own", [[97, 98, 99]], 1, false⟩⟩
    let t := (body.iterate.take 2).2
    body.length = 15 ∧ t.remaining = 7 ∧ t.drain.2.remaining = 0
      ∧ Bytes.total t.drain.1 = 9 := by
  decide

end Traversal

end FormData
