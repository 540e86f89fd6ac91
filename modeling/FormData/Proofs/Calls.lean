import FormData.Proofs.Layout
import Mathlib.Algebra.BigOperators.Group.List.Basic
import Mathlib.Algebra.Order.Ring.Int

/-!
# Asking for Every Piece

What successive calls answer, from the first piece to long after the last.

`Traversal.take` stops asking once there is nothing left. A caller need not:
it may go on calling, and each call is answered. `Traversal.calls` keeps those
answers, the faults included, so that a run of calls is a list as long as the
number of calls. What it holds is the pieces of the body, then the fault, over
and over (`calls_eq`).

The pieces are stated here without recursion. A body with parts is the pieces
of one part after the other with the middle line between neighbours, which is
`List.intercalate`, and a line at either end (`Boundary.interleaved`). The
layout of the module on layouts is the same list, grown part by part the way
a traversal comes across it.

## Main definitions

* `Traversal.calls`: The answers to so many calls.
* `Boundary.interleaved`: The pieces of a body, in closed form.

## Theorems

* `Traversal.nextChunk_cases`: What one call does.
* `Traversal.calls_eq`: What a run of calls does.
* `Boundary.layout_eq_interleaved`: The closed form is the layout.
* `Traversal.calls_iterate`: What calls on a fresh traversal answer.
-/

namespace FormData

namespace Boundary

/-- The pieces of a body whose parts have these pieces: the only line if there
    are no parts, and otherwise the pieces of each with the middle line between
    neighbours, the first line in front and the last line behind. -/
def interleaved (b : Boundary) (parts : List (List Bytes)) : List Bytes :=
  if parts = [] then [b.only]
  else b.first :: ([b.middle].intercalate parts ++ [b.last])

/-- Behind one part, every other one brings the middle line with it. -/
theorem append_closing (b : Boundary) (chunks : List Bytes) (rest : List Handle) :
    chunks ++ b.closing rest
      = [b.middle].intercalate (chunks :: rest.map fun h => h.part.chunks) ++ [b.last] := by
  induction rest generalizing chunks with
  | nil => rw [closing, List.map_nil, List.intercalate_singleton]
  | cons handle rest ih =>
      rw [closing, List.map_cons, List.intercalate_cons_cons, ih handle.part.chunks]
      simp only [List.append_assoc, List.cons_append, List.nil_append]

theorem layout_eq_interleaved (b : Boundary) (parts : List Handle) :
    b.layout parts = b.interleaved (parts.map fun h => h.part.chunks) := by
  cases parts with
  | nil => rfl
  | cons handle rest =>
      rw [layout, append_closing, interleaved, List.map_cons, if_neg (List.cons_ne_nil _ _)]

/-- Between neighbours there is one line less than there are parts. -/
theorem length_intercalate_singleton (line : Bytes) (chunks : List Bytes)
    (rest : List (List Bytes)) :
    ([line].intercalate (chunks :: rest)).length
      = rest.length + ((chunks :: rest).map List.length).sum := by
  induction rest generalizing chunks with
  | nil =>
      simp only [List.intercalate_singleton, List.length_nil, List.map_cons, List.map_nil,
        List.sum_cons, List.sum_nil]
      omega
  | cons next rest ih =>
      rw [List.intercalate_cons_cons, List.length_append, ih next]
      simp only [List.length_append, List.length_cons, List.length_nil, List.map_cons,
        List.sum_cons]
      omega

theorem length_interleaved (b : Boundary) (parts : List (List Bytes)) :
    (b.interleaved parts).length
      = if parts = [] then 1 else parts.length + 1 + (parts.map List.length).sum := by
  cases parts with
  | nil => rfl
  | cons chunks rest =>
      rw [interleaved, if_neg (List.cons_ne_nil _ _), if_neg (List.cons_ne_nil _ _)]
      simp only [List.length_cons, List.length_append, List.length_nil,
        length_intercalate_singleton]
      omega

end Boundary

namespace Traversal

/-- The answers to so many calls in a row, and the traversal they leave. A call
    that fails is answered by its fault and does not end the run. -/
def calls : Nat → Traversal → List (Except Fault Bytes) × Traversal
  | 0, t => ([], t)
  | n + 1, t => (t.nextChunk.1 :: (calls n t.nextChunk.2).1, (calls n t.nextChunk.2).2)

/-- A call takes one piece off what is ahead, or there is none and the call
    leaves everything as it was. -/
theorem nextChunk_cases (t : Traversal) :
    (t.ahead = [] ∧ t.nextChunk = (.error .exhausted, t)) ∨
    ∃ bytes t', t.ahead = bytes :: t'.ahead ∧ t.nextChunk = (.ok bytes, t')
      ∧ (t.InRange → t'.InRange) ∧ t'.closed = t.closed := by
  rcases hnext : t.next? with _ | ⟨bytes, t'⟩
  · exact Or.inl ⟨(next?_eq_none_iff t).mp hnext, by simp only [nextChunk, hnext]⟩
  · rcases ahead_of_next? t t' bytes hnext with ⟨hahead, hrange, -, -, hclosed, -⟩
    exact Or.inr ⟨bytes, t', hahead, by simp only [nextChunk, hnext], fun _ => hrange, hclosed⟩

/-- A run of calls answers what is ahead and then only the fault. It leaves
    what it did not ask for, and whether the parts were released is not its
    business. -/
theorem calls_eq (n : Nat) (t : Traversal) :
    (t.calls n).1
        = (t.ahead.take n).map .ok ++ List.replicate (n - t.ahead.length) (.error .exhausted)
      ∧ (t.calls n).2.ahead = t.ahead.drop n
      ∧ (t.InRange → (t.calls n).2.InRange)
      ∧ (t.calls n).2.closed = t.closed := by
  induction n generalizing t with
  | zero =>
      simp only [calls, List.take_zero, List.map_nil, Nat.zero_sub, List.replicate_zero,
        List.append_nil, List.drop_zero]
      exact ⟨trivial, trivial, id, trivial⟩
  | succ n ih =>
      rcases nextChunk_cases t with ⟨hnil, hcall⟩ | ⟨bytes, t', hahead, hcall, hrange, hclosed⟩
      · -- Nothing is ahead, so this call and all later ones are answered alike.
        rcases ih t with ⟨hanswers, hleft, hin, hsame⟩
        simp only [calls, hcall, hanswers, hleft, hnil, List.take_nil, List.map_nil,
          List.nil_append, List.length_nil, Nat.sub_zero, List.drop_nil, List.replicate_succ]
        exact ⟨trivial, trivial, hin, hsame⟩
      · rcases ih t' with ⟨hanswers, hleft, hin, hsame⟩
        simp only [calls, hcall, hanswers, hleft, hahead, List.take_succ_cons, List.map_cons,
          List.cons_append, List.length_cons, Nat.add_sub_add_right, List.drop_succ_cons]
        exact ⟨trivial, trivial, fun h => hin (hrange h), hsame.trans hclosed⟩

/-- Wire layout. Calls on a fresh traversal of any body are answered by its
    pieces in order, one each, and from then on by the fault alone. While a
    piece is left the traversal says so, and a call that fails changes nothing
    about it. -/
theorem calls_iterate (body : Body) :
    let pieces := body.boundary.interleaved (body.parts.map fun h => h.part.chunks)
    pieces.length
        = (if body.parts = [] then 1
          else body.parts.length + 1 + (body.parts.map fun h => h.part.chunks.length).sum)
    ∧ (∀ n, (body.iterate.calls n).1
        = (pieces.take n).map .ok ++ List.replicate (n - pieces.length) (.error .exhausted))
    ∧ (∀ n, ((body.iterate.calls n).2.hasNext = true ↔ n < pieces.length)
        ∧ (body.iterate.calls n).2.closed = false)
    ∧ ∀ more, (body.iterate.calls (pieces.length + more)).2.nextChunk
        = (.error .exhausted, (body.iterate.calls (pieces.length + more)).2) := by
  intro pieces
  have hahead : body.iterate.ahead = pieces :=
    Boundary.layout_eq_interleaved body.boundary body.parts
  have hrange := Traversal.inRange_iterate body
  refine ⟨?_, fun n => ?_, fun n => ⟨?_, (calls_eq n body.iterate).2.2.2⟩, fun more => ?_⟩
  · rw [Boundary.length_interleaved]
    simp only [List.map_eq_nil_iff, List.length_map, List.map_map, Function.comp_def]
  · rw [(calls_eq n body.iterate).1, hahead]
  · -- The position alone says whether there is a next piece, and it is in range.
    have hend := hasNext_eq_false_iff _ ((calls_eq n body.iterate).2.2.1 hrange)
    rw [(calls_eq n body.iterate).2.1, hahead, List.drop_eq_nil_iff] at hend
    rw [← Bool.not_eq_false, hend, Nat.not_le]
  · rcases nextChunk_cases (body.iterate.calls (pieces.length + more)).2 with
      ⟨-, hcall⟩ | ⟨bytes, t', hpiece, -⟩
    · exact hcall
    · -- A piece would be one beyond those there are.
      rw [(calls_eq _ body.iterate).2.1, hahead, List.drop_of_length_le (Nat.le_add_right _ _)]
        at hpiece
      exact absurd hpiece.symm (List.cons_ne_nil _ _)

-- A part without pieces and one with an empty piece, asked for twice too often.
example :
    let b : Boundary := ⟨"B", by decide⟩
    let body : Body :=
      ⟨b, [⟨0, .custom ⟨"a", [], 0, false⟩⟩, ⟨1, .custom ⟨"b", [[], [98]], 1, false⟩⟩], 0⟩
    (body.iterate.calls 7).1
      = [.ok b.first, .ok b.middle, .ok [], .ok [98], .ok b.last,
          .error .exhausted, .error .exhausted] := by
  rfl

end Traversal

end FormData
