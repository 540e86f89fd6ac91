import FormData.Traversal

/-!
# The Layout of a Body

Which pieces a traversal yields, all at once.

A traversal is a small machine: it keeps an index of a part and an index of a
piece and decides from the two what comes next. What it writes is a nested
list: a line in front of every part, the pieces of the part, a line at the end.
`Boundary.layout` is that list, by recursion on the parts and with no index in
it. `Traversal.ahead` is the part of it that a traversal has yet to yield, read
off the position, and one step takes one piece off its front
(`ahead_of_next?`). Everything about what runs of steps yield follows from that
one fact. Whatever has to look at positions all the same goes by cases on what a
step can do (`Leads`).

A position names a part by index, and an index may be off. `InRange` says it
is not, which holds of every traversal that was begun on a body. Most of what
follows does not need it: a position off the end has nothing ahead and cannot
step either. Only `hasNext` is answered by the position alone.

Joined, the pieces of a body have a simpler shape. The line endings around a
mark can be counted to the parts on either side of it, and then every part
takes up one segment of the same form (`Boundary.flatten_layout`).

## Main definitions

* `Boundary.layout`: The pieces of a body with given parts.
* `Boundary.delimiter`: What separates a part from what follows it.
* `Boundary.segment`: What one part takes up in a body.
* `Traversal.ahead`: The pieces a traversal has yet to yield.
* `Traversal.InRange`: The position lies within the parts.
* `Traversal.Leads`: All that a step can do.

## Theorems

* `Boundary.flatten_layout`: A body joined is a mark, segments and an ending.
* `Traversal.leads_of_step?`: A step does one of these things.
* `Traversal.ahead_of_next?`: A step takes one piece off what is ahead.
* `Traversal.next?_eq_none_iff`: There is no step when nothing is ahead.
* `Traversal.take_fst`: So many steps yield so many pieces of what is ahead.
* `Traversal.take_add`: Taking some pieces and then more is taking all of them.
* `Traversal.take_setClosed`: Whether the parts have been released makes no
  difference to a traversal.
* `Traversal.next_eq_take`, `nextChunk_eq_take`, `pollFrame_eq_take`: Each of
  the three ways of asking takes one piece.
* `Traversal.drain_fst`: Draining yields all that is ahead.
* `Traversal.hasNext_drain_iterate`: A drained traversal is at its end.
-/

namespace FormData

namespace Boundary

/-- The pieces behind the content of a part, given the parts that follow it. -/
def closing (b : Boundary) : List Handle → List Bytes
  | [] => [b.last]
  | handle :: rest => b.middle :: (handle.part.chunks ++ b.closing rest)

/-- The pieces of a body with these parts. -/
def layout (b : Boundary) : List Handle → List Bytes
  | [] => [b.only]
  | handle :: rest => b.first :: (handle.part.chunks ++ b.closing rest)

/-- What separates the content of a part from what follows it: a line ending,
    then the mark. -/
def delimiter (b : Boundary) : Bytes :=
  Bytes.crlf ++ b.mark

/-- What one part takes up in a body: a line ending that ends the line in front
    of it, its content, and the delimiter behind it. -/
def segment (b : Boundary) (content : Bytes) : Bytes :=
  Bytes.crlf ++ content ++ b.delimiter

/-- What stands behind the last delimiter of a body. -/
def ending : Bytes :=
  Bytes.dashes ++ Bytes.crlf

theorem closing_ne_nil (b : Boundary) (parts : List Handle) : b.closing parts ≠ [] := by
  cases parts with
  | nil => exact List.cons_ne_nil _ _
  | cons handle rest => exact List.cons_ne_nil _ _

theorem layout_ne_nil (b : Boundary) (parts : List Handle) : b.layout parts ≠ [] := by
  cases parts with
  | nil => exact List.cons_ne_nil _ _
  | cons handle rest => exact List.cons_ne_nil _ _

theorem length_closing (b : Boundary) (parts : List Handle) :
    (b.closing parts).length = Traversal.pieceCount parts := by
  induction parts with
  | nil => rfl
  | cons handle rest ih =>
      rw [closing, List.length_cons, List.length_append, ih, Traversal.pieceCount]
      omega

/-- A body has as many pieces whether or not a line stands in front of it. -/
theorem length_layout (b : Boundary) (parts : List Handle) :
    (b.layout parts).length = Traversal.pieceCount parts := by
  cases parts with
  | nil => rfl
  | cons handle rest =>
      rw [layout, List.length_cons, List.length_append, length_closing, Traversal.pieceCount]
      omega

theorem flatten_closing (b : Boundary) (parts : List Handle) :
    (b.closing parts).flatten
      = b.delimiter ++ ((parts.map fun h => b.segment h.part.content).flatten ++ ending) := by
  induction parts with
  | nil =>
      simp only [closing, last, delimiter, ending, List.flatten_cons, List.flatten_nil,
        List.map_nil, List.nil_append, List.append_nil, List.append_assoc]
  | cons handle rest ih =>
      rw [closing, List.flatten_cons, List.flatten_append, ih]
      simp only [middle, delimiter, segment, Part.content, List.map_cons, List.flatten_cons,
        List.append_assoc]

/-- A body joined is the mark, one segment for each part, and the ending. The
    lines of the layout are cut elsewhere: a line ending that a line begins or
    ends with goes to the parts on either side. -/
theorem flatten_layout (b : Boundary) (parts : List Handle) :
    (b.layout parts).flatten
      = b.mark ++ ((parts.map fun h => b.segment h.part.content).flatten ++ ending) := by
  cases parts with
  | nil =>
      simp only [layout, only, ending, List.flatten_cons, List.flatten_nil, List.map_nil,
        List.nil_append, List.append_nil, List.append_assoc]
  | cons handle rest =>
      rw [layout, List.flatten_cons, List.flatten_append, flatten_closing]
      simp only [first, delimiter, segment, Part.content, List.map_cons, List.flatten_cons,
        List.append_assoc]

end Boundary

namespace Traversal

/-- The pieces a traversal has yet to yield. -/
def ahead (t : Traversal) : List Bytes :=
  match t.position with
  | .start => t.boundary.layout t.parts
  | .content part chunk =>
    match t.parts[part]? with
    | none => []
    | some handle =>
      handle.part.chunks.drop chunk ++ t.boundary.closing (t.parts.drop (part + 1))
  | .done => []

/-- The position lies within the parts. -/
def InRange (t : Traversal) : Prop :=
  match t.position with
  | .start => True
  | .content part chunk =>
    ∃ handle, t.parts[part]? = some handle ∧ chunk ≤ handle.part.chunks.length
  | .done => True

/-- All that a step can do, by where it is taken from: the position it leads to
    and the piece it yields. -/
inductive Leads (t : Traversal) : Position → Bytes → Prop where
  /-- The one line of an empty body. -/
  | only (hstart : t.position = .start) (hparts : t.parts = []) :
      t.Leads .done t.boundary.only
  /-- The line in front of the first part. -/
  | first (hstart : t.position = .start) (hparts : t.parts ≠ []) :
      t.Leads (.content 0 0) t.boundary.first
  /-- A piece of a part. -/
  | chunk (part chunk : Nat) (handle : Handle) (bytes : Bytes)
      (hposition : t.position = .content part chunk) (hpart : t.parts[part]? = some handle)
      (hchunk : handle.part.chunks[chunk]? = some bytes) :
      t.Leads (.content part (chunk + 1)) bytes
  /-- The line behind a part that is used up, if another part follows it. -/
  | middle (part chunk : Nat) (handle : Handle)
      (hposition : t.position = .content part chunk) (hpart : t.parts[part]? = some handle)
      (hchunk : handle.part.chunks[chunk]? = none) (hnext : part + 1 < t.parts.length) :
      t.Leads (.content (part + 1) 0) t.boundary.middle
  /-- The line behind the last part. -/
  | last (part chunk : Nat) (handle : Handle)
      (hposition : t.position = .content part chunk) (hpart : t.parts[part]? = some handle)
      (hchunk : handle.part.chunks[chunk]? = none) (hend : t.parts.length ≤ part + 1) :
      t.Leads .done t.boundary.last

theorem leads_of_step? (t : Traversal) (position : Position) (bytes : Bytes)
    (h : t.step? = some (position, bytes)) : t.Leads position bytes := by
  rcases hposition : t.position with _ | ⟨part, chunk⟩ | _
  · by_cases hparts : t.parts = []
    · simp only [step?, hposition, hparts, if_true, Option.some.injEq, Prod.mk.injEq] at h
      rcases h with ⟨rfl, rfl⟩
      exact .only hposition hparts
    · simp only [step?, hposition, hparts, if_false, Option.some.injEq, Prod.mk.injEq] at h
      rcases h with ⟨rfl, rfl⟩
      exact .first hposition hparts
  · rcases hpart : t.parts[part]? with _ | handle
    · simp only [step?, hposition, hpart, reduceCtorEq] at h
    rcases hchunk : handle.part.chunks[chunk]? with _ | piece
    · -- The part is used up, so what follows it decides.
      by_cases hnext : part + 1 < t.parts.length
      · simp only [step?, hposition, hpart, hchunk, hnext, if_true, Option.some.injEq,
          Prod.mk.injEq] at h
        rcases h with ⟨rfl, rfl⟩
        exact .middle part chunk handle hposition hpart hchunk hnext
      · simp only [step?, hposition, hpart, hchunk, hnext, if_false, Option.some.injEq,
          Prod.mk.injEq] at h
        rcases h with ⟨rfl, rfl⟩
        exact .last part chunk handle hposition hpart hchunk (Nat.le_of_not_lt hnext)
    · simp only [step?, hposition, hpart, hchunk, Option.some.injEq, Prod.mk.injEq] at h
      rcases h with ⟨rfl, rfl⟩
      exact .chunk part chunk handle piece hposition hpart hchunk
  · simp only [step?, hposition, reduceCtorEq] at h

/-- What one step yields and where it leads. A piece is taken off what is
    ahead, the position stays in range, and all else is as it was but for what
    is left to count. -/
theorem step?_eq_some (t : Traversal) (position : Position) (bytes : Bytes)
    (h : t.step? = some (position, bytes)) :
    t.ahead = bytes :: { t with position }.ahead
      ∧ { t with position }.InRange := by
  cases leads_of_step? t position bytes h with
  | only hstart hparts =>
      refine ⟨?_, trivial⟩
      simp only [ahead, hstart, hparts, Boundary.layout]
  | first hstart hparts =>
      rcases List.exists_cons_of_ne_nil hparts with ⟨handle, rest, hcons⟩
      refine ⟨?_, handle, by rw [hcons, List.getElem?_cons_zero], Nat.zero_le _⟩
      simp only [ahead, hstart, hcons, Boundary.layout, List.getElem?_cons_zero, List.drop_zero,
        Nat.zero_add, List.drop_succ_cons]
  | chunk part chunk handle bytes hposition hpart hchunk =>
      -- The rest of the part is still ahead.
      rcases List.getElem?_eq_some_iff.mp hchunk with ⟨hlt, hpiece⟩
      refine ⟨?_, handle, hpart, hlt⟩
      simp only [ahead, hposition, hpart]
      rw [List.drop_eq_getElem_cons hlt, hpiece, List.cons_append]
  | middle part chunk handle hposition hpart hchunk hnext =>
      have hdrop : handle.part.chunks.drop chunk = [] :=
        List.drop_eq_nil_of_le (List.getElem?_eq_none_iff.mp hchunk)
      have hget := List.getElem?_eq_getElem hnext
      refine ⟨?_, _, hget, Nat.zero_le _⟩
      simp only [ahead, hposition, hpart, hdrop, hget, List.nil_append, List.drop_zero]
      rw [List.drop_eq_getElem_cons hnext, Boundary.closing]
  | last part chunk handle hposition hpart hchunk hend =>
      have hdrop : handle.part.chunks.drop chunk = [] :=
        List.drop_eq_nil_of_le (List.getElem?_eq_none_iff.mp hchunk)
      refine ⟨?_, trivial⟩
      simp only [ahead, hposition, hpart, hdrop, List.drop_eq_nil_of_le hend, List.nil_append,
        Boundary.closing]

/-- There is no step exactly when nothing is ahead. -/
theorem step?_eq_none_iff (t : Traversal) : t.step? = none ↔ t.ahead = [] := by
  constructor
  · intro h
    rcases t with ⟨b, parts, position, remaining, closed⟩
    cases position with
    | start =>
        by_cases hparts : parts = []
        · simp only [step?, hparts, if_true, reduceCtorEq] at h
        · simp only [step?, hparts, if_false, reduceCtorEq] at h
    | content part chunk =>
        rcases hpart : parts[part]? with _ | handle
        · simp only [ahead, hpart]
        · simp only [step?, hpart] at h
          split at h
          · simp only [reduceCtorEq] at h
          · split at h <;> simp only [reduceCtorEq] at h
    | done => rfl
  · intro h
    rcases hstep : t.step? with _ | ⟨position, bytes⟩
    · rfl
    · -- A step would have something to take off.
      rw [(step?_eq_some t position bytes hstep).1] at h
      exact absurd h (List.cons_ne_nil _ _)

theorem step?_of_next? (t t' : Traversal) (bytes : Bytes) (h : t.next? = some (bytes, t')) :
    ∃ position, t.step? = some (position, bytes)
      ∧ t' = { t with position, remaining := t.remaining - bytes.length } := by
  rcases hstep : t.step? with _ | ⟨position, piece⟩
  · simp only [next?, hstep, reduceCtorEq] at h
  · simp only [next?, hstep, Option.some.injEq, Prod.mk.injEq] at h
    rcases h with ⟨rfl, rfl⟩
    exact ⟨position, rfl, rfl⟩

/-- A step takes one piece off what is ahead. The position stays in range, the
    piece is taken off what is left to count, and all else is as it was. -/
theorem ahead_of_next? (t t' : Traversal) (bytes : Bytes) (h : t.next? = some (bytes, t')) :
    t.ahead = bytes :: t'.ahead ∧ t'.InRange
      ∧ t'.boundary = t.boundary ∧ t'.parts = t.parts ∧ t'.closed = t.closed
      ∧ t'.remaining = t.remaining - bytes.length := by
  rcases step?_of_next? t t' bytes h with ⟨position, hstep, rfl⟩
  -- What is ahead and what is in range do not depend on the count.
  exact ⟨(step?_eq_some t position bytes hstep).1, (step?_eq_some t position bytes hstep).2,
    rfl, rfl, rfl, rfl⟩

/-- There is no next piece exactly when nothing is ahead. -/
theorem next?_eq_none_iff (t : Traversal) : t.next? = none ↔ t.ahead = [] := by
  rw [← step?_eq_none_iff]
  rcases hstep : t.step? with _ | ⟨position, piece⟩
  · simp only [next?, hstep]
  · simp only [next?, hstep, reduceCtorEq]

/-- A traversal in range says that there is a next piece exactly when there
    is one. -/
theorem hasNext_eq_false_iff (t : Traversal) (h : t.InRange) :
    t.hasNext = false ↔ t.ahead = [] := by
  rcases t with ⟨b, parts, position, remaining, closed⟩
  cases position with
  | start =>
      refine ⟨fun hno => ?_, fun hnil => absurd hnil (b.layout_ne_nil parts)⟩
      simp only [hasNext, bne_eq_false_iff_eq, reduceCtorEq] at hno
  | content part chunk =>
      rcases h with ⟨handle, hpart, -⟩
      refine ⟨fun hno => ?_, fun hnil => ?_⟩
      · simp only [hasNext, bne_eq_false_iff_eq, reduceCtorEq] at hno
      · -- Behind any part there is at least the line at the end.
        simp only [ahead, hpart, List.append_eq_nil_iff] at hnil
        exact absurd hnil.2 (b.closing_ne_nil _)
  | done => exact ⟨fun _ => rfl, fun _ => rfl⟩

/-- So many steps yield so many pieces of what is ahead, and leave the rest
    of it. What is left to count goes down by what was yielded, and all else is
    as it was. -/
theorem take_eq (n : Nat) (t : Traversal) :
    (t.take n).1 = t.ahead.take n ∧ (t.take n).2.ahead = t.ahead.drop n
      ∧ (t.InRange → (t.take n).2.InRange)
      ∧ (t.take n).2.boundary = t.boundary ∧ (t.take n).2.parts = t.parts
      ∧ (t.take n).2.closed = t.closed
      ∧ (t.take n).2.remaining = t.remaining - Bytes.total (t.take n).1 := by
  induction n generalizing t with
  | zero => exact ⟨rfl, rfl, id, rfl, rfl, rfl, rfl⟩
  | succ n ih =>
      rcases hnext : t.next? with _ | ⟨bytes, t'⟩
      · have hnil := (next?_eq_none_iff t).mp hnext
        simp only [take, hnext, hnil, List.take_nil, List.drop_nil, Bytes.total_nil, Nat.sub_zero]
        exact ⟨trivial, trivial, id, trivial, trivial, trivial, trivial⟩
      · -- The first piece comes off here, and the others by induction.
        rcases ahead_of_next? t t' bytes hnext with
          ⟨hahead, hrange, hboundary, hparts, hclosed, hremaining⟩
        rcases ih t' with ⟨hfst, hsnd, hrange', hboundary', hparts', hclosed', hremaining'⟩
        simp only [take, hnext]
        refine ⟨?_, ?_, fun _ => hrange' hrange, hboundary'.trans hboundary,
          hparts'.trans hparts, hclosed'.trans hclosed, ?_⟩
        · rw [hfst, hahead, List.take_succ_cons]
        · rw [hsnd, hahead, List.drop_succ_cons]
        · rw [hremaining', hremaining, Bytes.total_cons, Nat.sub_sub]

theorem take_fst (n : Nat) (t : Traversal) : (t.take n).1 = t.ahead.take n :=
  (take_eq n t).1

theorem ahead_take (n : Nat) (t : Traversal) : (t.take n).2.ahead = t.ahead.drop n :=
  (take_eq n t).2.1

theorem inRange_take (n : Nat) (t : Traversal) (h : t.InRange) : (t.take n).2.InRange :=
  (take_eq n t).2.2.1 h

@[simp] theorem parts_take (n : Nat) (t : Traversal) : (t.take n).2.parts = t.parts :=
  (take_eq n t).2.2.2.2.1

theorem remaining_take (n : Nat) (t : Traversal) :
    (t.take n).2.remaining = t.remaining - Bytes.total (t.take n).1 :=
  (take_eq n t).2.2.2.2.2.2

/-- Taking some pieces and then more is taking all of them. -/
theorem take_add (m n : Nat) (t : Traversal) :
    t.take (m + n) = ((t.take m).1 ++ ((t.take m).2.take n).1, ((t.take m).2.take n).2) := by
  induction m generalizing t with
  | zero => simp only [Nat.zero_add, take, List.nil_append]
  | succ m ih =>
      rw [Nat.succ_add]
      rcases hnext : t.next? with _ | ⟨bytes, t'⟩
      · -- Where nothing is left, asking for more changes nothing.
        have hstay : t.take n = ([], t) := by
          cases n with
          | zero => rfl
          | succ n => simp only [take, hnext]
        simp only [take, hnext, hstay, List.append_nil]
      · simp only [take, hnext, ih t', List.cons_append]

/-- Asking for more pieces than there are leads no further than asking for as
    many as were yielded. -/
theorem take_length (n : Nat) (t : Traversal) : t.take (t.take n).1.length = t.take n := by
  induction n generalizing t with
  | zero => rfl
  | succ n ih =>
      rcases hnext : t.next? with _ | ⟨bytes, t'⟩
      · simp only [take, hnext, List.length_nil]
      · simp only [take, hnext, List.length_cons, ih t']

/-- Whether the parts have been released makes no difference to a traversal. -/
theorem take_setClosed (n : Nat) (t : Traversal) (closed : Bool) :
    ({ t with closed } : Traversal).take n
      = ((t.take n).1, { (t.take n).2 with closed }) := by
  induction n generalizing t with
  | zero => rfl
  | succ n ih =>
      -- One step does not look at it, and so no number of steps does.
      have hnext : ({ t with closed } : Traversal).next?
          = t.next?.map fun next => (next.1, { next.2 with closed }) := by
        have hstep : ({ t with closed } : Traversal).step? = t.step? := rfl
        rcases h : t.step? with _ | ⟨position, bytes⟩
        · simp only [next?, hstep, h, Option.map_none]
        · simp only [next?, hstep, h, Option.map_some]
      rcases h : t.next? with _ | ⟨bytes, t'⟩
      · simp only [take, hnext, h, Option.map_none]
      · simp only [take, hnext, h, Option.map_some, ih t']

theorem next_eq_take (t : Traversal) : t.next = ((t.take 1).1.head?, (t.take 1).2) := by
  rcases hnext : t.next? with _ | ⟨bytes, t'⟩
  · simp only [next, take, hnext, List.head?_nil]
  · simp only [next, take, hnext, List.head?_cons]

theorem nextChunk_eq_take (t : Traversal) :
    t.nextChunk
      = ((t.take 1).1.head?.elim (.error .exhausted) .ok, (t.take 1).2) := by
  rcases hnext : t.next? with _ | ⟨bytes, t'⟩
  · simp only [nextChunk, take, hnext, List.head?_nil, Option.elim_none]
  · simp only [nextChunk, take, hnext, List.head?_cons, Option.elim_some]

theorem pollFrame_eq_take (t : Traversal) :
    t.pollFrame = ((t.take 1).1.head?.map .data, (t.take 1).2) := by
  rcases hnext : t.next? with _ | ⟨bytes, t'⟩
  · simp only [pollFrame, take, hnext, List.head?_nil, Option.map_none]
  · simp only [pollFrame, take, hnext, List.head?_cons, Option.map_some]

theorem take_one_cases (t : Traversal) :
    t.take 1 = ([], t) ∨ ∃ bytes t', t.take 1 = ([bytes], t') := by
  rcases hnext : t.next? with _ | ⟨bytes, t'⟩
  · exact Or.inl (by simp only [take, hnext])
  · exact Or.inr ⟨bytes, t', by simp only [take, hnext]⟩

/-- A part and the parts behind it are no more than all parts. -/
theorem pieceCount_drop_le (parts : List Handle) (part : Nat) (handle : Handle)
    (h : parts[part]? = some handle) :
    handle.part.chunks.length + pieceCount (parts.drop (part + 1)) ≤ pieceCount parts := by
  induction parts generalizing part with
  | nil => simp only [List.getElem?_nil, reduceCtorEq] at h
  | cons first rest ih =>
      cases part with
      | zero =>
          simp only [List.getElem?_cons_zero, Option.some.injEq] at h
          simp only [List.drop_succ_cons, List.drop_zero, pieceCount, h]
          omega
      | succ part =>
          rw [List.getElem?_cons_succ] at h
          have hrest := ih part h
          simp only [List.drop_succ_cons, pieceCount]
          omega

/-- No more is ahead than a traversal of the parts yields from its beginning,
    so draining asks often enough wherever the traversal stands. -/
theorem length_ahead_le (t : Traversal) : t.ahead.length ≤ pieceCount t.parts := by
  rcases t with ⟨b, parts, position, remaining, closed⟩
  cases position with
  | start => exact Nat.le_of_eq (b.length_layout parts)
  | content part chunk =>
      simp only [ahead]
      rcases hpart : parts[part]? with _ | handle
      · exact Nat.zero_le _
      · -- The parts in front of this one have been yielded already.
        have hrest := pieceCount_drop_le parts part handle hpart
        simp only [List.length_append, List.length_drop, b.length_closing]
        omega
  | done => exact Nat.zero_le _

/-- Draining yields all that is ahead. -/
theorem drain_fst (t : Traversal) : t.drain.1 = t.ahead := by
  rw [drain, take_fst, List.take_of_length_le (length_ahead_le t)]

theorem ahead_drain (t : Traversal) : t.drain.2.ahead = [] := by
  rw [drain, ahead_take, List.drop_of_length_le (length_ahead_le t)]

theorem inRange_iterate (body : Body) : body.iterate.InRange := trivial

/-- A traversal that was begun on a body is at its end once it is drained. -/
theorem hasNext_drain_iterate (body : Body) : body.iterate.drain.2.hasNext = false :=
  (hasNext_eq_false_iff _ (inRange_take _ _ (inRange_iterate body))).mpr (ahead_drain _)

/-- Draining a traversal that was begun on a body yields the layout of the
    body. -/
theorem drain_iterate (body : Body) :
    body.iterate.drain.1 = body.boundary.layout body.parts :=
  drain_fst body.iterate

end Traversal

end FormData
