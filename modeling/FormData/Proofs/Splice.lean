import FormData.Proofs.HandleList
import FormData.Proofs.Length
import FormData.Proofs.Spelling

/-!
# Edits as Splices

What an edit of a body does to the octets that are written.

A traversal writes one of four lines at each place, and which one depends on
what comes before and behind. Taking the first part out turns a middle line into
a first one, and taking out the only part leaves one line where there were two.
Seen as lines, edits are therefore not local. Seen as octets they are. A line
ending at the front of a line belongs as well to the part before it, and one at
the end of a line to the part behind it. Cut there, a body is its mark, one
segment for each part and four octets at the end, and the same holds whatever
the parts are (`Body.written_eq`).

An edit of the list of parts is then an edit of a list of segments, which does
not move anything but what it adds or takes away. `Bytes.splice` says that in
octets: everything in front of a stretch and everything behind it is as it was.

## Main definitions

* `Bytes.stretch`: So many octets from an offset.
* `Bytes.splice`: Octets with a stretch of them replaced.
* `Body.written`: The octets that draining a traversal yields.
* `Boundary.segmentStart`: Where the segment of a part begins.

## Theorems

* `Body.written_eq`: The octets of a body are a mark, segments and an ending.
* `Body.written_around`: The octets in front of some parts, theirs, and those
  behind.
* `Body.written_edits`: What adding, taking out and replacing a part do.
-/

namespace FormData

namespace Bytes

/-- So many octets from an offset. -/
def stretch (bytes : Bytes) (offset length : Nat) : Bytes :=
  (bytes.drop offset).take length

/-- Octets with a stretch of them replaced by others. -/
def splice (bytes : Bytes) (offset length : Nat) (new : Bytes) : Bytes :=
  bytes.take offset ++ new ++ bytes.drop (offset + length)

theorem stretch_append (before old after : Bytes) :
    stretch (before ++ old ++ after) before.length old.length = old := by
  rw [stretch, List.append_assoc, List.drop_left, List.take_left]

theorem splice_append (before old after new : Bytes) :
    splice (before ++ old ++ after) before.length old.length new = before ++ new ++ after := by
  rw [splice, ← List.length_append, List.drop_left, List.append_assoc before old after,
    List.take_left]

end Bytes

namespace Boundary

/-- What parts take up in a body, one segment for each. -/
def segments (b : Boundary) (parts : List Handle) : List Bytes :=
  parts.map fun h => b.segment h.part.content

/-- Where the segment of the part at an index begins in a body: behind the mark
    and the segments of the parts in front of it. -/
def segmentStart (b : Boundary) (parts : List Handle) (i : Nat) : Nat :=
  b.mark.length + Bytes.total (b.segments (parts.take i))

theorem length_segment (b : Boundary) (content : Bytes) :
    (b.segment content).length = b.middle.length + content.length := by
  simp only [segment, delimiter, middle, List.length_append]
  omega

end Boundary

namespace Body

/-- The octets of a body, as a fresh traversal yields them. -/
def written (body : Body) : Bytes :=
  body.iterate.drain.1.flatten

theorem written_eq (body : Body) :
    body.written
      = body.boundary.mark
        ++ ((body.boundary.segments body.parts).flatten ++ Boundary.ending) := by
  rw [written, Traversal.drain_iterate, Boundary.flatten_layout]
  rfl

/-- Parts between others take up what is between the octets of the others. Those
    octets depend on nothing but the boundary and the other parts. -/
theorem written_around (body : Body) (before between after : List Handle)
    (h : body.parts = before ++ between ++ after) :
    body.written
      = (body.boundary.mark ++ (body.boundary.segments before).flatten)
        ++ (body.boundary.segments between).flatten
        ++ ((body.boundary.segments after).flatten ++ Boundary.ending) := by
  rw [written_eq, h]
  simp only [Boundary.segments, List.map_append, List.flatten_append, List.append_assoc]

/-- What is written in front of the part at an index is as long as the start of
    its segment says. -/
theorem length_before (b : Boundary) (parts : List Handle) (i : Nat) :
    (b.mark ++ (b.segments (parts.take i)).flatten).length = b.segmentStart parts i := by
  rw [List.length_append, Bytes.length_flatten, Boundary.segmentStart]

theorem flatten_segments_singleton (b : Boundary) (handle : Handle) :
    (b.segments [handle]).flatten = b.segment handle.part.content := by
  rw [Boundary.segments, List.map_singleton, List.flatten_singleton]

-- A part at an index has those in front of it and those behind it.
theorem parts_around (body : Body) (i : Nat) (handle : Handle)
    (h : body.parts[i]? = some handle) :
    body.parts = body.parts.take i ++ [handle] ++ body.parts.drop (i + 1) := by
  rcases List.getElem?_eq_some_iff.mp h with ⟨hlt, hget⟩
  rw [List.append_assoc, List.singleton_append, ← hget, List.getElem_cons_drop,
    List.take_append_drop]

/-- What is written around the part at an index, by the body itself and by any
    other that has parts in its place. -/
theorem written_in_place (body other : Body) (i : Nat) (old : Handle) (new : List Handle)
    (hold : body.parts[i]? = some old) (hboundary : other.boundary = body.boundary)
    (hnew : other.parts = body.parts.take i ++ new ++ body.parts.drop (i + 1)) :
    ∃ before after, before.length = body.boundary.segmentStart body.parts i
      ∧ body.written = before ++ body.boundary.segment old.part.content ++ after
      ∧ other.written = before ++ (body.boundary.segments new).flatten ++ after := by
  have hbody := written_around body _ _ _ (parts_around body i old hold)
  have hother := written_around other _ _ _ hnew
  rw [flatten_segments_singleton] at hbody
  rw [hboundary] at hother
  exact ⟨_, _, length_before body.boundary body.parts i, hbody, hother⟩

theorem written_add (body : Body) (handle : Handle) :
    (body.add handle).written
      = Bytes.splice body.written (body.written.length - Boundary.ending.length) 0
          (body.boundary.segment handle.part.content) := by
  have hbody : body.written
      = (body.boundary.mark ++ (body.boundary.segments body.parts).flatten)
        ++ [] ++ Boundary.ending := by
    rw [written_eq, List.append_nil, List.append_assoc]
  have hadd : (body.add handle).written
      = (body.boundary.mark ++ (body.boundary.segments body.parts).flatten)
        ++ body.boundary.segment handle.part.content ++ Boundary.ending := by
    rw [written_around (body.add handle) body.parts [handle] []
      (List.append_nil _).symm, flatten_segments_singleton]
    rfl
  have hlength : body.written.length - Boundary.ending.length
      = (body.boundary.mark ++ (body.boundary.segments body.parts).flatten).length := by
    rw [hbody, List.append_nil, List.length_append, Nat.add_sub_cancel]
  rw [hlength, hadd, hbody]
  exact (Bytes.splice_append _ [] _ _).symm

/-- Taking a part out takes its segment out. -/
theorem written_remove? (body left : Body) (handle removed : Handle)
    (h : body.remove? handle = some (removed, left)) :
    ∃ i, body.parts[i]? = some removed ∧ left.parts = body.parts.eraseIdx i
      ∧ (∀ j x, j < i → body.parts[j]? = some x → x.key ≠ handle.key)
      ∧ Bytes.stretch body.written (body.boundary.segmentStart body.parts i)
          (body.boundary.segment removed.part.content).length
        = body.boundary.segment removed.part.content
      ∧ left.written
        = Bytes.splice body.written (body.boundary.segmentStart body.parts i)
            (body.boundary.segment removed.part.content).length [] := by
  rcases of_remove?_eq_some body left handle removed h with
    ⟨before, after, hparts, -, hclear, rfl⟩
  have hget : body.parts[before.length]? = some removed := by
    rw [hparts, List.getElem?_append_right (Nat.le_refl _), Nat.sub_self,
      List.getElem?_cons_zero]
  have herase : body.parts.eraseIdx before.length = before ++ after := by
    rw [hparts, List.eraseIdx_append_of_length_le (Nat.le_refl _), Nat.sub_self,
      List.eraseIdx_cons_zero]
  refine ⟨before.length, hget, herase.symm, fun j x hj hx => ?_, ?_⟩
  · -- What is in front of the occurrence has another key.
    rw [hparts, List.getElem?_append_left hj] at hx
    exact ne_of_beq_false (hclear x (List.mem_of_getElem? hx))
  · rcases written_in_place body { body with
        parts := before ++ after
        length := body.length - charge body.boundary removed.part }
        before.length removed [] hget rfl
        (by rw [List.append_nil, ← List.eraseIdx_eq_take_drop_succ, herase]) with
      ⟨front, behind, hstart, hbody, hleft⟩
    rw [hleft, ← hstart, hbody]
    exact ⟨Bytes.stretch_append _ _ _, (Bytes.splice_append _ _ _ _).symm⟩

/-- Putting another part in the place of one changes its content and neither
    line around it. -/
theorem written_set (body other : Body) (i : Nat) (old new : Handle)
    (hold : body.parts[i]? = some old) (hboundary : other.boundary = body.boundary)
    (hparts : other.parts = body.parts.set i new) :
    other.written
      = Bytes.splice body.written
          (body.boundary.segmentStart body.parts i + Bytes.crlf.length)
          old.part.content.length new.part.content := by
  have hlt : i < body.parts.length := (List.getElem?_eq_some_iff.mp hold).1
  have hnew : other.parts = body.parts.take i ++ [new] ++ body.parts.drop (i + 1) := by
    rw [hparts, List.set_eq_take_append_cons_drop, if_pos hlt, List.append_assoc,
      List.singleton_append]
  rcases written_in_place body other i old [new] hold hboundary hnew with
    ⟨front, behind, hstart, hbody, hother⟩
  -- The line ending in front of the content and the delimiter behind it stay.
  have haround : ∀ content, front ++ body.boundary.segment content ++ behind
      = (front ++ Bytes.crlf) ++ content ++ (body.boundary.delimiter ++ behind) := by
    intro content
    simp only [Boundary.segment, List.append_assoc]
  rw [flatten_segments_singleton, haround] at hother
  rw [haround] at hbody
  rw [← hstart, ← List.length_append, hother, hbody]
  exact (Bytes.splice_append _ _ _ _).symm

/-- Edits are local. The octets of a body are the mark, then for each part in
    order a line ending, its content, a line ending and the mark again, then two
    dashes and a line ending.

    So adding a part puts one segment in front of the last four octets, and
    taking out a part, which is the first of its key, takes out the segment at
    its place, wherever that is and whatever else there is. A segment is as long
    as a middle line and the content of its part. A body that has another part
    in one place, and is otherwise the same, has other octets only where the
    content of that part is. -/
theorem written_edits (body : Body) :
    let b := body.boundary
    let line := utf8 ("--" ++ b.token)
    let start := b.segmentStart body.parts
    body.written
      = line ++ ((body.parts.map fun h => Bytes.crlf ++ h.part.content ++ Bytes.crlf ++ line).flatten
          ++ utf8 "--\r\n")
    ∧ (∀ handle, (body.add handle).written
        = Bytes.splice body.written (body.written.length - 4) 0 (b.segment handle.part.content))
    ∧ (∀ handle removed left, body.remove? handle = some (removed, left) →
        ∃ i, body.parts[i]? = some removed ∧ left.parts = body.parts.eraseIdx i
          ∧ (∀ j h, j < i → body.parts[j]? = some h → h.key ≠ handle.key)
          ∧ Bytes.stretch body.written (start i) (b.segment removed.part.content).length
            = b.segment removed.part.content
          ∧ left.written
            = Bytes.splice body.written (start i) (b.segment removed.part.content).length [])
    ∧ (∀ content, (b.segment content).length = b.middle.length + content.length)
    ∧ ∀ (i : Nat) (old new : Handle) (other : Body), body.parts[i]? = some old →
        other.boundary = b → other.parts = body.parts.set i new →
        other.written
          = Bytes.splice body.written (start i + 2) old.part.content.length
              new.part.content := by
  intro b line start
  refine ⟨?_, written_add body, fun handle removed left => written_remove? body left handle removed,
    b.length_segment, fun i old new other => written_set body other i old new⟩
  have hsegment : (fun h : Handle => Bytes.crlf ++ h.part.content ++ Bytes.crlf ++ line)
      = fun h => b.segment h.part.content := by
    funext h
    simp only [Boundary.segment, Boundary.delimiter, b.mark_eq, line, List.append_assoc]
  rw [hsegment, written_eq, b.mark_eq]
  rfl

/-- Of a part that is in a body twice, the first occurrence goes, with the
    segment behind the mark. Another field in the place of the one behind it
    changes what stands there. -/
theorem written_remove_twice :
    let own : Handle := ⟨0, .custom ⟨"own", [[104], [], [105]], 3, true⟩⟩
    let field : Handle := ⟨1, .field (FieldPart.text "a" "2")⟩
    let longer : Handle := ⟨2, .field (FieldPart.text "a" "22")⟩
    let body := (empty ⟨"B", by decide⟩).editAll [.add own, .add field, .add own]
    let other := (empty ⟨"B", by decide⟩).editAll [.add own, .add longer, .add own]
    (∃ left, body.remove? own = some (own, left)
      ∧ left.written = Bytes.splice body.written 3 9 [])
    ∧ other.written = Bytes.splice body.written 14 45 longer.part.content := by
  intro own field longer body other
  rcases written_edits body with ⟨-, -, hremove, -, hset⟩
  rcases hremove own own _ rfl with ⟨i, -, -, hfirst, -, hleft⟩
  -- Nothing of this key is in front of the first part.
  have hzero : i = 0 := by
    rcases Nat.eq_zero_or_pos i with hi | hi
    · exact hi
    · exact absurd rfl (hfirst 0 own hi rfl)
  have hstart : body.boundary.segmentStart body.parts 0 = 3 := by decide
  have hlength : (body.boundary.segment own.part.content).length = 9 := by decide
  refine ⟨⟨_, rfl, by rw [hleft, hzero, hstart, hlength]⟩, ?_⟩
  have hother := hset 1 field longer other rfl rfl rfl
  have hplace : body.boundary.segmentStart body.parts 1 + 2 = 14 := by decide
  have hold : field.part.content.length = 45 := by decide
  rw [hother, hplace, hold]

end Body

end FormData
