import FormData.Proofs.Spelling
import FormData.Proofs.Token
import Mathlib.Data.List.Infix

/-!
# Receiving a Body

Reading the parts back out of the octets of a body.

A receiver knows the token and nothing else (`receive?`). It looks for the
delimiter, a line ending with two dashes and the token behind it, and takes what
stands in front of the first one for the content of a part. That is all a receiver
can do, since a body says nowhere how long a part is, so a part that holds the
delimiter is cut short.
The statement of this module is that nothing else can go wrong: what was
written is read back exactly when no part holds the delimiter.

One direction is about the reader alone. Whatever it returns was cut at first
occurrences, so nothing it returns holds the delimiter
(`not_infix_of_mem_receiveParts?`). The other is about overlap. A content that
holds no delimiter might still end with the beginning of one, and the delimiter
behind it might complete that. It cannot: a delimiter has a carriage return at
its head and none behind it, so no occurrence starts inside another
(`dropInfix?_append`).

## Main definitions

* `receiveParts?`: Reading parts behind a delimiter.
* `receive?`: Reading the parts of a body.

## Theorems

* `dropInfix?_append`: A delimiter that does not overlap itself is found where
  it was put.
* `receiveParts?_segments`: Segments are read back if no content holds the
  delimiter.
* `receive?_drain_iff`: A body is read back exactly when no part holds the
  delimiter.
-/

namespace FormData

/-- A pattern whose head occurs nowhere else in it does not overlap itself: if
    one occurrence starts and another follows some octets later, the first is
    over by then. Otherwise the head of the second would lie in the tail of the
    first. -/
theorem prefix_of_no_overlap (head : UInt8) (tail between rest after : Bytes)
    (hhead : head ∉ tail) (hne : between ≠ [])
    (h : between ++ head :: tail ++ rest = head :: tail ++ after) :
    head :: tail <+: between := by
  by_cases hfits : (head :: tail).length ≤ between.length
  · have hbetween : between <+: head :: tail ++ after :=
      ⟨head :: tail ++ rest, by rw [← List.append_assoc, h]⟩
    exact List.prefix_of_prefix_length_le (List.prefix_append _ _) hbetween hfits
  · exfalso
    cases between with
    | nil => exact hne rfl
    | cons first more =>
        simp only [List.cons_append, List.append_assoc, List.cons.injEq] at h
        simp only [List.length_cons, Nat.add_le_add_iff_right] at hfits
        -- The octet where the second occurrence starts, seen from both sides.
        have hget : (more ++ head :: (tail ++ rest))[more.length]? = some head := by
          rw [List.getElem?_append_right (Nat.le_refl _), Nat.sub_self, List.getElem?_cons_zero]
        rw [h.2, List.getElem?_append_left (by omega)] at hget
        exact hhead (List.mem_of_getElem? hget)

/-- A pattern whose head occurs nowhere else in it is found where it was put,
    unless what stands in front of it holds it too. -/
theorem dropInfix?_append (head : UInt8) (tail content rest : Bytes) (hhead : head ∉ tail)
    (hfree : ¬ head :: tail <:+: content) :
    (content ++ head :: tail ++ rest).dropInfix? (head :: tail) = some (content, rest) := by
  rw [List.dropInfix?_eq_some_iff]
  refine ⟨⟨head :: tail, rfl, beq_self_eq_true _⟩, ?_⟩
  intro before found after hsplit hfound
  rw [beq_iff_eq] at hfound
  rw [hfound] at hsplit
  by_contra hshort
  -- An earlier occurrence has a proper beginning of `content` in front of it.
  have hleft : before <+: content ++ head :: tail ++ rest :=
    ⟨head :: tail ++ after, by rw [hsplit, List.append_assoc]⟩
  have hright : content <+: content ++ head :: tail ++ rest :=
    ⟨head :: tail ++ rest, by rw [List.append_assoc]⟩
  rcases List.prefix_of_prefix_length_le hleft hright (by omega) with ⟨between, hbetween⟩
  have hne : between ≠ [] := by
    intro hnil
    rw [← hbetween, hnil, List.append_nil] at hshort
    exact hshort (Nat.le_refl _)
  have hover : between ++ head :: tail ++ rest = head :: tail ++ after := by
    rw [← hbetween] at hsplit
    simpa only [List.append_assoc, List.append_cancel_left_eq] using hsplit
  rcases prefix_of_no_overlap head tail between rest after hhead hne hover with ⟨more, hmore⟩
  exact hfree ⟨before, more, by rw [List.append_assoc, hmore, hbetween]⟩

/-- What stands in front of the first occurrence of a pattern does not hold
    it. -/
theorem not_infix_of_dropInfix? (input pattern before after : Bytes) (hne : pattern ≠ [])
    (h : input.dropInfix? pattern = some (before, after)) : ¬ pattern <:+: before := by
  rcases List.dropInfix?_eq_some_iff.mp h with ⟨⟨found, hinput, -⟩, hfirst⟩
  rintro ⟨left, right, hbefore⟩
  -- An occurrence in front would be an earlier one, and there is none.
  have hlength : 0 < pattern.length := List.length_pos_iff.mpr hne
  have hle := hfirst left pattern (right ++ found ++ after)
    (by rw [hinput, ← hbefore]; simp only [List.append_assoc]) (beq_self_eq_true _)
  rw [← hbefore] at hle
  simp only [List.length_append, ge_iff_le] at hle
  omega

/-- What stands behind the first occurrence of a pattern is no longer than the
    input. -/
theorem length_le_of_dropInfix? (input pattern before after : Bytes)
    (h : input.dropInfix? pattern = some (before, after)) : after.length ≤ input.length := by
  rcases List.dropInfix?_eq_some_iff.mp h with ⟨⟨found, hinput, -⟩, -⟩
  rw [hinput]
  simp only [List.length_append]
  omega

/-- What stands behind a line ending is shorter than the input. -/
theorem length_lt_of_dropPrefix? (input rest : Bytes)
    (h : input.dropPrefix? (utf8 "\r\n") = some rest) : rest.length < input.length := by
  rcases List.dropPrefix?_eq_some_iff.mp h with ⟨found, hinput, hfound⟩
  rw [beq_iff_eq] at hfound
  rw [hinput, hfound, ← Bytes.crlf_eq, List.length_append, Bytes.crlf, List.length_cons]
  omega

/-- Read parts behind a delimiter of a token. Either the body ends here, with two
    dashes and a line ending, or a line ending follows and then the content of a
    part, up to the first delimiter. -/
def receiveParts? (token : String) (input : Bytes) : Option (List Bytes) :=
  if input = utf8 "--\r\n" then some []
  else
    match _ : input.dropPrefix? (utf8 "\r\n") with
    | none => none
    | some rest =>
      match _ : rest.dropInfix? (utf8 ("\r\n--" ++ token)) with
      | none => none
      | some (content, after) => (receiveParts? token after).map (content :: ·)
termination_by input.length
decreasing_by
  have hafter := length_le_of_dropInfix? rest (utf8 ("\r\n--" ++ token)) content after ‹_›
  have hrest := length_lt_of_dropPrefix? input rest ‹_›
  omega

/-- Read the parts of a body, which begins with two dashes and the token. -/
def receive? (token : String) (input : Bytes) : Option (List Bytes) :=
  (input.dropPrefix? (utf8 ("--" ++ token))).bind (receiveParts? token)

/-- One part at a time, without the facts that the recursion carries along. -/
theorem receiveParts?_eq (token : String) (input : Bytes) (hne : input ≠ utf8 "--\r\n") :
    receiveParts? token input = (input.dropPrefix? (utf8 "\r\n")).bind fun rest =>
      (rest.dropInfix? (utf8 ("\r\n--" ++ token))).bind fun cut =>
        (receiveParts? token cut.2).map (cut.1 :: ·) := by
  rw [receiveParts?, if_neg hne]
  split
  · rename_i hline
    rw [hline, Option.bind_none]
  · rename_i rest hline
    rw [hline, Option.bind_some]
    split
    · rename_i hcut
      rw [hcut, Option.bind_none]
    · rename_i content after hcut
      rw [hcut, Option.bind_some]

/-- Whatever is read holds no delimiter, since it was cut at the first one. -/
theorem not_infix_of_mem_receiveParts? (token : String) (input : Bytes)
    (contents : List Bytes) (h : receiveParts? token input = some contents) :
    ∀ c ∈ contents, ¬ utf8 ("\r\n--" ++ token) <:+: c := by
  have hne : utf8 ("\r\n--" ++ token) ≠ [] := by
    rw [utf8_append]
    exact List.append_ne_nil_of_left_ne_nil (by decide) _
  fun_induction receiveParts? token input generalizing contents with
  | case1 =>
      simp only [Option.some.injEq] at h
      rw [← h]
      exact fun c hc => absurd hc List.not_mem_nil
  | case2 => simp only [reduceCtorEq] at h
  | case3 => simp only [reduceCtorEq] at h
  | case4 input _ rest _ content after hcut ih =>
      rcases Option.map_eq_some_iff.mp h with ⟨later, hlater, hcontents⟩
      intro c hc
      rw [← hcontents] at hc
      rcases List.mem_cons.mp hc with rfl | hc
      · exact not_infix_of_dropInfix? rest _ c after hne hcut
      · exact ih later hlater c hc

/-- The delimiter occurs where it was put and nowhere earlier, because a
    carriage return stands at its head and nowhere else in it. -/
theorem dropInfix?_delimiter (b : Boundary) (content rest : Bytes)
    (hfree : ¬ b.delimiter <:+: content) :
    (content ++ b.delimiter ++ rest).dropInfix? b.delimiter = some (content, rest) := by
  -- The one carriage return of the delimiter is the one it begins with.
  have htail : Bytes.cr ∉ Bytes.lf :: b.mark := by
    intro hmem
    rcases List.mem_cons.mp hmem with hlf | hmark
    · exact absurd hlf (by decide)
    · exact b.cr_not_mem_mark hmark
  exact dropInfix?_append Bytes.cr (Bytes.lf :: b.mark) content rest htail hfree

/-- Segments of contents that hold no delimiter are read back. -/
theorem receiveParts?_segments (b : Boundary) (contents : List Bytes)
    (hfree : ∀ c ∈ contents, ¬ b.delimiter <:+: c) :
    receiveParts? b.token ((contents.map b.segment).flatten ++ Boundary.ending)
      = some contents := by
  induction contents with
  | nil =>
      rw [receiveParts?, List.map_nil, List.flatten_nil, List.nil_append,
        if_pos Boundary.ending_eq]
  | cons content rest ih =>
      have hrest := ih fun c hc => hfree c (List.mem_cons_of_mem _ hc)
      have hcut := dropInfix?_delimiter b content
        ((rest.map b.segment).flatten ++ Boundary.ending) (hfree content List.mem_cons_self)
      have hsegment : ((content :: rest).map b.segment).flatten ++ Boundary.ending
          = Bytes.crlf ++ (content ++ b.delimiter
            ++ ((rest.map b.segment).flatten ++ Boundary.ending)) := by
        simp only [List.map_cons, List.flatten_cons, Boundary.segment, List.append_assoc]
      rw [hsegment]
      generalize (rest.map b.segment).flatten ++ Boundary.ending = after at hcut hrest
      have hline : (Bytes.crlf ++ (content ++ b.delimiter ++ after)).dropPrefix? Bytes.crlf
          = some (content ++ b.delimiter ++ after) :=
        List.dropPrefix?_append_of_beq _ (beq_self_eq_true _)
      -- A segment begins with a line ending, which the ending of a body does not.
      have hnot : Bytes.crlf ++ (content ++ b.delimiter ++ after) ≠ Boundary.ending := by
        intro heq
        exact absurd (List.cons.inj heq).1 (by decide)
      rw [Boundary.ending_eq] at hnot
      rw [receiveParts?_eq b.token _ hnot, ← Bytes.crlf_eq, ← b.delimiter_eq, hline,
        Option.bind_some, hcut, Option.bind_some, hrest, Option.map_some]

/-- Framing round trip. Reading what a full drain of a body yields, with nothing
    known but the token, returns the contents of its parts, each one's pieces
    joined, if and only if none of them holds the delimiter: a line ending, two
    dashes and the token. -/
theorem receive?_drain_iff (body : Body) :
    let token := body.boundary.token
    receive? token body.iterate.drain.1.flatten
        = some (body.parts.map fun h => h.part.content)
      ↔ ∀ h ∈ body.parts, ¬ utf8 ("\r\n--" ++ token) <:+: h.part.content := by
  intro token
  have hread : receive? token body.iterate.drain.1.flatten
      = receiveParts? token
          (((body.parts.map fun h => h.part.content).map body.boundary.segment).flatten
            ++ Boundary.ending) := by
    rw [Traversal.drain_iterate, Boundary.flatten_layout, receive?, Boundary.mark_eq,
      List.dropPrefix?_append_of_beq _ (beq_self_eq_true _), Option.bind_some, List.map_map]
    rfl
  rw [hread]
  constructor
  · intro h handle hmem
    exact not_infix_of_mem_receiveParts? _ _ _ h _ (List.mem_map_of_mem hmem)
  · intro h
    refine receiveParts?_segments _ _ fun c hc => ?_
    rcases List.mem_map.mp hc with ⟨handle, hmem, rfl⟩
    rw [Boundary.delimiter_eq]
    exact h handle hmem

-- Contents that end with as much of a delimiter as there can be, and an empty one.
example :
    let b : Boundary := ⟨"-", by decide⟩
    let parts : List Handle :=
      [⟨0, .custom ⟨"a", [[13], [10, 45, 45]], 4, false⟩⟩, ⟨1, .custom ⟨"b", [], 0, false⟩⟩]
    receive? b.token (b.layout parts).flatten = some [[13, 10, 45, 45], []] := by
  decide +kernel

end FormData
