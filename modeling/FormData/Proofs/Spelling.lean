import FormData.Proofs.Calls

/-!
# The Lines Spelled Out

What the lines of a boundary are, for someone who knows the token and the rules
of the wire format.

The lines are built from one another, which is convenient where they are written
and of no use to a reader of what was written. A receiver is told the token and
knows that a delimiter is a line ending, two dashes and the token. So that what a
receiver makes of a body does not rest on how the lines were built, it is stated
with the texts of this module. Each of them is a line with nothing left to
unfold, and each of the lines is shown to be its text once.

## Main definitions

* `framed`: The pieces of a body, from the token alone.

## Theorems

* `Boundary.mark_eq`, `Boundary.delimiter_eq`, `Boundary.ending_eq`: What a
  receiver looks for.
* `Boundary.interleaved_eq_framed`: The pieces of a body are those that the token
  gives.
-/

namespace FormData

/-- The pieces of a body whose parts have these pieces, for a receiver who knows
    the token: the line that is the whole body if there are no parts, and otherwise
    the pieces of each part, with a line in front of the first, between neighbours
    and behind the last. -/
def framed (token : String) (parts : List (List Bytes)) : List Bytes :=
  if parts = [] then [utf8 ("--" ++ token ++ "--\r\n")]
  else
    utf8 ("--" ++ token ++ "\r\n")
      :: ([utf8 ("\r\n--" ++ token ++ "\r\n")].intercalate parts
        ++ [utf8 ("\r\n--" ++ token ++ "--\r\n")])

theorem Bytes.crlf_eq : Bytes.crlf = utf8 "\r\n" := rfl

namespace Boundary

theorem mark_eq (b : Boundary) : b.mark = utf8 ("--" ++ b.token) := by
  rw [utf8_append]
  rfl

theorem delimiter_eq (b : Boundary) : b.delimiter = utf8 ("\r\n--" ++ b.token) := by
  rw [utf8_append]
  rfl

theorem ending_eq : ending = utf8 "--\r\n" := rfl

theorem first_eq (b : Boundary) : b.first = utf8 ("--" ++ b.token ++ "\r\n") := by
  rw [utf8_append, ← mark_eq]
  rfl

theorem middle_eq (b : Boundary) : b.middle = utf8 ("\r\n--" ++ b.token ++ "\r\n") := by
  rw [utf8_append, ← delimiter_eq]
  rfl

theorem only_eq (b : Boundary) : b.only = utf8 ("--" ++ b.token ++ "--\r\n") := by
  rw [utf8_append, ← mark_eq, only, List.append_assoc]
  rfl

theorem last_eq (b : Boundary) : b.last = utf8 ("\r\n--" ++ b.token ++ "--\r\n") := by
  rw [utf8_append, ← delimiter_eq, last, List.append_assoc]
  rfl

theorem interleaved_eq_framed (b : Boundary) (parts : List (List Bytes)) :
    b.interleaved parts = framed b.token parts := by
  rw [interleaved, framed, first_eq, middle_eq, only_eq, last_eq]

end Boundary

end FormData
