import FormData.Text.Utf8

/-!
# Header Blocks

The lines in front of a part's content.

A block is one line that says which form field the part belongs to, then any
further header lines, then an empty line. The first line carries the field
name, and a file name where there is one, as quoted parameters. A quoted
parameter has no way to hold a double quote or a line ending, so those three
octets are written by number behind a percent sign. The percent sign itself
is left alone: the receivers this is written for expect it so, and it means
that a text which already holds such a sequence does not survive the round
trip.

Header names and values are written as they are. What keeps them from
breaking the block is that their types rule line endings out, which is the
business of the module that builds them.

## Main definitions

* `HeaderLine`: A header name and its value.
* `escape`: Writing a parameter value so that it can be quoted.
* `dispositionLine`: The line that names the form field.
* `headerBlock`: The whole block.

## Theorems

* `escape_append`: Joined values escape to the joined escapes.
* `not_mem_escape`: An escaped value holds no quote and no line ending.
-/

namespace FormData

/-- A header name and its value, as they are written. -/
structure HeaderLine where
  name : Bytes
  value : Bytes
  deriving Repr, DecidableEq

namespace HeaderLine

/-- The octets of a header line. -/
def render (line : HeaderLine) : Bytes :=
  line.name ++ utf8 ": " ++ line.value ++ Bytes.crlf

end HeaderLine

/-- One octet of a quoted parameter value. The quote and the two octets of a
    line ending are written by number, all others as they are. -/
def escapeOctet (b : UInt8) : Bytes :=
  if b = Bytes.quote then utf8 "%22"
  else if b = Bytes.cr then utf8 "%0D"
  else if b = Bytes.lf then utf8 "%0A"
  else [b]

/-- A parameter value in the form in which it can be quoted. -/
def escape (value : Bytes) : Bytes :=
  value.flatMap escapeOctet

theorem escape_append (left right : Bytes) : escape (left ++ right) = escape left ++ escape right :=
  List.flatMap_append

/-- An escaped value holds none of the octets that would end it early. -/
theorem not_mem_escape (value : Bytes) (b : UInt8)
    (h : b ∈ [Bytes.quote, Bytes.cr, Bytes.lf]) : b ∉ escape value := by
  -- None of the three replacements brings back what it replaces.
  have htable : [utf8 "%22", utf8 "%0D", utf8 "%0A"].all (fun text =>
      [Bytes.quote, Bytes.cr, Bytes.lf].all (fun x => !text.contains x)) = true := by
    decide
  have hfree : ∀ text ∈ [utf8 "%22", utf8 "%0D", utf8 "%0A"], b ∉ text := by
    intro text htext hb
    have hx := List.all_eq_true.mp (List.all_eq_true.mp htable text htext) b h
    rw [List.contains_iff_mem.mpr hb] at hx
    exact absurd hx (by decide)
  intro hmem
  rcases List.mem_flatMap.mp hmem with ⟨a, _, ha⟩
  unfold escapeOctet at ha
  split at ha
  · exact hfree _ (by simp only [List.mem_cons, true_or]) ha
  · split at ha
    · exact hfree _ (by simp only [List.mem_cons, true_or, or_true]) ha
    · split at ha
      · exact hfree _ (by simp only [List.mem_cons, true_or, or_true]) ha
      · rename_i hquote hcr hlf
        rw [List.mem_singleton] at ha
        rw [ha] at h
        simp only [List.mem_cons, List.not_mem_nil, or_false] at h
        rcases h with h | h | h
        · exact hquote h
        · exact hcr h
        · exact hlf h

/-- A parameter between double quotes, behind its separator and its name. -/
def quotedParameter (lead : String) (value : String) : Bytes :=
  utf8 lead ++ [Bytes.quote] ++ escape (utf8 value) ++ [Bytes.quote]

/-- The line that names the form field, and the file where there is one,
    without its line ending. -/
def dispositionLine (name : String) (fileName : Option String) : Bytes :=
  utf8 "Content-Disposition: form-data"
    ++ quotedParameter "; name=" name
    ++ (match fileName with
      | none => []
      | some fileName => quotedParameter "; filename=" fileName)

/-- The block in front of a part's content. -/
def headerBlock (name : String) (fileName : Option String) (lines : List HeaderLine) : Bytes :=
  dispositionLine name fileName ++ Bytes.crlf
    ++ lines.flatMap HeaderLine.render ++ Bytes.crlf

end FormData
