import FormData.Part.FileRequest
import Mathlib.Data.List.Infix

/-!
# Lines

What a header block is made of, and where a line ending can stand.

A block is the disposition line, then one line for each header, each with its
line ending, then the empty line. No line holds a carriage return: the names
that are quoted in the first are escaped, and the types of header names and
values rule it out in the others. So a carriage return in the block is always
the first octet of a line ending, and a pattern that begins with a line ending
can only begin where a line ends.

`append_crlf_cases` is that observation for one line, with anything behind it.
What is said about whole blocks later is an induction over the lines with this
as its step, whether the pattern is an empty line or a delimiter.

The headers of a part come from one of two places: a header map, or a content
type that is announced alone. `Attached` says so. All that is used of them
afterwards is `HeaderLine.Plain`.

## Main definitions

* `HeaderLine.text`: A header line without its line ending.
* `HeaderLine.Plain`: A header line that can be read back.
* `Attached`: The headers that a part may have.

## Theorems

* `cr_not_mem_dispositionLine`: The disposition line is not broken.
* `Attached.plain`: The headers of a part can be read back.
* `append_crlf_cases`: A carriage return behind a line begins its ending or
  stands behind it.
* `infix_append_crlf_iff`: Where a pattern that begins with a line ending can
  stand.
-/

namespace FormData

namespace Bytes

/-- The octet that separates a header name from its value. -/
def colon : UInt8 := 58

end Bytes

namespace HeaderLine

/-- A header line without its line ending. -/
def text (line : HeaderLine) : Bytes :=
  line.name ++ utf8 ": " ++ line.value

/-- A header line that can be read back: it has a name, which ends at the first
    colon, and it is not broken. -/
structure Plain (line : HeaderLine) : Prop where
  name_ne_nil : line.name ≠ []
  colon : Bytes.colon ∉ line.name
  cr_name : Bytes.cr ∉ line.name
  cr_value : Bytes.cr ∉ line.value

theorem Plain.cr_text {line : HeaderLine} (h : line.Plain) : Bytes.cr ∉ line.text := by
  have hseparator : Bytes.cr ∉ utf8 ": " := by decide
  rw [text, List.mem_append, List.mem_append, not_or, not_or]
  exact ⟨⟨h.cr_name, hseparator⟩, h.cr_value⟩

end HeaderLine

/-- The headers that a part may have behind the line that names its field: those
    of a header map, or a content type that holds no carriage return. -/
inductive Attached : List HeaderLine → Prop where
  | headers (map : HeaderMap) : Attached map.lines
  | contentType (type : String) (unbroken : Bytes.cr ∉ utf8 type) :
    Attached [{ name := contentTypeName, value := utf8 type }]

/-- The lines of a header map are plain, since names and values carry the facts
    that make them so. -/
theorem HeaderMap.plain_of_mem_lines (map : HeaderMap) (line : HeaderLine)
    (h : line ∈ map.lines) : line.Plain := by
  rcases List.mem_flatMap.mp h with ⟨slot, -, hline⟩
  rcases List.mem_map.mp hline with ⟨value, -, rfl⟩
  exact {
    name_ne_nil := slot.name.bytes_ne_nil
    colon := slot.name.not_mem Bytes.colon rfl
    cr_name := slot.name.not_mem Bytes.cr rfl
    cr_value := value.not_mem Bytes.cr rfl }

theorem Attached.plain {lines : List HeaderLine} (h : Attached lines) :
    ∀ line ∈ lines, line.Plain := by
  intro line hmem
  cases h with
  | headers map => exact map.plain_of_mem_lines line hmem
  | contentType type unbroken =>
      have hcolon : Bytes.colon ∉ contentTypeName := by decide
      have hcr : Bytes.cr ∉ contentTypeName := by decide
      rw [List.mem_singleton.mp hmem]
      exact {
        name_ne_nil := List.cons_ne_nil _ _
        colon := hcolon
        cr_name := hcr
        cr_value := unbroken }

theorem cr_not_mem_quotedParameter (lead value : String) (hlead : Bytes.cr ∉ utf8 lead) :
    Bytes.cr ∉ quotedParameter lead value := by
  have hquote : Bytes.cr ∉ [Bytes.quote] := by decide
  have hvalue : Bytes.cr ∉ escape (utf8 value) := not_mem_escape _ _ (by decide)
  simp only [quotedParameter, List.mem_append, not_or]
  exact ⟨⟨⟨hlead, hquote⟩, hvalue⟩, hquote⟩

/-- The disposition line is not broken, whatever the names in it are. -/
theorem cr_not_mem_dispositionLine (name : String) (fileName : Option String) :
    Bytes.cr ∉ dispositionLine name fileName := by
  have hfront : Bytes.cr ∉ utf8 "Content-Disposition: form-data" := by decide
  have hname := cr_not_mem_quotedParameter "; name=" name (by decide)
  cases fileName with
  | none =>
      simp only [dispositionLine, List.mem_append, List.not_mem_nil, not_or]
      exact ⟨⟨hfront, hname⟩, not_false⟩
  | some fileName =>
      have hfile := cr_not_mem_quotedParameter "; filename=" fileName (by decide)
      simp only [dispositionLine, List.mem_append, not_or]
      exact ⟨⟨hfront, hname⟩, hfile⟩

/-- Behind a line that holds no carriage return, a carriage return is the one
    that ends the line, or it stands behind the line ending. -/
theorem append_crlf_cases (line rest before after : Bytes) (hline : Bytes.cr ∉ line)
    (h : line ++ Bytes.crlf ++ rest = before ++ Bytes.cr :: after) :
    (before = line ∧ after = Bytes.lf :: rest) ∨
    ∃ more, before = line ++ Bytes.crlf ++ more ∧ rest = more ++ Bytes.cr :: after := by
  rw [List.append_assoc, List.append_eq_append_iff] at h
  rcases h with ⟨beyond, hbefore, hrest⟩ | ⟨within, hwithin, hrest⟩
  · -- The carriage return stands no earlier than the line ending.
    rcases beyond with _ | ⟨first, _ | ⟨second, more⟩⟩
    · rw [List.append_nil] at hbefore
      exact Or.inl ⟨hbefore, (List.cons.inj hrest).2.symm⟩
    · -- It is not the second octet of the line ending.
      exact absurd (List.cons.inj (List.cons.inj hrest).2).1 (by decide)
    · simp only [Bytes.crlf, List.cons_append, List.nil_append, List.cons.injEq] at hrest
      rcases hrest with ⟨rfl, rfl, hmore⟩
      refine Or.inr ⟨more, ?_, hmore⟩
      rw [hbefore, List.append_assoc]
      rfl
  · rcases within with _ | ⟨first, within⟩
    · rw [List.append_nil] at hwithin
      exact Or.inl ⟨hwithin.symm, (List.cons.inj hrest).2⟩
    · -- Anywhere earlier it would be within the line.
      refine absurd ?_ hline
      rw [hwithin, (List.cons.inj hrest).1]
      exact List.mem_append_right _ List.mem_cons_self

/-- Where a pattern that begins with a line ending can stand, given one line and
    what is behind it: at the end of the line, or behind its line ending. -/
theorem infix_append_crlf_iff (tail line rest : Bytes) (hline : Bytes.cr ∉ line) :
    Bytes.crlf ++ tail <:+: line ++ Bytes.crlf ++ rest
      ↔ tail <+: rest ∨ Bytes.crlf ++ tail <:+: rest := by
  constructor
  · rintro ⟨before, after, h⟩
    have hsplit : line ++ Bytes.crlf ++ rest
        = before ++ Bytes.cr :: (Bytes.lf :: (tail ++ after)) := by
      rw [← h, List.append_assoc, List.append_assoc]
      rfl
    rcases append_crlf_cases line rest before _ hline hsplit with ⟨-, hafter⟩ | ⟨more, -, hrest⟩
    · exact Or.inl ⟨after, (List.cons.inj hafter).2⟩
    · refine Or.inr ⟨more, after, ?_⟩
      rw [hrest, List.append_assoc, List.append_assoc]
      rfl
  · rintro (⟨after, rfl⟩ | hrest)
    · exact ⟨line, after, by simp only [List.append_assoc]⟩
    · exact hrest.trans (List.suffix_append _ _).isInfix

end FormData
