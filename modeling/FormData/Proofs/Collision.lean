import FormData.Proofs.Lines
import FormData.Proofs.Spelling
import FormData.Proofs.Token
import FormData.Proofs.Windows

/-!
# Where a Part Holds the Delimiter

A receiver cuts a body at its delimiters, so it matters which parts hold one.

The delimiter is a line ending with the mark behind it, and the mark holds no
carriage return. Within a part it can therefore stand only where a line ends
and the next one begins with the mark, or within the content. The lines of a
block are the disposition line, the headers and the empty line, and what is
behind the empty line is the content. The disposition line has no line in
front of it and the empty line does not begin with a dash, so what is left is a
header that begins with the mark, a content that does, and a content that holds
the delimiter (`Collides`). Nothing in that mentions the name of the field or
of the file.

A token may hold colons and spaces, and a header name may begin with dashes, so
the first of the three does happen: the mark of the token `x: 1` begins the
header `--x: 1`.

## Main definitions

* `Boundary.Collides`: A header or the content leads to a delimiter.

## Theorems

* `Boundary.mark_prefix_line_iff`: The mark does not reach beyond a line.
* `Boundary.delimiter_infix_block_iff`: When a block and the content behind it
  hold the delimiter.
* `Boundary.delimiter_infix_part_iff`: The same for the parts themselves.
-/

namespace FormData

namespace Boundary

/-- One of the headers begins with two dashes and the token, or the content does,
    or the content holds a line ending, two dashes and the token. -/
def Collides (b : Boundary) (lines : List HeaderLine) (content : Bytes) : Prop :=
  (∃ line ∈ lines, utf8 ("--" ++ b.token) <+: line.text)
    ∨ utf8 ("--" ++ b.token) <+: content ∨ utf8 ("\r\n--" ++ b.token) <:+: content

theorem collides_iff (b : Boundary) (lines : List HeaderLine) (content : Bytes) :
    b.Collides lines content
      ↔ (∃ line ∈ lines, b.mark <+: line.text) ∨ b.mark <+: content
        ∨ b.delimiter <:+: content := by
  rw [Collides, b.mark_eq, b.delimiter_eq]

-- The mark holds no carriage return, so it ends before the line does.
theorem mark_prefix_line_iff (b : Boundary) (line rest : Bytes) :
    b.mark <+: line ++ Bytes.crlf ++ rest ↔ b.mark <+: line := by
  constructor
  · rintro ⟨after, h⟩
    rw [List.append_assoc, List.append_eq_append_iff] at h
    rcases h with ⟨within, hline, -⟩ | ⟨beyond, hmark, hrest⟩
    · exact ⟨within, hline.symm⟩
    · rcases beyond with _ | ⟨first, beyond⟩
      · rw [List.append_nil] at hmark
        rw [hmark]
      · refine absurd ?_ b.cr_not_mem_mark
        rw [hmark, ← (List.cons.inj hrest).1]
        exact List.mem_append_right _ List.mem_cons_self
  · intro h
    exact (h.trans (List.prefix_append _ _)).trans (List.prefix_append _ _)

theorem not_mark_prefix_crlf (b : Boundary) (rest : Bytes) : ¬ b.mark <+: Bytes.crlf ++ rest := by
  rintro ⟨after, h⟩
  exact absurd (List.cons.inj h).1 (by decide)

/-- Behind the first line of a block, what is left begins with the mark or holds
    the delimiter exactly if a header or the content leads to one. The induction
    is on the headers, and each of them has a line ending in front of it. -/
theorem delimiter_behind_lines_iff (b : Boundary) (lines : List HeaderLine) (content : Bytes)
    (hplain : ∀ line ∈ lines, line.Plain) :
    (b.mark <+: lines.flatMap HeaderLine.render ++ Bytes.crlf ++ content
        ∨ b.delimiter <:+: lines.flatMap HeaderLine.render ++ Bytes.crlf ++ content)
      ↔ b.Collides lines content := by
  induction lines with
  | nil =>
      have hempty := infix_append_crlf_iff b.mark [] content List.not_mem_nil
      have hno := b.not_mark_prefix_crlf content
      simp only [List.nil_append] at hempty
      simp only [collides_iff, List.flatMap_nil, List.nil_append, delimiter, hempty, hno,
        List.not_mem_nil, false_and, exists_false, false_or]
  | cons line rest ih =>
      have hline := (hplain line List.mem_cons_self).cr_text
      have hrest := ih fun x hx => hplain x (List.mem_cons_of_mem _ hx)
      have hsplit : (line :: rest).flatMap HeaderLine.render ++ Bytes.crlf ++ content
          = line.text ++ Bytes.crlf
            ++ (rest.flatMap HeaderLine.render ++ Bytes.crlf ++ content) := by
        simp only [List.flatMap_cons, HeaderLine.render, HeaderLine.text, List.append_assoc]
      rw [hsplit, mark_prefix_line_iff, delimiter, infix_append_crlf_iff b.mark _ _ hline,
        ← delimiter, hrest]
      simp only [collides_iff, List.mem_cons, exists_eq_or_imp, or_assoc]

theorem delimiter_infix_block_iff (b : Boundary) (name : String) (fileName : Option String)
    (lines : List HeaderLine) (content : Bytes) (hplain : ∀ line ∈ lines, line.Plain) :
    utf8 ("\r\n--" ++ b.token) <:+: headerBlock name fileName lines ++ content
      ↔ b.Collides lines content := by
  have hsplit : headerBlock name fileName lines ++ content
      = dispositionLine name fileName ++ Bytes.crlf
        ++ (lines.flatMap HeaderLine.render ++ Bytes.crlf ++ content) := by
    simp only [headerBlock, List.append_assoc]
  have hfirst := cr_not_mem_dispositionLine name fileName
  rw [← delimiter_eq, hsplit, delimiter, infix_append_crlf_iff b.mark _ _ hfirst, ← delimiter]
  exact delimiter_behind_lines_iff b lines content hplain

end Boundary

/-- A request for a file announces the headers it was given, or else its content
    type. -/
theorem FileRequest.attached_headerLines (request : FileRequest)
    (h : request.headers = none → Bytes.cr ∉ utf8 request.contentType) :
    Attached request.headerLines := by
  unfold headerLines
  rcases hheaders : request.headers with _ | headers
  · exact .contentType request.contentType (h hheaders)
  · exact .headers headers

namespace Boundary

/-- When a part holds the delimiter, which is a line ending, two dashes and the
    token. In front of any content, a block holds it together with the content
    exactly if a header begins with two dashes and the token, the content does, or
    the content holds the delimiter. So it is for a field with any headers, and for
    a file with any headers or with a content type that holds no carriage return,
    however its content is cut into windows. The name of the field and the name of
    the file never matter. -/
theorem delimiter_infix_part_iff (b : Boundary) (content : Bytes) :
    (∀ name fileName lines, Attached lines →
      (utf8 ("\r\n--" ++ b.token) <:+: headerBlock name fileName lines ++ content
        ↔ b.Collides lines content))
    ∧ (∀ name headers,
        utf8 ("\r\n--" ++ b.token)
            <:+: (Part.field (FieldPart.bytes name content headers)).content
          ↔ b.Collides headers.lines content)
    ∧ ∀ (request : FileRequest) (tree : FileTree),
        (request.headers = none → Bytes.cr ∉ utf8 request.contentType) →
        tree.lookUp request.path = .ok (.file content) →
        ∃ file, (request.openIn tree).result = .ok file
          ∧ (utf8 ("\r\n--" ++ b.token) <:+: (Part.file file).content
            ↔ b.Collides request.headerLines content) := by
  refine ⟨fun name fileName lines hlines => ?_, fun name headers => ?_,
    fun request tree htype hfile => ?_⟩
  · exact delimiter_infix_block_iff b name fileName lines content hlines.plain
  · have hcontent : (Part.field (FieldPart.bytes name content headers)).content
        = headerBlock name none headers.lines ++ content := by
      simp only [Part.content, Part.chunks, FieldPart.chunks, FieldPart.bytes,
        FieldPart.ofPieces, List.flatten_cons, List.flatten_nil, List.append_nil]
    rw [hcontent]
    exact delimiter_infix_block_iff b name none headers.lines content
      headers.plain_of_mem_lines
  · rcases request.openIn_file tree content hfile with ⟨file, hopen, hheader, hwindows⟩
    have hcontent : (Part.file file).content
        = headerBlock request.name (some request.announcedName) request.headerLines
          ++ content := by
      simp only [Part.content, Part.chunks, FilePart.chunks, List.flatten_cons, hwindows, hheader,
        FileRequest.header]
    refine ⟨file, hopen, ?_⟩
    rw [hcontent]
    exact delimiter_infix_block_iff b _ _ _ content (request.attached_headerLines htype).plain

/-- A header that begins with the mark leads to a delimiter, in a file as in any
    block. The field name spells the delimiter and has no share in it. -/
theorem delimiter_infix_dashed_header :
    let b : Boundary := ⟨"x: 1", by decide⟩
    let headers : HeaderMap :=
      ⟨[⟨⟨utf8 "--x", by decide⟩, [⟨utf8 "1", by decide⟩]⟩]⟩
    let request : FileRequest :=
      { name := "\r\n--x: 1", path := utf8 "f", headers := some headers }
    let tree := FileTree.initial.change (.create (utf8 "f") [])
    utf8 ("\r\n--" ++ b.token) <:+: headerBlock "a" none headers.lines ++ []
    ∧ ∃ file, (request.openIn tree).result = .ok file
      ∧ utf8 ("\r\n--" ++ b.token) <:+: (Part.file file).content := by
  intro b headers request tree
  have hcollides : b.Collides headers.lines [] :=
    Or.inl ⟨⟨utf8 "--x", utf8 "1"⟩, by decide, by decide⟩
  have hfile : tree.lookUp request.path = .ok (.file []) := rfl
  rcases (delimiter_infix_part_iff b []).2.2 request tree (fun h => by cases h) hfile with
    ⟨file, hopen, hiff⟩
  exact ⟨((delimiter_infix_part_iff b []).1 "a" none headers.lines (.headers headers)).mpr
    hcollides, file, hopen, hiff.mpr hcollides⟩

end Boundary

end FormData
