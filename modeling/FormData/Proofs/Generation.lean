import FormData.Boundary.Generated
import FormData.Proofs.Announcement
import FormData.Proofs.Grammar
import FormData.Proofs.TextReader

/-!
# What Is Known of a Generated Boundary

A generated boundary is one that could have been given, and it gives its draws away.

The token of a generated boundary is not checked, so the tag, the alphabet and the
number of draws have to fit what a token may be. That they do is part of the type
of a boundary. What is left to say is that nobody can tell the difference: the token
is accepted as the very boundary that was generated, and the lines written for it
are those of the token.

Not being used again is what a generated token is for, so no two sequences of draws
may lead to one token. The draws can be read off it, since the alphabet has no
character twice. They can also be read off any line. A line may begin with a line
ending and may have two dashes more at the end, and tokens can end in dashes
themselves, so in general a line does not tell which token it was written for.
Generated tokens are all of one length, and then it does (`token_eq_of_mem_lines`).

## Main definitions

* `Boundary.alphabet`: The characters that are drawn from.
* `Boundary.lines`: The four lines of a boundary.

## Theorems

* `Boundary.generatedToken_inj`: A token tells its draws.
* `Boundary.isBare_ofDraws`: A generated token needs no quotes.
* `Boundary.mem_lines_iff`: How a line is made up.
* `Boundary.token_eq_of_mem_lines`: Of tokens of one length, a line tells which.
* `Boundary.ofDraws_as_given`: All of it together.
-/

namespace FormData

namespace Boundary

/-- The characters that are drawn from, in order. -/
def alphabet : List Char := "0123456789abcdefghijklmnopqrstuvwxyz".toList

theorem nodup_alphabet : alphabet.Nodup := by decide

theorem digit_eq : ∀ i : Fin 36, digit i = alphabet[i] := by decide

theorem digit_injective : Function.Injective digit := by
  intro i j h
  rw [digit_eq, digit_eq] at h
  exact Fin.ext ((List.getElem_inj nodup_alphabet).mp h)

/-- A token tells its draws. -/
theorem generatedToken_inj (draws draws' : Draws) :
    generatedToken draws = generatedToken draws' ↔ draws = draws' := by
  constructor
  · intro h
    have hchars := congrArg String.toList h
    rw [toList_generatedToken, toList_generatedToken, List.append_cancel_left_eq] at hchars
    exact Vector.toList_inj.mp (List.map_injective_iff.mpr digit_injective hchars)
  · rintro rfl
    rfl

/-- A generated token needs no quotes. -/
theorem isBare_ofDraws (draws : Draws) : (ofDraws draws).isBare = true := by
  have htag : tag.toList.all isBareChar = true := by decide
  have hdigit : ∀ i : Fin 36, isBareChar (digit i) = true := by decide
  have hall : (generatedToken draws).toList.all isBareChar = true := by
    rw [toList_generatedToken, List.all_append, htag, List.all_map, Bool.true_and, List.all_eq_true]
    exact fun i _ => hdigit i
  exact hall

/-- The four lines of a boundary. -/
def lines (b : Boundary) : List Bytes := [b.first, b.middle, b.only, b.last]

/-- A line is the mark, perhaps behind a line ending and perhaps with two dashes
    behind it, and then a line ending. -/
theorem mem_lines_iff (b : Boundary) (line : Bytes) :
    line ∈ b.lines ↔ ∃ lead ∈ [[], Bytes.crlf], ∃ trail ∈ [Bytes.crlf, Bytes.dashes ++ Bytes.crlf],
      line = lead ++ (b.mark ++ trail) := by
  simp only [lines, first, middle, only, last, List.mem_cons, List.not_mem_nil, or_false,
    exists_eq_or_imp, exists_eq_left, List.nil_append, List.append_assoc, or_assoc]
  tauto

/-- Of tokens of one length, a line tells which one it was written for. -/
theorem token_eq_of_mem_lines (b c : Boundary)
    (hlength : (utf8 b.token).length = (utf8 c.token).length) (line : Bytes)
    (hb : line ∈ b.lines) (hc : line ∈ c.lines) : b.token = c.token := by
  rcases (mem_lines_iff b line).mp hb with ⟨lead, hlead, trail, -, rfl⟩
  rcases (mem_lines_iff c _).mp hc with ⟨lead', hlead', trail', -, heq⟩
  -- A mark begins with a dash, so both lines begin with a line ending or neither does.
  have hsame : lead = lead' := by
    simp only [List.mem_cons, List.not_mem_nil, or_false] at hlead hlead'
    rcases hlead with rfl | rfl
    · rcases hlead' with rfl | rfl
      · rfl
      · exact absurd (List.cons.inj heq).1 (by decide)
    · rcases hlead' with rfl | rfl
      · exact absurd (List.cons.inj heq).1 (by decide)
      · rfl
  have hmarks : b.mark.length = c.mark.length := by
    rw [mark, mark, List.length_append, List.length_append, hlength]
  rw [hsame, List.append_cancel_left_eq] at heq
  have hmark : b.mark = c.mark := (List.append_inj heq hmarks).1
  exact Utf8.utf8_injective (List.append_cancel_left hmark)

/-- A generated boundary is one that could have been given. For any draws, its token
    is the tag and then the drawn characters. That token is accepted, and what it
    gives is the boundary that was generated, with the lines of the token and no
    others. It is announced without quotes. Only the same draws lead to the token
    again, or to a boundary that has any line in common with this one. -/
theorem ofDraws_as_given (draws : Draws) :
    let b := ofDraws draws
    let token := b.token
    token.toList = "MicroMultipartBoundary".toList ++ draws.toList.map (alphabet[·])
    ∧ ofToken? token = .ok b
    ∧ b.held
      = (token, utf8 ("--" ++ token ++ "\r\n"), utf8 ("\r\n--" ++ token ++ "\r\n"),
        utf8 ("--" ++ token ++ "--\r\n"), utf8 ("\r\n--" ++ token ++ "--\r\n"))
    ∧ b.contentType = "multipart/form-data; boundary=" ++ token
    ∧ ∀ draws', (token = (ofDraws draws').token ↔ draws = draws')
      ∧ ((∃ line ∈ b.lines, line ∈ (ofDraws draws').lines) ↔ draws = draws') := by
  intro b token
  refine ⟨?_, b.ofToken?_token, ?_, ?_, fun draws' => ⟨generatedToken_inj draws draws', ?_⟩⟩
  · have htoken : token.toList = tag.toList ++ draws.toList.map digit := toList_generatedToken draws
    rw [htoken, tag]
    exact congrArg _ (List.map_congr_left fun i _ => digit_eq i)
  · have hdashes : utf8 "--" = Bytes.dashes := rfl
    have hcrlf : utf8 "\r\n" = Bytes.crlf := rfl
    have hclose : utf8 "--\r\n" = Bytes.dashes ++ Bytes.crlf := rfl
    have hopen : utf8 "\r\n--" = Bytes.crlf ++ Bytes.dashes := rfl
    simp only [held, first, middle, only, last, mark, utf8_append, hdashes, hcrlf, hclose, hopen,
      List.append_assoc]
    rfl
  · rw [contentType_eq, isBare_ofDraws, if_pos rfl]
    rfl
  · constructor
    · rintro ⟨line, hline, hline'⟩
      have hlength : (utf8 b.token).length = (utf8 (ofDraws draws').token).length :=
        (length_utf8_generatedToken draws).trans (length_utf8_generatedToken draws').symm
      exact (generatedToken_inj draws draws').mp
        (token_eq_of_mem_lines b (ofDraws draws') hlength line hline hline')
    · rintro rfl
      exact ⟨b.first, List.mem_cons_self, List.mem_cons_self⟩

end Boundary

end FormData
