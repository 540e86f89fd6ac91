import FormData.Proofs.Edits
import FormData.Proofs.Spelling
import FormData.Proofs.Token

/-!
# Reading the Boundary from a Content Type

A receiver learns from the content type where the parts of a body end.

The content type carries the token as a parameter, and a parameter value has a
grammar of its own. It is plain, which is one or more visible ASCII characters
that the grammar has no other use for, or it stands between double quotes, where
a backslash takes the next character as it is. A reader of that grammar is not
told which of the two was written. It sees a double quote in front or it does
not, and no plain value begins with one.

Which characters may stand in a plain value and which may stand in a token are
two separate lists, and neither is part of the other. What the announcement needs
is that they fit: a token is written bare just when it is plain, and no token
holds a character that would have to be escaped between quotes
(`Boundary.isBareChar_eq`). Then the reader undoes the writer
(`announced?_contentType`), and what it reads is a token that gives the very
boundary the body is framed by.

## Main definitions

* `Parameter.isPlain`: Whether a value can stand without quotes.
* `Parameter.needsEscape`: Whether a character needs a backslash between quotes.
* `Parameter.value?`: Reading a value in either form.
* `announced?`: Reading the token from a content type.

## Theorems

* `Parameter.value?_plain`, `value?_quoted`: Both forms are read back.
* `Boundary.isBareChar_eq`: How the alphabets of tokens and plain values fit.
* `Boundary.contentType_form`: Which of the two forms a content type has.
* `Boundary.contentType_inj`: Distinct tokens have distinct content types.
* `announced?_contentType`: The announced token is the token.
-/

namespace FormData

namespace Parameter

/-- The characters that mean something to the grammar of parameters. -/
def specials : List Char :=
  ['(', ')', '<', '>', '@', ',', ';', ':', '\\', '"', '/', '[', ']', '?', '=']

/-- Whether a character may stand in a plain value: it is ASCII, no control, no
    space and none of those that mean something. -/
def isPlainChar (c : Char) : Bool :=
  decide (32 < c.toNat) && decide (c.toNat < 127) && !specials.contains c

/-- Whether a value is plain and can stand without quotes. -/
def isPlain (value : List Char) : Bool :=
  !value.isEmpty && value.all isPlainChar

/-- Whether a character needs a backslash between quotes. -/
def needsEscape (c : Char) : Bool :=
  ['"', '\\', '\r'].contains c

/-- The value behind an opening quote. The closing quote has to be the last
    character. -/
def unquote? : List Char → Option (List Char)
  | [] => none
  | c :: rest =>
    if c = '\\' then
      match rest with
      | [] => none
      | escaped :: rest => (unquote? rest).map (escaped :: ·)
    else if c = '"' ∧ rest = [] then some []
    else if needsEscape c then none
    else (unquote? rest).map (c :: ·)

/-- The value of a parameter that is written to the end of a text. -/
def value? : List Char → Option (List Char)
  | '"' :: rest => unquote? rest
  | text => if isPlain text then some text else none

theorem value?_plain (text : List Char) (h : isPlain text = true) : value? text = some text := by
  unfold value?
  split
  · -- A double quote means something, so nothing that begins with one is plain.
    rename_i rest
    have hquote : isPlain ('"' :: rest) = false := by
      have hspecial : isPlainChar '"' = false := by decide
      rw [isPlain, List.all_cons, hspecial, Bool.false_and, Bool.and_false]
    rw [hquote] at h
    exact absurd h Bool.false_ne_true
  · rw [if_pos h]

-- What needs no backslash is taken as it is, up to the quote at the end.
theorem unquote?_append (text : List Char) (h : text.any needsEscape = false) :
    unquote? (text ++ ['"']) = some text := by
  induction text with
  | nil => rfl
  | cons c rest ih =>
      rw [List.any_cons, Bool.or_eq_false_iff] at h
      have hslash : c ≠ '\\' := by
        rintro rfl
        exact absurd h.1 (by decide)
      have hmore : ¬ (c = '"' ∧ rest ++ ['"'] = []) := fun hc =>
        List.append_ne_nil_of_right_ne_nil rest (List.cons_ne_nil _ _) hc.2
      rw [List.cons_append, unquote?.eq_def]
      simp only [if_neg hslash, if_neg hmore, h.1, Bool.false_eq_true, if_false, ih h.2,
        Option.map_some]

theorem value?_quoted (text : List Char) (h : text.any needsEscape = false) :
    value? ('"' :: (text ++ ['"'])) = some text :=
  unquote?_append text h

end Parameter

/-- What stands in front of the token in a content type. -/
def announcementLead : String := "multipart/form-data; boundary="

/-- A token between double quotes. -/
def quoted (token : String) : String := "\"" ++ token ++ "\""

/-- The token that a content type announces, if it can be read. -/
def announced? (contentType : String) : Option String :=
  ((contentType.toList.dropPrefix? announcementLead.toList).bind Parameter.value?).map
    String.ofList

theorem announced?_append (text : String) :
    announced? (announcementLead ++ text)
      = (Parameter.value? text.toList).map String.ofList := by
  rw [announced?, String.toList_append]
  generalize announcementLead.toList = lead
  rw [List.dropPrefix?_append_of_beq _ (beq_self_eq_true _), Option.bind_some]

theorem toList_quoted (token : String) :
    (quoted token).toList = '"' :: (token.toList ++ ['"']) := by
  simp only [quoted, String.toList_append]
  rfl

namespace Boundary

/-- How the alphabets fit. Of the characters a token may hold, those that are
    written bare are those of a plain value, and none needs a backslash. -/
theorem isBareChar_eq (c : Char) (h : isTokenChar c = true) :
    isBareChar c = Parameter.isPlainChar c ∧ Parameter.needsEscape c = false := by
  have htable : (List.range 127).all (fun n =>
      !isTokenChar (Char.ofNat n)
        || (isBareChar (Char.ofNat n) == Parameter.isPlainChar (Char.ofNat n)
          && !Parameter.needsEscape (Char.ofNat n))) = true := by
    decide +kernel
  have hc := List.all_eq_true.mp htable c.toNat
    (List.mem_range.mpr (toNat_of_isTokenChar c h).2)
  rw [Char.ofNat_toNat, h, Bool.not_true, Bool.false_or, Bool.and_eq_true, beq_iff_eq,
    Bool.not_eq_true'] at hc
  exact hc

/-- A token is written bare just when it is plain. -/
theorem isPlain_token (b : Boundary) : Parameter.isPlain b.token.toList = b.isBare := by
  have hne : b.token.toList.isEmpty = false :=
    Bool.eq_false_iff.mpr fun h => b.toList_token_ne_nil (List.isEmpty_iff.mp h)
  have hall : b.token.toList.all Parameter.isPlainChar = b.token.toList.all isBareChar := by
    rw [Bool.eq_iff_iff, List.all_eq_true, List.all_eq_true]
    refine forall₂_congr fun c hc => ?_
    rw [(isBareChar_eq c (b.isTokenChar_of_mem c hc)).1]
  rw [Parameter.isPlain, hne, hall, isBare, Bool.not_false, Bool.true_and]

theorem any_needsEscape_token (b : Boundary) :
    b.token.toList.any Parameter.needsEscape = false := by
  rw [List.any_eq_false]
  intro c hc
  rw [(isBareChar_eq c (b.isTokenChar_of_mem c hc)).2]
  exact Bool.false_ne_true

theorem contentType_eq (b : Boundary) :
    b.contentType = announcementLead ++ (if b.isBare then b.token else quoted b.token) := rfl

theorem announced?_token (b : Boundary) : announced? b.contentType = some b.token := by
  rw [contentType_eq, announced?_append]
  by_cases hbare : b.isBare = true
  · rw [if_pos hbare, Parameter.value?_plain _ (b.isPlain_token.trans hbare), Option.map_some,
      String.ofList_toList]
  · rw [if_neg hbare, toList_quoted, Parameter.value?_quoted _ b.any_needsEscape_token,
      Option.map_some, String.ofList_toList]

-- Quotes make a difference, since they make a text longer.
theorem append_quoted_ne (lead token : String) : lead ++ quoted token ≠ lead ++ token := by
  intro h
  have hlength := congrArg (fun text => text.toList.length) h
  simp only [String.toList_append, toList_quoted, List.length_append, List.length_cons] at hlength
  omega

/-- The form of a content type tells whether the token is plain. -/
theorem contentType_form (b : Boundary) :
    (b.contentType = announcementLead ++ b.token ↔ Parameter.isPlain b.token.toList = true)
    ∧ (b.contentType = announcementLead ++ quoted b.token
        ↔ Parameter.isPlain b.token.toList = false) := by
  rw [b.isPlain_token, contentType_eq]
  generalize announcementLead = lead
  by_cases hbare : b.isBare = true
  · rw [if_pos hbare, hbare]
    exact ⟨⟨fun _ => rfl, fun _ => rfl⟩,
      ⟨fun h => absurd h.symm (append_quoted_ne _ _), fun h => absurd h.symm Bool.false_ne_true⟩⟩
  · rw [if_neg hbare, Bool.eq_false_iff.mpr hbare]
    exact ⟨⟨fun h => absurd h (append_quoted_ne _ _), fun h => absurd h Bool.false_ne_true⟩,
      ⟨fun _ => rfl, fun _ => rfl⟩⟩

/-- Boundaries of one token have one content type, and no others have. -/
theorem contentType_inj (b other : Boundary) :
    b.contentType = other.contentType ↔ b.token = other.token := by
  constructor
  · intro h
    have hread := b.announced?_token
    rw [h, other.announced?_token, Option.some.injEq] at hread
    exact hread.symm
  · intro h
    rw [contentType_eq, contentType_eq, isBare, isBare, h]

end Boundary

/-- The content type announces the boundary. A reader of the grammar of
    parameters gets the token from it, whichever form it has. It is bare just
    when the whole token is plain and quoted otherwise, and nothing in a token
    needs a backslash between quotes. Distinct tokens therefore have distinct
    content types. After any edits of a body, the token that is read from its
    content type is accepted as the boundary it was begun with, and the pieces
    that the body yields are those of its parts among the lines that the token
    gives: the token behind two dashes, with a line ending in front unless it is the
    first line, and a line ending behind, with two more dashes before it at the
    end. -/
theorem announced?_contentType (b : Boundary) :
    announced? b.contentType = some b.token
    ∧ (b.contentType = announcementLead ++ b.token ↔ Parameter.isPlain b.token.toList = true)
    ∧ (b.contentType = announcementLead ++ quoted b.token
        ↔ Parameter.isPlain b.token.toList = false)
    ∧ b.token.toList.any Parameter.needsEscape = false
    ∧ (∀ other : Boundary, b.contentType = other.contentType ↔ b.token = other.token)
    ∧ ∀ edits,
        let body := (Body.empty b).editAll edits
        (announced? body.contentType).map Boundary.ofToken? = some (.ok b)
          ∧ body.iterate.drain.1 = framed b.token (body.parts.map fun h => h.part.chunks) := by
  refine ⟨b.announced?_token, b.contentType_form.1, b.contentType_form.2,
    b.any_needsEscape_token, b.contentType_inj, fun edits => ?_⟩
  -- A body keeps the boundary it was begun with.
  have hboundary : ((Body.empty b).editAll edits).boundary = b := Body.boundary_editAll _ edits
  refine ⟨?_, ?_⟩
  · rw [Body.contentType, hboundary, b.announced?_token, Option.map_some, b.ofToken?_token]
  · rw [Traversal.drain_iterate, hboundary, Boundary.layout_eq_interleaved,
      Boundary.interleaved_eq_framed]

-- A space and a colon may stand in a token and not in a plain value.
example :
    let b : Boundary := ⟨"a b:c", by decide⟩
    b.contentType = "multipart/form-data; boundary=\"a b:c\""
      ∧ announced? b.contentType = some "a b:c" := by
  decide +kernel

end FormData
