import FormData.Proofs.Token
import FormData.Session

/-!
# The Grammar of Tokens

Which texts can frame a body, said at once.

RFC 2046 gives the grammar of a boundary in one line: up to sixty-nine characters
of a small set, then one more that is no space. A token is checked differently,
by four tests in a row, and two of them do not even measure the same thing. The
length is counted in octets and the set is one of characters. That is no
difference for a token that is accepted, since every character of the set is one
octet. It is one for the others, and decides what is reported: a text of few
characters can be too long, and a text can have several defects together.

So the tests are compared with two things. Whether a text is accepted is compared
with the grammar (`IsToken`). What is reported is compared with the list of all
that is wrong with the text, of which the first is meant (`defects`).

## Main definitions

* `Boundary.IsBchar`: The characters of a boundary in the grammar.
* `Boundary.IsToken`: The boundaries of the grammar.
* `Boundary.defects`: All that is wrong with a text, in order.
* `Boundary.held`: All that two boundaries can differ in.

## Theorems

* `Boundary.isTokenChar_iff`: The characters of a token are those of the grammar.
* `Boundary.flaw?_eq_none_iff_isToken`: A text of the grammar has no flaw.
* `Boundary.flaw?_eq_head?`: The flaw of a text is its first defect.
* `Boundary.ofToken?_grammar`: What is accepted, and what is reported otherwise.
-/

namespace FormData

namespace Boundary

/-- The characters of a boundary in the grammar: digits, letters, and the marks
    it lists, the space among them. -/
def IsBchar (c : Char) : Prop :=
  ('0' ≤ c ∧ c ≤ '9') ∨ ('A' ≤ c ∧ c ≤ 'Z') ∨ ('a' ≤ c ∧ c ≤ 'z')
    ∨ c ∈ "'()+_,-./:=? ".toList

instance (c : Char) : Decidable (IsBchar c) :=
  inferInstanceAs (Decidable (_ ∨ _ ∨ _ ∨ _))

/-- The boundaries of the grammar: up to sixty-nine characters, then one that is
    no space. -/
def IsToken (text : List Char) : Prop :=
  ∃ front final, text = front ++ [final] ∧ front.length ≤ 69
    ∧ (∀ c ∈ front, IsBchar c) ∧ IsBchar final ∧ final ≠ ' '

/-- All that is wrong with a text, in the order in which it is reported: that it
    is empty, that it has more than seventy octets, that it ends with a space, and
    each character that the grammar does not know. -/
def defects (text : String) : List TokenFlaw :=
  (if text = "" then [.empty] else [])
    ++ (if 70 < text.utf8ByteSize then [.tooLong text.utf8ByteSize] else [])
    ++ (if text.toList.getLast? = some ' ' then [.trailingSpace] else [])
    ++ (text.toList.filter fun c => ¬ IsBchar c).map .foreign

/-- All that a boundary holds, and so all that two boundaries can differ in. -/
def held (b : Boundary) : String × Bytes × Bytes × Bytes × Bytes :=
  (b.token, b.first, b.middle, b.only, b.last)

theorem isTokenChar_iff (c : Char) : isTokenChar c = true ↔ IsBchar c := by
  have hmarks : c ∈ marks ↔ c ∈ "'()+_,-./:=? ".toList := Iff.rfl
  rw [isTokenChar_eq_true_iff, hmarks, IsBchar]
  -- The same four cases in another order.
  constructor
  · rintro (((hupper | hlower) | hdigit) | hmark)
    · exact Or.inr (Or.inl hupper)
    · exact Or.inr (Or.inr (Or.inl hlower))
    · exact Or.inl hdigit
    · exact Or.inr (Or.inr (Or.inr hmark))
  · rintro (hdigit | hupper | hlower | hmark)
    · exact Or.inl (Or.inr hdigit)
    · exact Or.inl (Or.inl (Or.inl hupper))
    · exact Or.inl (Or.inl (Or.inr hlower))
    · exact Or.inr hmark

theorem length_utf8 (text : String) : (utf8 text).length = text.utf8ByteSize := by
  rw [utf8, ← List.size_toByteArray]
  exact congrArg ByteArray.size text.utf8Encode_toList

-- A character of the grammar is one octet, so octets and characters count alike.
theorem length_flatMap_utf8 (text : List Char) (h : ∀ c ∈ text, isTokenChar c = true) :
    (text.flatMap String.utf8EncodeChar).length = text.length := by
  induction text with
  | nil => rfl
  | cons c rest ih =>
      have hrest := ih fun x hx => h x (List.mem_cons_of_mem _ hx)
      have hc := utf8EncodeChar_of_isTokenChar c (h c List.mem_cons_self)
      rw [List.flatMap_cons, hc, List.singleton_append, List.length_cons, hrest, List.length_cons]

/-- A text has no flaw exactly if it is one of the grammar. -/
theorem flaw?_eq_none_iff_isToken (token : String) :
    flaw? token = none ↔ IsToken token.toList := by
  rw [flaw?_eq_none_iff, IsToken]
  constructor
  · rintro ⟨hne, hlength, hspace, hall⟩
    rw [utf8, length_flatMap_utf8 _ hall] at hlength
    have hsplit := List.dropLast_concat_getLast hne
    have hmem : token.toList.getLast hne ∈ token.toList := List.getLast_mem hne
    refine ⟨token.toList.dropLast, token.toList.getLast hne, hsplit.symm, ?_, ?_, ?_, ?_⟩
    · rw [List.length_dropLast]
      exact Nat.sub_le_sub_right hlength 1
    · exact fun c hc => (isTokenChar_iff c).mp (hall c (List.dropLast_subset _ hc))
    · exact (isTokenChar_iff _).mp (hall _ hmem)
    · rintro hlast
      rw [List.getLast?_eq_some_getLast hne, hlast] at hspace
      exact hspace rfl
  · rintro ⟨front, final, htext, hlength, hfront, hfinal, hspace⟩
    have hall : ∀ c ∈ token.toList, isTokenChar c = true := by
      intro c hc
      rw [htext, List.mem_append, List.mem_singleton] at hc
      rcases hc with hc | rfl
      · exact (isTokenChar_iff c).mpr (hfront c hc)
      · exact (isTokenChar_iff c).mpr hfinal
    refine ⟨?_, ?_, ?_, hall⟩
    · rw [htext]
      exact List.append_ne_nil_of_right_ne_nil front (List.cons_ne_nil _ _)
    · rw [utf8, length_flatMap_utf8 _ hall, htext, List.length_append, List.length_singleton]
      exact Nat.succ_le_succ hlength
    · rw [htext, List.getLast?_concat, ne_eq, Option.some.injEq]
      exact hspace

/-- The flaw of a text is the first of all that is wrong with it. -/
theorem flaw?_eq_head? (token : String) : flaw? token = (defects token).head? := by
  have hforeign : token.toList.find? (fun c => !isTokenChar c)
      = (token.toList.filter fun c => ¬ IsBchar c).head? := by
    rw [List.head?_filter]
    congr 1
    funext c
    rw [Bool.eq_iff_iff, Bool.not_eq_true', ← Bool.not_eq_true, isTokenChar_iff, decide_eq_true_iff]
  unfold flaw? defects
  rw [hforeign]
  simp only [maxLength, length_utf8, String.toList_eq_nil_iff, List.head?_append, List.head?_map]
  by_cases hempty : token = ""
  · rw [if_pos hempty, if_pos hempty]
    rfl
  by_cases hlong : 70 < token.utf8ByteSize
  · rw [if_neg hempty, if_neg hempty, if_pos hlong, if_pos hlong]
    rfl
  by_cases hspace : token.toList.getLast? = some ' '
  · rw [if_neg hempty, if_neg hempty, if_neg hlong, if_neg hlong, if_pos hspace, if_pos hspace]
    rfl
  · rw [if_neg hempty, if_neg hempty, if_neg hlong, if_neg hlong, if_neg hspace, if_neg hspace]
    rfl

theorem ofToken?_eq_error_iff (token : String) (flaw : TokenFlaw) :
    ofToken? token = .error flaw ↔ flaw? token = some flaw := by
  rcases hflaw : flaw? token with _ | found
  · rw [ofToken?_of_flaw?_eq_none hflaw]
    exact ⟨nofun, nofun⟩
  · unfold ofToken?
    split
    next hnone =>
      rw [hflaw] at hnone
      cases hnone
    next other hsome =>
      rw [hflaw] at hsome
      cases hsome
      rw [Except.error.injEq, Option.some.injEq]

theorem eq_iff_token_eq (b c : Boundary) : b = c ↔ b.token = c.token := by
  rcases b with ⟨token, sound⟩
  rcases c with ⟨token', sound'⟩
  rw [mk.injEq]

-- All that a boundary holds is derived from its token.
theorem held_eq_iff (b c : Boundary) : b.held = c.held ↔ b.token = c.token := by
  constructor
  · exact congrArg Prod.fst
  · intro h
    rw [(eq_iff_token_eq b c).mpr h]

/-- A text is accepted just when it is one of the grammar, and then it is the
    token of the boundary as it was given. Two that are accepted give the same
    boundary, in whatever a boundary holds, just when they are the same. A text is
    refused just when there is something wrong with it, and the flaw that is named
    is the first of all that is. Whoever begins a body with it then gets the fault
    of an invalid boundary with that flaw, and nothing else happens. -/
theorem ofToken?_grammar (text : String) :
    ((∃ b, ofToken? text = .ok b) ↔ IsToken text.toList)
    ∧ (∀ b, ofToken? text = .ok b → b.token = text)
    ∧ (∀ other b c, ofToken? text = .ok b → ofToken? other = .ok c →
        (b = c ↔ text = other) ∧ (b.held = c.held ↔ text = other))
    ∧ (∀ flaw, ofToken? text = .error flaw ↔ (defects text).head? = some flaw)
    ∧ (∀ flaw, (defects text).head? = some flaw → ∀ (s : Session) (id : String),
        s.beginBody id (.given text) = s.refuseFault (.invalidBoundary flaw)) := by
  have hflaw : ∀ flaw, ofToken? text = .error flaw ↔ (defects text).head? = some flaw := by
    intro flaw
    rw [ofToken?_eq_error_iff, flaw?_eq_head?]
  refine ⟨?_, fun b => token_of_ofToken?, fun other b c hb hc => ?_, hflaw,
    fun flaw hfirst s id => ?_⟩
  · rw [← flaw?_eq_none_iff_isToken]
    constructor
    · rintro ⟨b, hb⟩
      rw [← token_of_ofToken? hb]
      exact b.sound
    · exact fun h => ⟨⟨text, h⟩, ofToken?_of_flaw?_eq_none h⟩
  · rw [← token_of_ofToken? hb, ← token_of_ofToken? hc]
    exact ⟨eq_iff_token_eq b c, held_eq_iff b c⟩
  · simp only [Session.beginBody, (hflaw flaw).mpr hfirst]

/-- Thirty-six letters that the grammar does not know and a space have every
    defect but one, and are too long although there are not seventy of them. With
    few letters in front, the space is reported, and without the space the first
    of two characters that do not belong. A space within a token is accepted, and
    tokens that differ in one letter give boundaries that differ. -/
theorem ofToken?_grammar_defects :
    let wide := String.ofList (List.replicate 36 'é' ++ [' '])
    let b : Boundary := ⟨"a b:c", by decide⟩
    let c : Boundary := ⟨"a b:C", by decide⟩
    ofToken? wide = .error (.tooLong 73)
    ∧ (∀ s : Session, (s.beginBody "b" (.given wide)).reply
        = .refused (.request (.fault (.invalidBoundary (.tooLong 73)))))
    ∧ (Fault.invalidBoundary (.tooLong 73)).message
      = "invalid boundary: token length 73 exceed the limit 70"
    ∧ ofToken? "a\"b\r " = .error .trailingSpace
    ∧ ofToken? "a\"b\r" = .error (.foreign '"')
    ∧ IsToken "a b:c".toList ∧ b.held ≠ c.held := by
  intro wide b c
  have hb : ofToken? "a b:c" = .ok b := b.ofToken?_token
  have hc : ofToken? "a b:C" = .ok c := c.ofToken?_token
  have hwide : (defects wide).head? = some (.tooLong 73) := by decide
  refine ⟨?_, fun s => ?_, rfl, ?_, ?_, (ofToken?_grammar "a b:c").1.mp ⟨b, hb⟩, fun h => ?_⟩
  · exact ((ofToken?_grammar wide).2.2.2.1 _).mpr hwide
  · rw [(ofToken?_grammar wide).2.2.2.2 _ hwide s "b"]
    rfl
  · exact ((ofToken?_grammar _).2.2.2.1 _).mpr (by decide)
  · exact ((ofToken?_grammar _).2.2.2.1 _).mpr (by decide)
  · exact absurd (((ofToken?_grammar "a b:c").2.2.1 "a b:C" b c hb hc).2.mp h) (by decide)

end Boundary

end FormData
