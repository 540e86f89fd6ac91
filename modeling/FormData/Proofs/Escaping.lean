import FormData.Header.Block
import FormData.Proofs.Ascii

/-!
# What Escaping Loses

A quoted parameter can be read back, except where it looked escaped before.

The three octets that cannot stand between quotes are written by number, and the
percent sign in front of a number is written as it is. So a number may have been
there from the start, and a reader that puts the octets back (`unescape`) cannot
tell the two apart. That is all that is lost. For any octets, what the reader
makes of the escaped form is what it would have made of them unescaped
(`unescape_escape`), and it leaves octets alone just when none of the three
numbers stands in them (`unescape_eq_self_iff`).

The reader looks three octets ahead and the writer looks at one, so the two take
different strides. Both lemmas go by the reader's: at the front of any octets is a
number, or an octet that it copies (`code_induction`). What has to be seen is that
no number comes about where there was none. It would have to begin with a percent
sign that was copied, and what follows the percent sign in a number is not
escaped, nor does anything that is escaped begin with it (`digits_prefix_iff`).

Escaped octets hold none of the three octets, so escaping them again changes
nothing. They are also text, that of the escaped characters (`escapeText`).

## Main definitions

* `unescape`: Putting octets back for their numbers.
* `escapeText`: Escaping a text character by character.

## Theorems

* `code_induction`: Induction by the strides of the reader.
* `unescape_escape`: Unescaping does not see whether octets were escaped.
* `unescape_eq_self_iff`: Which octets unescaping leaves alone.
* `escape_escape`: Escaping twice is escaping once.
* `utf8_escapeText`: The octets of an escaped text.
* `unescape_escape_eq_iff`: Which texts can be read back.
-/

namespace FormData

/-- The octets that are written by number. -/
def Bytes.escaped : Bytes := [Bytes.quote, Bytes.cr, Bytes.lf]

/-- Put octets back for their numbers, from left to right. All else is copied. -/
def unescape : Bytes → Bytes
  | 37 :: 50 :: 50 :: rest => Bytes.quote :: unescape rest
  | 37 :: 48 :: 68 :: rest => Bytes.cr :: unescape rest
  | 37 :: 48 :: 65 :: rest => Bytes.lf :: unescape rest
  | octet :: rest => octet :: unescape rest
  | [] => []

theorem escapeOctet_of_not_mem (octet : UInt8) (h : octet ∉ Bytes.escaped) :
    escapeOctet octet = [octet] := by
  simp only [Bytes.escaped, List.mem_cons, List.not_mem_nil, or_false, not_or] at h
  unfold escapeOctet
  rw [if_neg h.1, if_neg h.2.1, if_neg h.2.2]

theorem escape_cons (octet : UInt8) (rest : Bytes) :
    escape (octet :: rest) = escapeOctet octet ++ escape rest := rfl

/-- What may be shown of the numbers one by one. -/
theorem forall_escaped {P : UInt8 → Prop} (quote : P Bytes.quote) (cr : P Bytes.cr)
    (lf : P Bytes.lf) : ∀ octet ∈ Bytes.escaped, P octet := by
  intro octet h
  simp only [Bytes.escaped, List.mem_cons, List.not_mem_nil, or_false] at h
  rcases h with rfl | rfl | rfl
  · exact quote
  · exact cr
  · exact lf

theorem length_escapeOctet : ∀ octet ∈ Bytes.escaped, (escapeOctet octet).length = 3 :=
  forall_escaped (by decide) (by decide) (by decide)

theorem unescape_code (rest : Bytes) :
    ∀ octet ∈ Bytes.escaped, unescape (escapeOctet octet ++ rest) = octet :: unescape rest :=
  forall_escaped rfl rfl rfl

/-- Where no number stands in front, the first octet is copied. -/
theorem unescape_cons (first : UInt8) (rest : Bytes)
    (h : ∀ octet ∈ Bytes.escaped, ¬ escapeOctet octet <+: first :: rest) :
    unescape (first :: rest) = first :: unescape rest := by
  have hquote := h Bytes.quote (by decide)
  have hcr := h Bytes.cr (by decide)
  have hlf := h Bytes.lf (by decide)
  conv_lhs => unfold unescape
  split
  next tail heq => exact absurd ⟨tail, heq.symm⟩ hquote
  next tail heq => exact absurd ⟨tail, heq.symm⟩ hcr
  next tail heq => exact absurd ⟨tail, heq.symm⟩ hlf
  next octet tail _ _ _ heq =>
    cases heq
    rfl
  next heq => cases heq

/-- Induction by the strides of the reader. At the front is a number, and it is
    taken whole, or an octet with which none begins. -/
theorem code_induction {P : Bytes → Prop} (nil : P [])
    (code : ∀ octet ∈ Bytes.escaped, ∀ rest, P rest → P (escapeOctet octet ++ rest))
    (plain : ∀ first rest, (∀ octet ∈ Bytes.escaped, ¬ escapeOctet octet <+: first :: rest) →
      P rest → P (first :: rest))
    (octets : Bytes) : P octets := by
  -- A number takes three octets off the front at once, so the length is what goes
  -- down.
  induction hlength : octets.length using Nat.strong_induction_on generalizing octets with
  | _ n ih =>
    cases octets with
    | nil => exact nil
    | cons first rest =>
        by_cases hcode : ∃ octet ∈ Bytes.escaped, escapeOctet octet <+: first :: rest
        · rcases hcode with ⟨octet, hmem, tail, htail⟩
          rw [← htail, List.length_append, length_escapeOctet octet hmem] at hlength
          rw [← htail]
          exact code octet hmem tail (ih tail.length (by omega) tail rfl)
        · have hnone : ∀ octet ∈ Bytes.escaped, ¬ escapeOctet octet <+: first :: rest :=
            fun octet hmem hprefix => hcode ⟨octet, hmem, hprefix⟩
          rw [List.length_cons] at hlength
          exact plain first rest hnone (ih rest.length (by omega) rest rfl)

/-- A number is not escaped itself. -/
theorem escape_escapeOctet (octet : UInt8) : escape (escapeOctet octet) = escapeOctet octet := by
  by_cases hmem : octet ∈ Bytes.escaped
  · exact forall_escaped (P := fun octet => escape (escapeOctet octet) = escapeOctet octet)
      (by decide) (by decide) (by decide) octet hmem
  · rw [escapeOctet_of_not_mem octet hmem, escape_cons, escapeOctet_of_not_mem octet hmem]
    rfl

/-- Escaping twice is escaping once. -/
theorem escape_escape (octets : Bytes) : escape (escape octets) = escape octets := by
  induction octets with
  | nil => rfl
  | cons octet rest ih => rw [escape_cons, escape_append, escape_escapeOctet, ih]

-- A number is a percent sign and two octets that are neither escaped nor percent
-- signs.
theorem exists_digits : ∀ octet ∈ Bytes.escaped, ∃ digits, escapeOctet octet = 37 :: digits
    ∧ ∀ digit ∈ digits, digit ∉ Bytes.escaped ∧ digit ≠ 37 := by
  have hpair : ∀ high low : UInt8, high ∉ Bytes.escaped ∧ high ≠ 37 →
      low ∉ Bytes.escaped ∧ low ≠ 37 →
      ∀ digit ∈ [high, low], digit ∉ Bytes.escaped ∧ digit ≠ 37 :=
    fun _ _ hhigh hlow => List.forall_mem_cons.mpr ⟨hhigh, List.forall_mem_singleton.mpr hlow⟩
  exact forall_escaped ⟨[50, 50], rfl, hpair 50 50 (by decide) (by decide)⟩
    ⟨[48, 68], rfl, hpair 48 68 (by decide) (by decide)⟩
    ⟨[48, 65], rfl, hpair 48 65 (by decide) (by decide)⟩

/-- What follows the percent sign of a number stands in front of escaped octets
    just when it stood there before. The first octet that was escaped shows a
    percent sign, and that is none of them. -/
theorem digits_prefix_iff (digits rest : Bytes)
    (h : ∀ digit ∈ digits, digit ∉ Bytes.escaped ∧ digit ≠ 37) :
    digits <+: escape rest ↔ digits <+: rest := by
  induction digits generalizing rest with
  | nil => exact iff_of_true List.nil_prefix List.nil_prefix
  | cons digit digits ih =>
      rcases h digit List.mem_cons_self with ⟨hdigit, hpercent⟩
      have hdigits : ∀ other ∈ digits, other ∉ Bytes.escaped ∧ other ≠ 37 :=
        fun other hother => h other (List.mem_cons_of_mem _ hother)
      cases rest with
      | nil => rfl
      | cons first rest =>
          rw [escape_cons, List.cons_prefix_cons]
          by_cases hfirst : first ∈ Bytes.escaped
          · rcases exists_digits first hfirst with ⟨others, hcode, -⟩
            rw [hcode, List.cons_append, List.cons_prefix_cons]
            refine iff_of_false (fun hboth => hpercent hboth.1) (fun hboth => ?_)
            exact hdigit (hboth.1 ▸ hfirst)
          · rw [escapeOctet_of_not_mem first hfirst, List.singleton_append, List.cons_prefix_cons,
              ih rest hdigits]

/-- Behind an octet that is copied, escaping neither makes a number nor breaks
    one. -/
theorem code_prefix_iff (octet : UInt8) (hoctet : octet ∈ Bytes.escaped) (first : UInt8)
    (rest : Bytes) :
    escapeOctet octet <+: first :: escape rest ↔ escapeOctet octet <+: first :: rest := by
  rcases exists_digits octet hoctet with ⟨digits, hcode, hdigits⟩
  rw [hcode, List.cons_prefix_cons, List.cons_prefix_cons, digits_prefix_iff digits rest hdigits]

/-- Unescaping does not see whether octets were escaped. -/
theorem unescape_escape (octets : Bytes) : unescape (escape octets) = unescape octets := by
  induction octets using code_induction with
  | nil => rfl
  | code octet hoctet rest ih =>
      rw [escape_append, escape_escapeOctet, unescape_code _ octet hoctet,
        unescape_code _ octet hoctet, ih]
  | plain first rest hnone ih =>
      rw [escape_cons, unescape_cons first rest hnone]
      by_cases hfirst : first ∈ Bytes.escaped
      · rw [unescape_code _ first hfirst, ih]
      · rw [escapeOctet_of_not_mem first hfirst, List.singleton_append, unescape_cons, ih]
        intro octet hoctet hprefix
        exact hnone octet hoctet ((code_prefix_iff octet hoctet first rest).mp hprefix)

theorem length_unescape_le (octets : Bytes) : (unescape octets).length ≤ octets.length := by
  induction octets using code_induction with
  | nil => exact Nat.le_refl 0
  | code octet hoctet rest ih =>
      rw [unescape_code _ octet hoctet, List.length_append, length_escapeOctet octet hoctet,
        List.length_cons]
      omega
  | plain first rest hnone ih =>
      rw [unescape_cons first rest hnone]
      exact Nat.succ_le_succ ih

/-- Unescaping leaves octets alone just when none of the three numbers stands in
    them. Where one does, what is left is shorter. -/
theorem unescape_eq_self_iff (octets : Bytes) :
    unescape octets = octets ↔ ∀ octet ∈ Bytes.escaped, ¬ escapeOctet octet <:+: octets := by
  induction octets using code_induction with
  | nil =>
      refine iff_of_true rfl fun octet hoctet hinfix => ?_
      have hlength := hinfix.length_le
      rw [length_escapeOctet octet hoctet] at hlength
      exact absurd hlength (by decide)
  | code octet hoctet rest ih =>
      refine iff_of_false (fun hself => ?_) (fun hnone => ?_)
      · have hlength := congrArg List.length hself
        have hle := length_unescape_le rest
        rw [unescape_code _ octet hoctet, List.length_append, length_escapeOctet octet hoctet,
          List.length_cons] at hlength
        omega
      · exact hnone octet hoctet (List.prefix_append _ _).isInfix
  | plain first rest hnone ih =>
      rw [unescape_cons first rest hnone, List.cons.injEq, and_iff_right rfl, ih]
      refine forall₂_congr fun octet hoctet => not_congr ?_
      rw [List.infix_cons_iff]
      exact (or_iff_right (hnone octet hoctet)).symm

/-- Escaping a character. -/
def escapeChar (c : Char) : List Char :=
  if c = '"' then "%22".toList
  else if c = '\r' then "%0D".toList
  else if c = '\n' then "%0A".toList
  else [c]

/-- Escaping a text character by character. -/
def escapeText (text : String) : String :=
  String.ofList (text.toList.flatMap escapeChar)

theorem escape_of_forall_not_mem (octets : Bytes) (h : ∀ octet ∈ octets, octet ∉ Bytes.escaped) :
    escape octets = octets := by
  induction octets with
  | nil => rfl
  | cons octet rest ih =>
      rw [escape_cons, escapeOctet_of_not_mem octet (h octet List.mem_cons_self),
        ih fun other hother => h other (List.mem_cons_of_mem _ hother)]
      rfl

/-- The octets of an escaped character. The three that are escaped are one octet
    each, and no octet of any other is escaped. -/
theorem flatMap_utf8_escapeChar (c : Char) :
    (escapeChar c).flatMap String.utf8EncodeChar = escape (String.utf8EncodeChar c) := by
  by_cases hspecial : c = '"' ∨ c = '\r' ∨ c = '\n'
  · rcases hspecial with rfl | rfl | rfl
    · decide
    · decide
    · decide
  · simp only [not_or] at hspecial
    have hcopied : escapeChar c = [c] := by
      unfold escapeChar
      rw [if_neg hspecial.1, if_neg hspecial.2.1, if_neg hspecial.2.2]
    rw [hcopied, List.flatMap_singleton, escape_of_forall_not_mem]
    intro octet hoctet
    by_cases hc : c.toNat ≤ 127
    · rw [utf8EncodeChar_of_ascii c hc, List.mem_singleton] at hoctet
      subst hoctet
      have hne : ∀ d : Char, d.toNat ≤ 127 → c ≠ d → UInt8.ofNat c.toNat ≠ UInt8.ofNat d.toNat :=
        fun d hd hcd heq => hcd ((ofNat_toNat_inj c d hc hd).mp heq)
      have hquote := hne '"' (by decide) hspecial.1
      have hcr := hne '\r' (by decide) hspecial.2.1
      have hlf := hne '\n' (by decide) hspecial.2.2
      simp only [Bytes.escaped, List.mem_cons, List.not_mem_nil, or_false, not_or]
      exact ⟨hquote, hcr, hlf⟩
    · have hle := le_of_mem_utf8EncodeChar c (Nat.lt_of_not_le hc) octet hoctet
      intro hmem
      have hsmall : octet.toNat ≤ 127 :=
        forall_escaped (P := fun octet => octet.toNat ≤ 127)
          (by decide) (by decide) (by decide) octet hmem
      omega

theorem utf8_escapeText (text : String) : utf8 (escapeText text) = escape (utf8 text) := by
  rw [utf8, escapeText, String.toList_ofList, List.flatMap_assoc, utf8, escape, List.flatMap_assoc]
  exact List.flatMap_congr fun c _ => flatMap_utf8_escapeChar c

-- A number is ASCII, so it stands among the octets of a text just when it stands
-- in the text.
theorem percent_infix_iff (high low : Char) (hhigh : high.toNat ≤ 127) (hlow : low.toNat ≤ 127)
    (text : String) :
    ['%', high, low].flatMap String.utf8EncodeChar <:+: utf8 text
      ↔ ['%', high, low] <:+: text.toList := by
  refine flatMap_utf8_infix_iff '%' [high, low] text.toList ?_
  exact List.forall_mem_cons.mpr ⟨by decide,
    List.forall_mem_cons.mpr ⟨hhigh, List.forall_mem_singleton.mpr hlow⟩⟩

/-- Which texts can be read back. What is written for a text holds no quote and no
    line ending, and a reader gets the text back from it just when none of the
    three numbers stood in the text already. It is the octets of a text itself,
    and escaping that one changes nothing. What is written for two texts together
    is what is written for the one and then for the other. -/
theorem unescape_escape_eq_iff (text : String) :
    let written := escape (utf8 text)
    Bytes.quote ∉ written ∧ Bytes.cr ∉ written ∧ Bytes.lf ∉ written
    ∧ (unescape written = utf8 text ↔
        ¬ "%22".toList <:+: text.toList ∧ ¬ "%0D".toList <:+: text.toList
          ∧ ¬ "%0A".toList <:+: text.toList)
    ∧ utf8 (escapeText text) = written
    ∧ escape (utf8 (escapeText text)) = utf8 (escapeText text)
    ∧ ∀ more : String, escape (utf8 (text ++ more)) = written ++ escape (utf8 more) := by
  intro written
  have hfree := not_mem_escape (utf8 text)
  refine ⟨hfree _ (by decide), hfree _ (by decide), hfree _ (by decide), ?_,
    utf8_escapeText text, ?_, fun more => ?_⟩
  · have hquote := percent_infix_iff '2' '2' (by decide) (by decide) text
    have hcr := percent_infix_iff '0' 'D' (by decide) (by decide) text
    have hlf := percent_infix_iff '0' 'A' (by decide) (by decide) text
    rw [unescape_escape, unescape_eq_self_iff]
    constructor
    · intro h
      exact ⟨fun hin => h Bytes.quote (by decide) (hquote.mpr hin),
        fun hin => h Bytes.cr (by decide) (hcr.mpr hin),
        fun hin => h Bytes.lf (by decide) (hlf.mpr hin)⟩
    · rintro ⟨hnoQuote, hnoCr, hnoLf⟩
      exact forall_escaped (fun hin => hnoQuote (hquote.mp hin)) (fun hin => hnoCr (hcr.mp hin))
        (fun hin => hnoLf (hlf.mp hin))
  · rw [utf8_escapeText, escape_escape]
  · rw [utf8_append, escape_append]

-- A quote behind what could begin a number, and a number that was there before.
example : unescape (escape (utf8 "%2\"")) = utf8 "%2\""
    ∧ unescape (escape (utf8 "%22")) = utf8 "\"" := by
  decide

end FormData
