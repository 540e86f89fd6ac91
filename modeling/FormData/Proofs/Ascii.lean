import FormData.Text.Utf8
import Mathlib.Data.List.Infix

/-!
# ASCII within UTF-8

An ASCII character is one octet, and no other character has that octet anywhere.

What is written by number or cut at a mark is ASCII, and it is looked for among
octets. A claim about such a thing is a claim about characters all the same. The
two agree because the octets of any other character are all 128 or more
(`le_of_mem_utf8EncodeChar`), so an octet below that is a whole character, and a
pattern that begins with one cannot begin in the middle of anything
(`infix_append_of_not_mem`).

## Theorems

* `utf8EncodeChar_of_ascii`: An ASCII character is its own number.
* `le_of_mem_utf8EncodeChar`: The octets of any other are not ASCII.
* `flatMap_utf8_infix_iff`: An ASCII text stands among the octets of a text just when it
  stands in the text.
-/

namespace FormData

theorem utf8EncodeChar_of_ascii (c : Char) (h : c.toNat ≤ 127) :
    String.utf8EncodeChar c = [UInt8.ofNat c.toNat] :=
  String.utf8EncodeChar_eq_singleton (Char.utf8Size_eq_one_iff.mpr h)

/-- The octets of a character that is not ASCII are not ASCII either. -/
theorem le_of_mem_utf8EncodeChar (c : Char) (h : 127 < c.toNat) (octet : UInt8)
    (hmem : octet ∈ String.utf8EncodeChar c) : 128 ≤ octet.toNat := by
  have hbig : ¬ c.val.toNat ≤ 127 := Nat.not_le.mpr h
  unfold String.utf8EncodeChar at hmem
  simp only [if_neg hbig] at hmem
  -- Whatever the width, each octet has a constant added that makes it large, and
  -- stays below 256.
  split at hmem
  · simp only [List.mem_cons, List.not_mem_nil, or_false] at hmem
    rcases hmem with rfl | rfl
    all_goals
      rw [UInt8.toNat_ofNat']
      omega
  · split at hmem
    · simp only [List.mem_cons, List.not_mem_nil, or_false] at hmem
      rcases hmem with rfl | rfl | rfl
      all_goals
        rw [UInt8.toNat_ofNat']
        omega
    · simp only [List.mem_cons, List.not_mem_nil, or_false] at hmem
      rcases hmem with rfl | rfl | rfl | rfl
      all_goals
        rw [UInt8.toNat_ofNat']
        omega

theorem not_mem_utf8EncodeChar (c : Char) (h : 127 < c.toNat) (n : Nat) (hn : n ≤ 127) :
    UInt8.ofNat n ∉ String.utf8EncodeChar c := by
  intro hmem
  have hle := le_of_mem_utf8EncodeChar c h _ hmem
  rw [UInt8.toNat_ofNat'] at hle
  omega

-- The octet of an ASCII character tells which one it is.
theorem ofNat_toNat_inj (c d : Char) (hc : c.toNat ≤ 127) (hd : d.toNat ≤ 127) :
    UInt8.ofNat c.toNat = UInt8.ofNat d.toNat ↔ c = d := by
  constructor
  · intro h
    have hnat := congrArg UInt8.toNat h
    rw [UInt8.toNat_ofNat', UInt8.toNat_ofNat'] at hnat
    refine Char.ext (UInt32.toNat_inj.mp ?_)
    have hval : c.val.toNat = c.toNat ∧ d.val.toNat = d.toNat := ⟨rfl, rfl⟩
    omega
  · rintro rfl
    rfl

/-- An ASCII text stands at the front of the octets of a text just when it stands
    at the front of the text. -/
theorem flatMap_utf8_prefix_iff (pattern text : List Char) (h : ∀ c ∈ pattern, c.toNat ≤ 127) :
    pattern.flatMap String.utf8EncodeChar <+: text.flatMap String.utf8EncodeChar
      ↔ pattern <+: text := by
  induction pattern generalizing text with
  | nil => exact iff_of_true List.nil_prefix List.nil_prefix
  | cons c rest ih =>
      have hc := h c List.mem_cons_self
      have hrest : ∀ d ∈ rest, d.toNat ≤ 127 := fun d hd => h d (List.mem_cons_of_mem _ hd)
      rw [List.flatMap_cons, utf8EncodeChar_of_ascii c hc, List.singleton_append]
      cases text with
      | nil =>
          rw [List.flatMap_nil, List.prefix_nil, List.prefix_nil]
          exact iff_of_false (List.cons_ne_nil _ _) (List.cons_ne_nil _ _)
      | cons d text =>
          rw [List.flatMap_cons, List.cons_prefix_cons]
          by_cases hd : d.toNat ≤ 127
          · rw [utf8EncodeChar_of_ascii d hd, List.singleton_append, List.cons_prefix_cons,
              ofNat_toNat_inj c d hc hd, ih text hrest]
          · -- The first octet of the other character is none of the pattern's.
            have hd : 127 < d.toNat := Nat.lt_of_not_le hd
            have hnot := not_mem_utf8EncodeChar d hd c.toNat hc
            rcases hoctets : String.utf8EncodeChar d with _ | ⟨first, others⟩
            · exact absurd hoctets String.utf8EncodeChar_ne_nil
            · rw [hoctets] at hnot
              rw [List.cons_append, List.cons_prefix_cons]
              refine iff_of_false (fun hboth => ?_) (fun hboth => ?_)
              · exact hnot (hboth.1 ▸ List.mem_cons_self)
              · rw [hboth.1] at hc
                omega

-- A pattern cannot begin where its first octet is not.
theorem infix_append_of_not_mem {α : Type} (first : α) (rest front back : List α)
    (h : first ∉ front) : first :: rest <:+: front ++ back ↔ first :: rest <:+: back := by
  induction front with
  | nil => rw [List.nil_append]
  | cons x front ih =>
      rw [List.mem_cons, not_or] at h
      rw [List.cons_append, List.infix_cons_iff, List.cons_prefix_cons, ih h.2]
      exact or_iff_right fun hboth => h.1 hboth.1

/-- An ASCII text stands among the octets of a text just when it stands in the
    text. The induction is on the text. At an ASCII character both can begin, and
    within the octets of another neither can. -/
theorem flatMap_utf8_infix_iff (c : Char) (pattern text : List Char)
    (h : ∀ d ∈ c :: pattern, d.toNat ≤ 127) :
    (c :: pattern).flatMap String.utf8EncodeChar <:+: text.flatMap String.utf8EncodeChar
      ↔ c :: pattern <:+: text := by
  have hc := h c List.mem_cons_self
  induction text with
  | nil =>
      rw [List.flatMap_cons, utf8EncodeChar_of_ascii c hc, List.singleton_append, List.flatMap_nil,
        List.infix_nil, List.infix_nil]
      exact iff_of_false (List.cons_ne_nil _ _) (List.cons_ne_nil _ _)
  | cons d text ih =>
      have hprefix := flatMap_utf8_prefix_iff (c :: pattern) (d :: text) h
      refine Iff.trans ?_ List.infix_cons_iff.symm
      refine Iff.trans ?_ (or_congr hprefix ih)
      rw [List.flatMap_cons, List.flatMap_cons]
      by_cases hd : d.toNat ≤ 127
      · rw [utf8EncodeChar_of_ascii d hd, List.singleton_append, List.infix_cons_iff]
      · have hd : 127 < d.toNat := Nat.lt_of_not_le hd
        have hnot := not_mem_utf8EncodeChar d hd c.toNat hc
        rw [utf8EncodeChar_of_ascii c hc, List.singleton_append,
          infix_append_of_not_mem _ _ _ _ hnot]
        refine (or_iff_right_of_imp fun hfront => ?_).symm
        exact (infix_append_of_not_mem _ _ _ _ hnot).mp hfront.isInfix

end FormData
