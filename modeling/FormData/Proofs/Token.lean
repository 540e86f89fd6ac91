import FormData.Boundary

/-!
# What a Token Holds

The octets of an acceptable token are printable ASCII.

A boundary carries the fact that its token has no flaw, which is a statement
about characters. What frames a body is octets, so this module turns the one
into the other. Every character a token may hold lies between the space and the
tilde (`toNat_of_isTokenChar`), is therefore a single octet in UTF-8, and that
octet is the character's own number. The consequence that matters most is what
is not there: no octet of a delimiter line's mark is part of a line ending.

## Theorems

* `Boundary.flaw?_eq_none_iff`: What it takes for a token to have no flaw.
* `Boundary.isTokenChar_of_mem`: Every character of a token is one it may hold.
* `Boundary.isTokenChar_eq_true_iff`: Which characters a token may hold.
* `Boundary.toNat_of_isTokenChar`: Those characters are printable ASCII.
* `Boundary.le_of_mem_mark`: The octets of the mark are printable.
* `Boundary.cr_not_mem_mark`: The mark holds no carriage return.
-/

namespace FormData

namespace Boundary

/-- A token has no flaw exactly if none of the tests finds one. -/
theorem flaw?_eq_none_iff (token : String) :
    flaw? token = none ↔ token.toList ≠ [] ∧ (utf8 token).length ≤ maxLength
      ∧ token.toList.getLast? ≠ some ' ' ∧ ∀ c ∈ token.toList, isTokenChar c = true := by
  unfold flaw?
  by_cases hempty : token.toList = []
  · rw [if_pos hempty]
    exact ⟨fun h => absurd h (Option.some_ne_none _), fun h => absurd hempty h.1⟩
  by_cases hlong : maxLength < (utf8 token).length
  · rw [if_neg hempty, if_pos hlong]
    exact ⟨fun h => absurd h (Option.some_ne_none _), fun h => absurd hlong (Nat.not_lt.mpr h.2.1)⟩
  by_cases hspace : token.toList.getLast? = some ' '
  · rw [if_neg hempty, if_neg hlong, if_pos hspace]
    exact ⟨fun h => absurd h (Option.some_ne_none _), fun h => absurd hspace h.2.2.1⟩
  · -- Only the last test is left, which looks for a foreign character.
    rw [if_neg hempty, if_neg hlong, if_neg hspace, Option.map_eq_none_iff, List.find?_eq_none]
    simp only [Bool.not_eq_true, Bool.not_eq_false']
    exact ⟨fun h => ⟨hempty, Nat.le_of_not_lt hlong, hspace, h⟩, fun h => h.2.2.2⟩

theorem toList_token_ne_nil (b : Boundary) : b.token.toList ≠ [] :=
  ((flaw?_eq_none_iff b.token).mp b.sound).1

/-- Every character of a token is one that a token may hold. -/
theorem isTokenChar_of_mem (b : Boundary) (c : Char) (h : c ∈ b.token.toList) :
    isTokenChar c = true :=
  ((flaw?_eq_none_iff b.token).mp b.sound).2.2.2 c h

/-- A token may hold the letters, the digits and the marks. -/
theorem isTokenChar_eq_true_iff (c : Char) :
    isTokenChar c = true ↔ ((('A' ≤ c ∧ c ≤ 'Z') ∨ ('a' ≤ c ∧ c ≤ 'z')) ∨ ('0' ≤ c ∧ c ≤ '9'))
      ∨ c ∈ marks := by
  have hranges : isTokenChar c
      = (decide (c.val ≥ 'A'.val ∧ c.val ≤ 'Z'.val)
        || decide (c.val ≥ 'a'.val) && decide (c.val ≤ 'z'.val)
        || decide (c.val ≥ '0'.val) && decide (c.val ≤ '9'.val)
        || marks.contains c) := rfl
  rw [hranges]
  simp only [Bool.or_eq_true, Bool.and_eq_true, decide_eq_true_eq, ge_iff_le,
    List.contains_iff_mem, Char.le_def]

/-- The characters a token may hold lie between the space and the tilde. -/
theorem toNat_of_isTokenChar (c : Char) (h : isTokenChar c = true) :
    32 ≤ c.toNat ∧ c.toNat < 127 := by
  rcases (isTokenChar_eq_true_iff c).mp h with
    ((⟨hlow, hhigh⟩ | ⟨hlow, hhigh⟩) | ⟨hlow, hhigh⟩) | hmark
  · exact ⟨Nat.le_trans (by decide) hlow, Nat.lt_of_le_of_lt hhigh (by decide)⟩
  · exact ⟨Nat.le_trans (by decide) hlow, Nat.lt_of_le_of_lt hhigh (by decide)⟩
  · exact ⟨Nat.le_trans (by decide) hlow, Nat.lt_of_le_of_lt hhigh (by decide)⟩
  · -- The marks are few enough to be looked at one by one.
    have hall : marks.all (fun m => decide (32 ≤ m.toNat ∧ m.toNat < 127)) = true := rfl
    exact of_decide_eq_true (List.all_eq_true.mp hall c hmark)

/-- A character that a token may hold is one octet, its own number. -/
theorem utf8EncodeChar_of_isTokenChar (c : Char) (h : isTokenChar c = true) :
    String.utf8EncodeChar c = [c.val.toUInt8] := by
  refine String.utf8EncodeChar_eq_singleton (Char.utf8Size_eq_one_iff.mpr ?_)
  have hascii := (toNat_of_isTokenChar c h).2
  rw [UInt32.le_iff_toNat_le]
  exact Nat.le_of_lt_succ (Nat.lt_of_lt_of_le hascii (by decide))

/-- The octets of the mark are printable. -/
theorem le_of_mem_mark (b : Boundary) (x : UInt8) (h : x ∈ b.mark) : 32 ≤ x.toNat := by
  rcases List.mem_append.mp h with hdash | htoken
  · have hall : Bytes.dashes.all (fun y => decide (32 ≤ y.toNat)) = true := rfl
    exact of_decide_eq_true (List.all_eq_true.mp hall x hdash)
  · rcases List.mem_flatMap.mp htoken with ⟨c, hc, hx⟩
    have hchar := isTokenChar_of_mem b c hc
    have hascii := toNat_of_isTokenChar c hchar
    rw [utf8EncodeChar_of_isTokenChar c hchar, List.mem_singleton] at hx
    rw [hx, UInt32.toNat_toUInt8]
    -- The number is small enough for the octet to be the number itself.
    have hval : c.val.toNat = c.toNat := rfl
    omega

/-- The mark holds no carriage return. -/
theorem cr_not_mem_mark (b : Boundary) : Bytes.cr ∉ b.mark := by
  intro h
  have hle := le_of_mem_mark b Bytes.cr h
  exact absurd hle (by decide)

end Boundary

end FormData
