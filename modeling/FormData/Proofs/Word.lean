import Mathlib.Algebra.BigOperators.Group.List.Basic
import Mathlib.Algebra.Order.Ring.Int

/-!
# Words of 64 Bits

What becomes of numbers that are kept in words.

A length has no bound here, and a machine keeps it in a word of 64 bits. As long
as every number is a word the two agree, and a sum or a difference is refused
where they would not (`Word.add?`, `Word.sub?`). What a program does then depends
on how it was built. Either it stops, or it goes on with the result modulo the
number of words. Both are an `Overflow`.

What holds under both can be said at once. A number is kept as the word that
stands for it, if one does (`Overflow.keep`), and the words that stand for two
numbers give the word that stands for their sum (`Overflow.add_of_keep`). For a
difference this needs that the numbers themselves have one
(`Overflow.sub_of_keep`), which is where it matters that nothing is subtracted
that was not added before. A program that stops does not stop at a difference
then, since the difference is no greater than what it was taken from
(`Overflow.keep_of_le`).

## Main definitions

* `Word.add?`, `sub?`, `sum?`: Sums and differences that are words.
* `Word.Overflow`: What is done where a result is no word.
* `Word.Overflow.add`, `sub`: Sums and differences of words.
* `Word.Overflow.keep`: The word that stands for a number.

## Theorems

* `Word.sum?_eq`: If the whole sum is a word, so is every sum on the way.
* `Word.Overflow.keep_eq_none_iff`: When no word stands for a number.
* `Word.Overflow.add_of_keep`, `Word.Overflow.sub_of_keep`: Words do what the
  numbers they stand for do.
-/

namespace FormData

namespace Word

/-- How many words of 64 bits there are. -/
def bound : Nat :=
  2 ^ 64

/-- The sum of two words, if it is one. -/
def add? (a b : Nat) : Option Nat :=
  if a + b < bound then some (a + b) else none

/-- The difference of two words, if there is one. -/
def sub? (a b : Nat) : Option Nat :=
  if b ≤ a then some (a - b) else none

/-- The sum of words from left to right, if each sum on the way is one. -/
def sum? (words : List Nat) : Option Nat :=
  words.foldlM add? 0

theorem add?_eq_some_iff (a b c : Nat) : add? a b = some c ↔ a + b < bound ∧ a + b = c := by
  rw [add?, Option.ite_none_right_eq_some, Option.some.injEq]

theorem sub?_eq_some_iff (a b c : Nat) : sub? a b = some c ↔ b ≤ a ∧ a - b = c := by
  rw [sub?, Option.ite_none_right_eq_some, Option.some.injEq]

theorem foldlM_add? (words : List Nat) (first : Nat) (h : first + words.sum < bound) :
    words.foldlM add? first = some (first + words.sum) := by
  induction words generalizing first with
  | nil => rfl
  | cons word rest ih =>
      rw [List.sum_cons, ← Nat.add_assoc] at h ⊢
      have hfirst : add? first word = some (first + word) :=
        (add?_eq_some_iff first word _).mpr ⟨by omega, rfl⟩
      rw [List.foldlM_cons, hfirst]
      exact ih (first + word) h

/-- If the whole sum is a word, so is every sum on the way. -/
theorem sum?_eq (words : List Nat) (h : words.sum < bound) : sum? words = some words.sum := by
  have hfold := foldlM_add? words 0
  rw [Nat.zero_add] at hfold
  exact hfold h

/-- What is done where a result is no word. -/
inductive Overflow where
  /-- The program stops. -/
  | stops
  /-- The program goes on with the result modulo the number of words. -/
  | wraps
  deriving Repr, DecidableEq

namespace Overflow

/-- The sum of two words. -/
def add : Overflow → Nat → Nat → Option Nat
  | .stops, a, b => add? a b
  | .wraps, a, b => some ((a + b) % bound)

/-- The difference of two words. -/
def sub : Overflow → Nat → Nat → Option Nat
  | .stops, a, b => sub? a b
  | .wraps, a, b => some ((a + bound - b) % bound)

/-- The word that stands for a number, if one does. -/
def keep : Overflow → Nat → Option Nat
  | .stops, n => if n < bound then some n else none
  | .wraps, n => some (n % bound)

/-- A word stands for a number, unless the program stops at it. -/
theorem keep_eq_some_iff (mode : Overflow) (n word : Nat) :
    mode.keep n = some word ↔ word = n % bound ∧ (mode = .stops → n < bound) := by
  cases mode with
  | wraps => simp only [keep, Option.some.injEq, reduceCtorEq, false_imp_iff, and_true, eq_comm]
  | stops =>
      rw [keep, Option.ite_none_right_eq_some, Option.some.injEq]
      constructor
      · rintro ⟨hlt, rfl⟩
        exact ⟨(Nat.mod_eq_of_lt hlt).symm, fun _ => hlt⟩
      · rintro ⟨rfl, hlt⟩
        exact ⟨hlt rfl, (Nat.mod_eq_of_lt (hlt rfl)).symm⟩

theorem keep_eq_none_iff (mode : Overflow) (n : Nat) :
    mode.keep n = none ↔ mode = .stops ∧ bound ≤ n := by
  cases mode with
  | wraps => simp only [keep, reduceCtorEq, false_and]
  | stops => simp only [keep, ite_eq_right_iff, reduceCtorEq, imp_false, Nat.not_lt, true_and]

theorem keep_of_lt (mode : Overflow) (n : Nat) (h : n < bound) : mode.keep n = some n :=
  (keep_eq_some_iff mode n n).mpr ⟨(Nat.mod_eq_of_lt h).symm, fun _ => h⟩

/-- A sum is kept as the word that stands for it. -/
theorem add_eq_keep (mode : Overflow) (a b : Nat) : mode.add a b = mode.keep (a + b) := by
  cases mode <;> rfl

/-- Words that stand for two numbers add up to the one that stands for the sum. -/
theorem add_of_keep (mode : Overflow) (a b a' b' : Nat) (ha : mode.keep a = some a')
    (hb : mode.keep b = some b') : mode.add a' b' = mode.keep (a + b) := by
  rw [keep_eq_some_iff] at ha hb
  rw [add_eq_keep, ha.1, hb.1]
  cases mode with
  | wraps => rw [keep, keep, ← Nat.add_mod]
  | stops => rw [Nat.mod_eq_of_lt (ha.2 rfl), Nat.mod_eq_of_lt (hb.2 rfl)]

/-- If a number has been added, taking it away again is right for the words as
    well. -/
theorem sub_of_keep (mode : Overflow) (a b a' b' : Nat) (ha : mode.keep a = some a')
    (hb : mode.keep b = some b') (hle : b ≤ a) : mode.sub a' b' = mode.keep (a - b) := by
  rw [keep_eq_some_iff] at ha hb
  rw [ha.1, hb.1]
  cases mode with
  | wraps =>
      refine congrArg some ?_
      simp only [bound]
      omega
  | stops =>
      have hlt : a - b < bound := Nat.lt_of_le_of_lt (Nat.sub_le a b) (ha.2 rfl)
      rw [Nat.mod_eq_of_lt (ha.2 rfl), Nat.mod_eq_of_lt (hb.2 rfl), keep_of_lt _ _ hlt, sub, sub?,
        if_pos hle]

/-- Nobody stops at a number that is no greater than one that was kept. -/
theorem keep_of_le (mode : Overflow) (a b a' : Nat) (ha : mode.keep a = some a') (hle : b ≤ a) :
    mode.keep b = some (b % bound) := by
  rw [keep_eq_some_iff] at ha ⊢
  exact ⟨rfl, fun hstops => Nat.lt_of_le_of_lt hle (ha.2 hstops)⟩

end Overflow

end Word

end FormData
