import FormData.Boundary

/-!
# Generated Boundaries

Boundaries made from random draws, for bodies whose caller does not care.

A generated token is a readable tag followed by sixteen characters, each drawn
from the digits and the lower-case letters. The draws are an argument rather
than an effect: everything that has to be known about a generated boundary,
above all that it is acceptable, is then a statement about every possible
sequence of draws, and where the randomness comes from is the caller's choice.

`Draws.random` takes them from any generator of random numbers.
`Boundary.ofDraws` never has to check its token. That no sequence of draws
can spoil it is `flaw?_generatedToken`, proved once: the tag and the drawn
characters are all single-octet token characters, there are few enough of
them, and the last is not a space.

## Main definitions

* `Draws`: Sixteen draws, each an index below thirty-six.
* `Boundary.digit`: The character an index stands for.
* `Boundary.generatedToken`: The token of a sequence of draws.
* `Boundary.ofDraws`: The boundary of a sequence of draws.
* `Draws.random`: A sequence of draws from a generator.
* `Boundary.Survey`: What a batch of generated boundaries has in common.

## Theorems

* `Boundary.flaw?_generatedToken`: No sequence of draws spoils the token.
-/

namespace FormData

/-- Sixteen draws, each the index of one of thirty-six characters. -/
abbrev Draws := Vector (Fin 36) 16

namespace Boundary

/-- The readable tag every generated token begins with. -/
def tag : String := "MicroMultipartBoundary"

/-- The number of random characters behind the tag. -/
def randomLength : Nat := 16

/-- The character an index stands for: the ten digits, then the letters. -/
def digit (i : Fin 36) : Char :=
  if i.val < 10 then Char.ofNat (48 + i.val) else Char.ofNat (87 + i.val)

/-- The token of a sequence of draws. -/
def generatedToken (draws : Draws) : String :=
  tag ++ String.ofList (draws.toList.map digit)

theorem toList_generatedToken (draws : Draws) :
    (generatedToken draws).toList = tag.toList ++ draws.toList.map digit := by
  simp only [generatedToken, String.toList_append, String.toList_ofList]

/-- A drawn character is written as one octet. -/
theorem length_utf8EncodeChar_digit :
    ∀ i : Fin 36, (String.utf8EncodeChar (digit i)).length = 1 := by
  decide

/-- A drawn character may stand in a token. -/
theorem isTokenChar_digit : ∀ i : Fin 36, isTokenChar (digit i) = true := by
  decide

/-- A drawn character is no space. -/
theorem digit_ne_space : ∀ i : Fin 36, digit i ≠ ' ' := by
  decide

/-- The tag is written as twenty-two octets, and each draw adds one. -/
theorem length_utf8_generatedToken (draws : Draws) :
    (utf8 (generatedToken draws)).length = 38 := by
  have hdraws : ∀ is : List (Fin 36),
      ((is.map digit).flatMap String.utf8EncodeChar).length = is.length := by
    intro is
    induction is with
    | nil => rfl
    | cons i rest ih =>
        rw [List.map_cons, List.flatMap_cons, List.length_append, ih,
          length_utf8EncodeChar_digit i, List.length_cons, Nat.add_comm]
  have htag : (tag.toList.flatMap String.utf8EncodeChar).length = 22 := by
    decide
  rw [utf8, toList_generatedToken, List.flatMap_append, List.length_append, htag,
    hdraws, Vector.length_toList]

/-- No sequence of draws spoils the token. -/
theorem flaw?_generatedToken (draws : Draws) : flaw? (generatedToken draws) = none := by
  have hnonempty : (generatedToken draws).toList ≠ [] := by
    rw [toList_generatedToken]
    exact List.append_ne_nil_of_left_ne_nil (by decide) _
  have hlength : ¬ maxLength < (utf8 (generatedToken draws)).length := by
    rw [length_utf8_generatedToken]
    decide
  have hlast : (generatedToken draws).toList.getLast? ≠ some ' ' := by
    rw [toList_generatedToken]
    intro h
    have hdrawn : draws.toList.map digit ≠ [] := by
      intro hnil
      have hlen := congrArg List.length hnil
      rw [List.length_map, Vector.length_toList] at hlen
      exact absurd hlen (by decide)
    rw [List.getLast?_append, List.getLast?_eq_some_getLast hdrawn, Option.some_or,
      Option.some.injEq] at h
    rcases List.mem_map.mp (List.getLast_mem hdrawn) with ⟨i, _, hi⟩
    exact digit_ne_space i (hi.trans h)
  have hchars : (generatedToken draws).toList.find? (fun c => !isTokenChar c) = none := by
    rw [List.find?_eq_none, toList_generatedToken]
    intro c hc
    rw [Bool.not_eq_true', Bool.not_eq_false]
    rcases List.mem_append.mp hc with htag | hdrawn
    · have hall : tag.toList.all isTokenChar = true := by
        decide
      exact List.all_eq_true.mp hall c htag
    · rcases List.mem_map.mp hdrawn with ⟨i, _, rfl⟩
      exact isTokenChar_digit i
  rw [flaw?, if_neg hnonempty, if_neg hlength, if_neg hlast, hchars, Option.map_none]

/-- The boundary of a sequence of draws. -/
def ofDraws (draws : Draws) : Boundary :=
  ⟨generatedToken draws, flaw?_generatedToken draws⟩

/-- Whether a token has the form of a generated one: the tag, then the right
    number of digits and lower-case letters. -/
def hasGeneratedForm (token : String) : Bool :=
  let drawn := token.toList.drop tag.toList.length
  tag.toList.isPrefixOf token.toList
    && drawn.length == randomLength
    && drawn.all (fun c => c.isDigit || c.isLower)

/-- What a batch of boundaries has in common. -/
structure Survey where
  /-- How many different tokens the batch holds. -/
  distinct : Nat
  /-- Whether every token has the generated form and is accepted again as the
      same boundary. -/
  wellFormed : Bool
  /-- Whether any token has to be announced in quotes. -/
  quoted : Bool
  /-- The number of octets in the last token. -/
  tokenLength : Nat
  deriving Repr, DecidableEq

/-- Survey a batch of boundaries. -/
def survey (batch : List Boundary) : Survey where
  distinct := (batch.map token).eraseDups.length
  wellFormed := batch.all fun b => hasGeneratedForm b.token &&
    (match ofToken? b.token with
      | .ok again => again == b
      | .error _ => false)
  quoted := batch.any (fun b => !b.isBare)
  tokenLength := (batch.getLast?.map (fun b => (utf8 b.token).length)).getD 0

end Boundary

namespace Draws

/-- The draws that all give the first character. -/
def zero : Draws := Vector.replicate 16 0

/-- A sequence of draws from a generator of random numbers, with the generator
    as it is left. -/
def random {γ : Type} [RandomGen γ] (gen : γ) : Draws × γ :=
  let draw : StateM γ (Fin 36) := fun g =>
    let (n, g') := randNat g 0 35
    (Fin.ofNat 36 n, g')
  (Vector.replicate 16 ()).mapM (fun _ => draw) gen

/-- A number of boundaries, one after the other from the same generator. -/
def randomBoundaries {γ : Type} [RandomGen γ] : Nat → γ → List Boundary
  | 0, _ => []
  | n + 1, gen => Boundary.ofDraws (random gen).1 :: randomBoundaries n (random gen).2

end Draws

end FormData
