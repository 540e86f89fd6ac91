import FormData.Proofs.Edits
import FormData.Proofs.Word

/-!
# Lengths in Words

A body whose length is kept in a word.

A part of the caller's own may report any length, so the length of a body need
not be a word, and a machine that keeps it in one has to do something about that.
The edits of such a machine are spelled out here step by step. The charge of a
part is a sum of words, putting the part in adds it to the length, and taking the
part out takes it away again. Each of these may be no word, and an `Overflow`
says what is done then.

The machine keeps the body as long as it goes on. If a word stands for the length
of a body, then after an edit it is the word that stands for the length of the
edited body, if one does (`editIn_of_keptIn`), and the parts are the same ones.
So a run of edits never needs to be looked at twice. What there is to know about
it is known of the lengths themselves (`editAllIn_of_keptIn`).

Taking a part out never makes the machine stop. What is taken away was put there
before, so the length only gets smaller (`removeIn_of_keptIn`).

## Main definitions

* `Body.chargeIn`, `addIn`, `removeIn`: The edits of a body, with words.
* `Body.editIn`, `Body.editAllIn`: Doing one edit, and doing several in order.
* `Body.keptIn`: The body with the word that stands for its length.

## Theorems

* `Boundary.length_only_lt`: An empty body has a length that is a word.
* `Body.removeIn_of_keptIn`: Taking a part out, with words.
* `Body.editIn_of_keptIn`: What one edit does to a body that is kept.
* `Body.editAllIn_of_keptIn`: What a run of edits does to it.
* `Body.editAllIn_empty_eq_none_iff`: When a run of edits makes a program stop.
-/

namespace FormData

namespace Boundary

theorem length_token_le (b : Boundary) : (utf8 b.token).length ≤ maxLength := by
  have hsound := b.sound
  unfold flaw? at hsound
  split at hsound
  · cases hsound
  · split at hsound
    · cases hsound
    · omega

/-- A token is short, so the line that is the whole of an empty body is, too. -/
theorem length_only_lt (b : Boundary) : b.only.length < Word.bound := by
  have htoken := b.length_token_le
  simp only [only, mark, Bytes.dashes, Bytes.crlf, List.length_append, List.length_cons,
    List.length_nil, maxLength, Word.bound] at htoken ⊢
  omega

end Boundary

namespace Body

open Word (Overflow)

/-- What a part is charged: its own length and one middle line. -/
def chargeIn (mode : Overflow) (boundary : Boundary) (part : Part) : Option Nat :=
  mode.add boundary.middle.length part.length

/-- Put a part behind the others. -/
def addIn (mode : Overflow) (body : Body) (handle : Handle) : Option Body :=
  match chargeIn mode body.boundary handle.part with
  | none => none
  | some charge =>
    (mode.add body.length charge).map fun length =>
      { body with parts := body.parts ++ [handle], length }

/-- Take out the first occurrence of a part, if there is one, and say whether
    there was. -/
def removeIn (mode : Overflow) (body : Body) (handle : Handle) : Option (Bool × Body) :=
  match body.parts.find? (fun h => h.same handle) with
  | none => some (false, body)
  | some removed =>
    match chargeIn mode body.boundary removed.part with
    | none => none
    | some charge =>
      (mode.sub body.length charge).map fun length =>
        (true, { body with parts := body.parts.eraseP (fun h => h.same handle), length })

/-- Do one edit. -/
def editIn (mode : Overflow) (body : Body) : Edit → Option Body
  | .add handle => body.addIn mode handle
  | .remove handle => (body.removeIn mode handle).map Prod.snd

/-- Do edits in order, as long as the program goes on. -/
def editAllIn (mode : Overflow) (body : Body) (edits : List Edit) : Option Body :=
  edits.foldlM (editIn mode) body

/-- The body with the word that stands for its length, if one does. -/
def keptIn (mode : Overflow) (body : Body) : Option Body :=
  (mode.keep body.length).map fun length => { body with length }

theorem keptIn_eq_none_iff (mode : Overflow) (body : Body) :
    body.keptIn mode = none ↔ mode = .stops ∧ Word.bound ≤ body.length := by
  rw [keptIn, Option.map_eq_none_iff, Overflow.keep_eq_none_iff]

theorem keptIn_eq_some_iff (mode : Overflow) (body word : Body) :
    body.keptIn mode = some word
      ↔ word = { body with length := body.length % Word.bound }
        ∧ (mode = .stops → body.length < Word.bound) := by
  simp only [keptIn, Option.map_eq_some_iff, Overflow.keep_eq_some_iff]
  constructor
  · rintro ⟨length, ⟨rfl, hlt⟩, rfl⟩
    exact ⟨rfl, hlt⟩
  · rintro ⟨rfl, hlt⟩
    exact ⟨_, ⟨rfl, hlt⟩, rfl⟩

theorem keptIn_empty (mode : Overflow) (b : Boundary) :
    (empty b).keptIn mode = some (empty b) :=
  congrArg (Option.map _) (Overflow.keep_of_lt mode _ b.length_only_lt)

theorem chargeIn_eq (mode : Overflow) (boundary : Boundary) (part : Part) :
    chargeIn mode boundary part = mode.keep (charge boundary part) :=
  mode.add_eq_keep _ _

/-- What a part of a body was charged is one of the charges that make up the
    length. -/
theorem charge_le_length (body : Body) (handle : Handle) (hcharged : body.Charged)
    (hmem : handle ∈ body.parts) : charge body.boundary handle.part ≤ body.length := by
  rcases List.append_of_mem hmem with ⟨before, after, hparts⟩
  simp only [Charged, hparts, chargeAll_append, chargeAll_cons] at hcharged
  omega

/-- Putting a part in makes a program stop exactly if the new length is too
    great. -/
theorem addIn_of_keptIn (mode : Overflow) (body word : Body) (handle : Handle)
    (hkept : body.keptIn mode = some word) :
    word.addIn mode handle = (body.add handle).keptIn mode := by
  rcases Option.map_eq_some_iff.mp hkept with ⟨length, hlength, rfl⟩
  simp only [addIn, chargeIn_eq, keptIn]
  rcases hcharge : mode.keep (charge body.boundary handle.part) with _ | charge
  · -- If the charge is too great, so is the length it is part of.
    have hsum : mode.keep (body.add handle).length = none := by
      rw [Overflow.keep_eq_none_iff] at hcharge ⊢
      exact ⟨hcharge.1, Nat.le_trans hcharge.2 (Nat.le_add_left _ _)⟩
    rw [hsum, Option.map_none]
  · simp only [mode.add_of_keep _ _ _ _ hlength hcharge]
    rfl

/-- Taking a part out never makes a program stop, since what is taken away was
    put there before. -/
theorem removeIn_of_keptIn (mode : Overflow) (body word : Body) (handle : Handle)
    (hcharged : body.Charged) (hkept : body.keptIn mode = some word) :
    ∃ left, word.removeIn mode handle = some ((body.remove? handle).isSome, left)
      ∧ (body.edit (.remove handle)).keptIn mode = some left := by
  rcases hfind : body.parts.find? (fun h => h.same handle) with _ | removed
  · -- The parts are the same ones, so there is nothing to be taken out of either.
    refine ⟨word, ?_, ?_⟩
    · rcases Option.map_eq_some_iff.mp hkept with ⟨length, -, rfl⟩
      simp only [removeIn, remove?, hfind, Option.isSome_none]
    · simp only [edit, remove?, hfind]
      exact hkept
  · rcases Option.map_eq_some_iff.mp hkept with ⟨length, hlength, rfl⟩
    have hle := body.charge_le_length removed hcharged (List.mem_of_find?_eq_some hfind)
    have hcharge := mode.keep_of_le _ _ _ hlength hle
    have hleft := mode.keep_of_le _ (body.length - charge body.boundary removed.part) _ hlength
      (Nat.sub_le _ _)
    have hsub := mode.sub_of_keep _ _ _ _ hlength hcharge hle
    refine ⟨{ body with
      parts := body.parts.eraseP (fun h => h.same handle)
      length := (body.length - charge body.boundary removed.part) % Word.bound }, ?_, ?_⟩
    · simp only [removeIn, hfind, chargeIn_eq, hcharge, hsub, hleft, remove?, Option.map_some,
        Option.isSome_some]
    · simp only [edit, remove?, hfind, keptIn, hleft, Option.map_some]

/-- What one edit does to a body that is kept. -/
theorem editIn_of_keptIn (mode : Overflow) (body word : Body) (e : Edit)
    (hcharged : body.Charged) (hkept : body.keptIn mode = some word) :
    word.editIn mode e = (body.edit e).keptIn mode := by
  cases e with
  | add handle => exact addIn_of_keptIn mode body word handle hkept
  | remove handle =>
      rcases removeIn_of_keptIn mode body word handle hcharged hkept with ⟨left, hremove, hleft⟩
      rw [editIn, hremove, hleft, Option.map_some]

/-- What a run of edits does to a body that is kept. The program stops if there
    is no word for the length at some point of the run, and otherwise it ends with
    the body that is kept of the one at the end. -/
theorem editAllIn_of_keptIn (mode : Overflow) (body word : Body) (edits : List Edit)
    (hcharged : body.Charged) (hkept : body.keptIn mode = some word) :
    (word.editAllIn mode edits = none
        ↔ ∃ before, before <+: edits ∧ (body.editAll before).keptIn mode = none)
      ∧ ∀ last, word.editAllIn mode edits = some last →
          (body.editAll edits).keptIn mode = some last := by
  induction edits generalizing body word with
  | nil =>
      refine ⟨⟨fun hnone => absurd hnone (Option.some_ne_none word), ?_⟩, fun last hlast => ?_⟩
      · rintro ⟨before, hbefore, hnone⟩
        rw [List.prefix_nil.mp hbefore] at hnone
        exact absurd (hkept.symm.trans hnone) (Option.some_ne_none word)
      · rw [← Option.some.inj hlast]
        exact hkept
  | cons e rest ih =>
      have hedit := editIn_of_keptIn mode body word e hcharged hkept
      -- A run that goes on to the first edit has it in front.
      have hfront : (∃ before, before <+: e :: rest ∧ (body.editAll before).keptIn mode = none)
          ↔ ∃ before, before <+: rest ∧ ((body.edit e).editAll before).keptIn mode = none := by
        constructor
        · rintro ⟨before, hbefore, hnone⟩
          rcases List.prefix_cons_iff.mp hbefore with rfl | ⟨later, rfl, hlater⟩
          · exact absurd (hkept.symm.trans hnone) (Option.some_ne_none word)
          · exact ⟨later, hlater, hnone⟩
        · rintro ⟨before, hbefore, hnone⟩
          exact ⟨e :: before, List.cons_prefix_cons.mpr ⟨rfl, hbefore⟩, hnone⟩
      rw [hfront]
      rcases hnext : (body.edit e).keptIn mode with _ | next
      · have hstopped : word.editAllIn mode (e :: rest) = none := by
          rw [editAllIn, List.foldlM_cons, hedit, hnext]
          rfl
        rw [hstopped]
        exact ⟨⟨fun _ => ⟨[], List.nil_prefix, hnext⟩, fun _ => rfl⟩,
          fun last hlast => absurd hlast.symm (Option.some_ne_none last)⟩
      · have hgone : word.editAllIn mode (e :: rest) = next.editAllIn mode rest := by
          rw [editAllIn, List.foldlM_cons, hedit, hnext]
          rfl
        rw [hgone]
        exact ih (body.edit e) next (charged_edit body e hcharged) hnext

/-- Edits of an empty body make a program stop exactly if there is no word for the
    length after some of them, and it is a program that stops. -/
theorem editAllIn_empty_eq_none_iff (mode : Overflow) (b : Boundary) (edits : List Edit) :
    (empty b).editAllIn mode edits = none
      ↔ mode = .stops
        ∧ ∃ before, before <+: edits ∧ Word.bound ≤ ((empty b).editAll before).length := by
  rw [(editAllIn_of_keptIn mode _ _ edits (charged_empty b) (keptIn_empty mode b)).1]
  simp only [keptIn_eq_none_iff]
  constructor
  · rintro ⟨before, hbefore, hstops, hle⟩
    exact ⟨hstops, before, hbefore, hle⟩
  · rintro ⟨hstops, before, hbefore, hle⟩
    exact ⟨before, hbefore, hstops, hle⟩

/-- Where a length passes the greatest word, one program stops and the other goes
    on with a body of thirteen octets. -/
example :
    let b : Boundary := ⟨"B", by decide⟩
    let huge : Handle := ⟨0, .custom ⟨"a", [], 2 ^ 64 - 1, false⟩⟩
    ((empty b).editAll [.add huge]).length = 2 ^ 64 + 13
    ∧ (empty b).editAllIn .stops [.add huge] = none
    ∧ (empty b).editAllIn .wraps [.add huge] = some ⟨b, [huge], 13⟩ := by
  decide

end Body

end FormData
