import FormData.Body
import Mathlib.Algebra.BigOperators.Group.List.Basic
import Mathlib.Algebra.Order.Ring.Int

/-!
# Editing a Body

What parts coming and going does to a body.

A body is edited by putting a part behind the others and by taking out the
first occurrence of one. Putting in a part that was just made and putting in
one that is already shared are the same edit, since the handle is all a body
looks at. Taking out a part that is not there is an edit too, one that changes
nothing, so a run of edits is any list of them and needs no side condition.

The length of a body is kept rather than computed, and taking a part out
subtracts from it. Subtraction on lengths stops at zero, so it is right only
as long as what is taken away was put there before. `Charged` says that the
length is made up of the charges of the parts that are in the body, and it is
that which every edit keeps (`charged_edit`).

## Main definitions

* `Body.Edit`: One edit.
* `Body.edit`, `Body.editAll`: Doing one edit, and doing several in order.
* `Body.Charged`: The length is made up of the charges of the parts.

## Theorems

* `Body.remove?_cases`: What taking a part out does.
* `Body.of_remove?_eq_some`: What it does where there is one.
* `Body.charged_edit`: An edit keeps the length made up of the charges.
* `Body.charged_editAll`: So does a run of edits.
-/

namespace FormData

namespace Body

/-- One edit of a body. -/
inductive Edit where
  /-- Put a part behind the others. -/
  | add (handle : Handle)
  /-- Take out the first occurrence of a part. -/
  | remove (handle : Handle)
  deriving DecidableEq

/-- Do one edit. Where there is nothing to take out, nothing changes. -/
def edit (body : Body) : Edit → Body
  | .add handle => body.add handle
  | .remove handle =>
    match body.remove? handle with
    | none => body
    | some (_, left) => left

/-- Do edits in order. -/
def editAll (body : Body) (edits : List Edit) : Body :=
  edits.foldl edit body

/-- What all of these parts are charged. -/
def chargeAll (b : Boundary) (parts : List Handle) : Nat :=
  (parts.map fun h => charge b h.part).sum

/-- The length is made up of the charges of the parts that are in the body. -/
def Charged (body : Body) : Prop :=
  body.length = body.boundary.only.length + chargeAll body.boundary body.parts

theorem chargeAll_cons (b : Boundary) (handle : Handle) (rest : List Handle) :
    chargeAll b (handle :: rest) = charge b handle.part + chargeAll b rest := by
  simp only [chargeAll, List.map_cons, List.sum_cons]

theorem chargeAll_append (b : Boundary) (left right : List Handle) :
    chargeAll b (left ++ right) = chargeAll b left + chargeAll b right := by
  simp only [chargeAll, List.map_append, List.sum_append]

/-- Taking a part out either finds it nowhere, or takes out its first
    occurrence and leaves what was before and behind. -/
theorem remove?_cases (body : Body) (handle : Handle) :
    (body.remove? handle = none ∧ ∀ h ∈ body.parts, h.same handle = false) ∨
    ∃ before removed after,
      body.parts = before ++ removed :: after ∧ removed.same handle = true
        ∧ (∀ h ∈ before, h.same handle = false)
        ∧ body.remove? handle = some (removed,
          { body with
            parts := before ++ after
            length := body.length - charge body.boundary removed.part }) := by
  rcases hfind : body.parts.find? (fun h => h.same handle) with _ | removed
  · refine Or.inl ⟨by simp only [remove?, hfind], fun h hh => ?_⟩
    have hnone := List.find?_eq_none.mp hfind h hh
    rwa [Bool.not_eq_true] at hnone
  · rcases List.find?_eq_some_iff_append.mp hfind with ⟨hsame, before, after, hparts, hbefore⟩
    have hclear : ∀ h ∈ before, h.same handle = false := by
      intro h hh
      have hnot := hbefore h hh
      rwa [Bool.not_eq_true'] at hnot
    refine Or.inr ⟨before, removed, after, hparts, hsame, hclear, ?_⟩
    -- Nothing before the occurrence is taken, so erasing starts at it.
    have herase : body.parts.eraseP (fun h => h.same handle) = before ++ after := by
      rw [hparts, List.eraseP_append_right _ (fun h hh => by rw [hclear h hh]; decide),
        List.eraseP_cons, hsame, cond_true]
    simp only [remove?, hfind, herase]

/-- What is taken out was in a body, behind parts of other keys, and what is left
    is the rest. -/
theorem of_remove?_eq_some (body left : Body) (handle removed : Handle)
    (h : body.remove? handle = some (removed, left)) :
    ∃ before after, body.parts = before ++ removed :: after ∧ removed.same handle = true
      ∧ (∀ x ∈ before, x.same handle = false)
      ∧ left = { body with
          parts := before ++ after
          length := body.length - charge body.boundary removed.part } := by
  rcases remove?_cases body handle with
    ⟨hnone, -⟩ | ⟨before, found, after, hparts, hsame, hclear, hsome⟩
  · rw [hnone] at h
    cases h
  · rw [hsome] at h
    cases h
    exact ⟨before, after, hparts, hsame, hclear, rfl⟩

@[simp] theorem boundary_edit (body : Body) (e : Edit) :
    (body.edit e).boundary = body.boundary := by
  cases e with
  | add handle => rfl
  | remove handle =>
      rcases remove?_cases body handle with ⟨hnone, -⟩ | ⟨_, _, _, -, -, -, hsome⟩
      · simp only [edit, hnone]
      · simp only [edit, hsome]

@[simp] theorem boundary_editAll (body : Body) (edits : List Edit) :
    (body.editAll edits).boundary = body.boundary := by
  induction edits generalizing body with
  | nil => rfl
  | cons e rest ih => exact (ih (body.edit e)).trans (boundary_edit body e)

theorem charged_empty (b : Boundary) : (empty b).Charged := rfl

/-- An edit keeps the length made up of the charges. What is subtracted when a
    part is taken out is one of the charges, so the subtraction is exact. -/
theorem charged_edit (body : Body) (e : Edit) (h : body.Charged) : (body.edit e).Charged := by
  cases e with
  | add handle =>
      simp only [Charged, edit, add, chargeAll_append, chargeAll_cons] at h ⊢
      simp only [h, chargeAll, List.map_nil, List.sum_nil]
      omega
  | remove handle =>
      rcases remove?_cases body handle with
        ⟨hnone, -⟩ | ⟨before, removed, after, hparts, -, -, hsome⟩
      · simp only [edit, hnone]
        exact h
      · -- The charge that is taken away is one of those on both sides.
        simp only [Charged, edit, hsome, hparts, chargeAll_append, chargeAll_cons] at h ⊢
        omega

/-- A run of edits keeps the length made up of the charges. -/
theorem charged_editAll (body : Body) (edits : List Edit) (h : body.Charged) :
    (body.editAll edits).Charged := by
  induction edits generalizing body with
  | nil => exact h
  | cons e rest ih => exact ih (body.edit e) (charged_edit body e h)

end Body

end FormData
