import FormData.Proofs.HandleList
import FormData.Proofs.Splice

/-!
# Removals in Any Order

Taking several parts out of a body leaves the same body in any order.

A removal takes out the first occurrence of a part and moves up what is behind it.
With parts that occur several times, two orders go through different lists on the
way, and a call that finds its part in one order may come too late in the other.
Where they end is the same. Two removals in a row can be swapped: either they ask
for different parts, and neither sees what the other takes, or they ask for one
part, and are the same removal done twice (`Edit.onList_remove_comm`). Every order
is reached by such swaps, and a charged body is settled by its parts.

Which calls find their part depends on the order, but how many do does not. Each
call for a part takes one occurrence as long as there is one, so the number is
that of the calls or that of the occurrences, whichever is less
(`countFound_removeAll`).

A removal can also be swapped with an addition, unless both are about one part.
The part that is added goes behind the others, where a removal of another part
never looks first.

## Main definitions

* `Body.removeAll`: Taking parts out in order, with the answer to each call.
* `Body.countFound`: How many calls for a part found it.
* `Body.occurrences`: How often a part occurs.

## Theorems

* `Body.Edit.onList_remove_comm`: Two removals commute.
* `Body.removeAll_snd_eq_of_perm`: The order does not show in what is left.
* `Body.countFound_removeAll`: How many calls for a part find it.
* `Body.edit_add_remove_comm`: A removal commutes with adding another part.
* `Body.removals_in_any_order`: What does not depend on the order.
-/

namespace FormData

namespace Body

/-- Take parts out in order. Each call is kept with its answer, which is whether
    there was something to take out. -/
def removeAll (body : Body) : List Handle → List (Handle × Bool) × Body
  | [] => ([], body)
  | handle :: rest =>
    let later := (body.edit (.remove handle)).removeAll rest
    ((handle, (body.remove? handle).isSome) :: later.1, later.2)

/-- How many of the calls for the part of a handle found it. -/
def countFound (calls : List (Handle × Bool)) (handle : Handle) : Nat :=
  calls.countP fun call => call.1.same handle && call.2

/-- How often the part of a handle occurs. -/
def occurrences (handles : List Handle) (handle : Handle) : Nat :=
  handles.countP fun h => h.same handle

/-- Two removals commute. -/
theorem Edit.onList_remove_comm (handles : List Handle) (one other : Handle) :
    (remove other).onList ((remove one).onList handles)
      = (remove one).onList ((remove other).onList handles) := by
  by_cases hkey : one.key = other.key
  · -- Both ask for the same part, so there is nothing to swap.
    have hsame : (fun h : Handle => h.same one) = fun h => h.same other := by
      funext h
      simp only [Handle.same, hkey]
    simp only [onList, hsame]
  · exact onList_eraseP handles other (remove one) hkey

theorem removeAll_snd (body : Body) (handles : List Handle) :
    (body.removeAll handles).2 = body.editAll (handles.map .remove) := by
  induction handles generalizing body with
  | nil => rfl
  | cons handle rest ih => exact ih (body.edit (.remove handle))

/-- The order of removals does not show in what is left. -/
theorem removeAll_snd_eq_of_perm (body : Body) (hcharged : body.Charged)
    (handles handles' : List Handle) (h : handles.Perm handles') :
    (body.removeAll handles').2 = (body.removeAll handles).2 := by
  rw [removeAll_snd, removeAll_snd]
  refine eq_of_charged _ _ (charged_editAll body _ hcharged) (charged_editAll body _ hcharged) ?_ ?_
  · rw [boundary_editAll, boundary_editAll]
  · rw [parts_editAll, parts_editAll, List.foldl_map, List.foldl_map]
    exact (h.foldl_eq' (fun one _ other _ list => Edit.onList_remove_comm list one other) _).symm

theorem isSome_remove?_iff (body : Body) (handle : Handle) :
    (body.remove? handle).isSome = true ↔ 0 < occurrences body.parts handle := by
  rw [occurrences, List.countP_pos_iff, ← not_iff_not, Bool.not_eq_true,
    Option.isSome_eq_false_iff, Option.isNone_iff_eq_none, remove?_eq_none_iff]
  simp only [Handle.same, beq_iff_eq, ne_eq, not_exists, not_and]

/-- A removal takes one occurrence of its part, if there is one, and none of any
    other part. -/
theorem occurrences_edit_remove (body : Body) (gone handle : Handle) :
    occurrences (body.edit (.remove gone)).parts handle
      = occurrences body.parts handle - if gone.same handle = true then 1 else 0 := by
  rcases remove?_cases body gone with
    ⟨hnone, hclear⟩ | ⟨before, removed, after, hparts, hsame, -, hsome⟩
  · simp only [edit, hnone]
    by_cases hgone : gone.same handle = true
    · -- There is no occurrence to take.
      have hzero : occurrences body.parts handle = 0 := by
        refine List.countP_eq_zero.mpr fun h hh hmem => ?_
        refine ne_of_beq_false (hclear h hh) ?_
        rw [eq_of_beq hmem, eq_of_beq hgone]
      omega
    · rw [if_neg hgone, Nat.sub_zero]
  · have hcongr : removed.same handle = gone.same handle := by
      rw [Handle.same, eq_of_beq hsame, Handle.same]
    simp only [edit, hsome, hparts, occurrences, List.countP_append, List.countP_cons, hcongr]
    omega

/-- As many calls for a part find it as there are calls, or as there are
    occurrences. The induction is on the calls, and each step lowers both numbers
    or ends with no occurrence left. -/
theorem countFound_removeAll (body : Body) (handles : List Handle) (handle : Handle) :
    countFound (body.removeAll handles).1 handle
      = min (occurrences handles handle) (occurrences body.parts handle) := by
  induction handles generalizing body with
  | nil => simp only [removeAll, countFound, occurrences, List.countP_nil, Nat.zero_min]
  | cons gone rest ih =>
      have hstep := occurrences_edit_remove body gone handle
      have hrest := ih (body.edit (.remove gone))
      have hcalls : occurrences (gone :: rest) handle
          = occurrences rest handle + if gone.same handle = true then 1 else 0 :=
        List.countP_cons
      have hfound : countFound (body.removeAll (gone :: rest)).1 handle
          = countFound ((body.edit (.remove gone)).removeAll rest).1 handle
            + if (gone.same handle && (body.remove? gone).isSome) = true then 1 else 0 :=
        List.countP_cons
      by_cases hgone : gone.same handle = true
      · have hsame : occurrences body.parts gone = occurrences body.parts handle := by
          simp only [occurrences, Handle.same, eq_of_beq hgone]
        have hsome := isSome_remove?_iff body gone
        rw [hsame] at hsome
        simp only [hgone, Bool.true_and, if_true, hsome] at hstep hcalls hfound
        by_cases hpos : 0 < occurrences body.parts handle
        · rw [if_pos hpos] at hfound
          omega
        · rw [if_neg hpos] at hfound
          omega
      · simp only [hgone, Bool.false_and, if_false, Bool.false_eq_true] at hstep hcalls hfound
        omega

/-- A removal commutes with adding another part. -/
theorem edit_add_remove_comm (body : Body) (hcharged : body.Charged) (added gone : Handle)
    (hkey : added.key ≠ gone.key) :
    (body.add added).edit (.remove gone) = (body.edit (.remove gone)).add added := by
  have hadd : ∀ other : Body, other.add added = other.edit (.add added) := fun _ => rfl
  rw [hadd, hadd]
  refine eq_of_charged _ _ (charged_edit _ _ (charged_edit _ _ hcharged))
    (charged_edit _ _ (charged_edit _ _ hcharged)) ?_ ?_
  · simp only [boundary_edit]
  · simp only [parts_edit]
    exact Edit.onList_eraseP body.parts gone (.add added) hkey

theorem isSome_remove?_add (body : Body) (added gone : Handle) (hkey : added.key ≠ gone.key) :
    ((body.add added).remove? gone).isSome = (body.remove? gone).isSome := by
  have hnot : added.same gone = false := beq_false_of_ne hkey
  have hcount : occurrences (body.add added).parts gone = occurrences body.parts gone := by
    simp only [add, occurrences, List.countP_append, List.countP_singleton, hnot,
      Bool.false_eq_true, if_false, Nat.add_zero]
  rw [Bool.eq_iff_iff, isSome_remove?_iff, isSome_remove?_iff, hcount]

/-- The order of removals does not matter. After any edits of an empty body, the
    same calls in another order leave the same parts, in the same places, the same
    length and the same octets, whether the calls find their parts or not. For each
    part as many calls find it in one order as in the other, and that is as many as
    there are calls for it or occurrences of it, whichever is less. Taking out a
    part and adding another one can be done in either order too, with the same body
    and the same answer. -/
theorem removals_in_any_order (b : Boundary) (edits : List Edit) :
    let body := (empty b).editAll edits
    (∀ handles handles' : List Handle, handles.Perm handles' →
      let done := body.removeAll handles
      let done' := body.removeAll handles'
      done'.2.parts = done.2.parts ∧ done'.2.length = done.2.length
        ∧ done'.2.written = done.2.written
        ∧ ∀ handle, countFound done'.1 handle = countFound done.1 handle
          ∧ countFound done.1 handle
            = min (occurrences handles handle) (occurrences body.parts handle))
    ∧ ∀ added gone : Handle, added.key ≠ gone.key →
      (body.add added).edit (.remove gone) = (body.edit (.remove gone)).add added
        ∧ ((body.add added).remove? gone).isSome = (body.remove? gone).isSome := by
  intro body
  have hcharged : body.Charged := charged_editAll (empty b) edits (charged_empty b)
  refine ⟨fun handles handles' hperm => ?_, fun added gone hkey =>
    ⟨edit_add_remove_comm body hcharged added gone hkey, isSome_remove?_add body added gone hkey⟩⟩
  intro done done'
  have hleft : done'.2 = done.2 := removeAll_snd_eq_of_perm body hcharged handles handles' hperm
  refine ⟨by rw [hleft], by rw [hleft], by rw [hleft], fun handle => ⟨?_, ?_⟩⟩
  · -- The calls are the same, only their order is another.
    have hcalls : occurrences handles' handle = occurrences handles handle :=
      (hperm.countP_eq _).symm
    rw [countFound_removeAll, countFound_removeAll, hcalls]
  · exact countFound_removeAll body handles handle

/-- Of a part that is in a body twice, three calls take out both occurrences, with
    a call for a field and one for a part that was never there among them. In the
    reverse order other calls find nothing, and the body that is left is the same. -/
theorem removals_in_any_order_thrice :
    let own : Handle := ⟨0, .custom ⟨"own", [[104], [], [105]], 5, true⟩⟩
    let field : Handle := ⟨1, .field (FieldPart.text "a" "")⟩
    let twin : Handle := ⟨2, field.part⟩
    let body := (empty ⟨"B", by decide⟩).editAll [.add own, .add field, .add twin, .add own]
    let handles := [own, own, ⟨3, field.part⟩, own, field]
    let done := body.removeAll handles
    let done' := body.removeAll handles.reverse
    done'.1.map Prod.snd ≠ (done.1.map Prod.snd).reverse
    ∧ done.2.parts = [twin] ∧ done'.2.parts = done.2.parts ∧ done'.2.written = done.2.written
    ∧ countFound done.1 own = 2 ∧ countFound done'.1 own = 2
    ∧ (body.add ⟨4, own.part⟩).edit (.remove own) = (body.edit (.remove own)).add ⟨4, own.part⟩ := by
  intro own field twin body handles done done'
  rcases removals_in_any_order ⟨"B", by decide⟩
    [.add own, .add field, .add twin, .add own] with ⟨hperm, hcomm⟩
  rcases hperm handles handles.reverse handles.reverse_perm.symm with ⟨hparts, -, hwritten, hcount⟩
  rcases hcount own with ⟨hsame, hmin⟩
  have htwo : countFound done.1 own = 2 := hmin
  exact ⟨by decide, rfl, hparts, hwritten, htwo, hsame.trans htwo,
    (hcomm ⟨4, own.part⟩ own (by decide)).1⟩

end Body

end FormData
