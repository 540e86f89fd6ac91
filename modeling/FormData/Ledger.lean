import FormData.Event
import FormData.Part

/-!
# Handles and the Release Ledger

Which part is meant, and what has become of it.

A body and its traversals share parts, and a part is taken out of a body by
saying which one is meant. Two parts may agree in everything and still be
different parts, so a part is shared through a `Handle`: the part with a key
that belongs to it alone. Handles are told apart by their keys only.

A part may hold something of the system. A file does: it keeps its open handle
in a cell (`Ledger.cell?`), full from when the file is opened until the handle
is taken out. Releasing a part takes out what is in its cell and closes it, and
says so. A cell that is empty stays empty, so a file may be released any number
of times and only the first one does anything. No other part has anything to
give back.

The part itself does not change. What changes is the ledger, which knows two
things apart: which handles were closed, and how often each part was asked to be
released. That a file whose cell is empty is one that was released at least once
is a fact about runs, not about the ledger.

## Main definitions

* `Handle`: A shared part.
* `Ledger`: The handles that were closed, and the releases so far.
* `Ledger.count`: How often a part has been released.
* `Ledger.closures`: How often a handle of a part has been closed.
* `Ledger.cell?`: The open handle that a part holds.
* `Ledger.isReleased`: Whether the cell of a part is empty.
* `Ledger.release`: Releasing a part.
* `Ledger.releaseAll`: Releasing parts in order.

## Theorems

* `Ledger.count_release`: A release counts once, and for its own part only.
* `Ledger.count_releaseAll`: Releasing parts in order counts each as often as
  it occurs among them.
* `Ledger.isReleased_release_self`, `Ledger.isReleased_release_of_ne`: A release
  empties the cell of its own part and no other.
* `Ledger.closed_release`: A release closes what was in the cell.
-/

namespace FormData

/-- A shared part. The key belongs to this part alone. -/
structure Handle where
  key : Nat
  part : Part
  deriving DecidableEq

namespace Handle

/-- Whether two handles share one part. -/
def same (left right : Handle) : Bool :=
  left.key == right.key

end Handle

/-- What has become of the parts, by key, the latest first. -/
structure Ledger where
  /-- The files whose handles were taken out of their cells and closed. -/
  closed : List Nat
  /-- The releases that have been asked for. -/
  releases : List Nat
  deriving Repr, DecidableEq

namespace Ledger

/-- The ledger before anything is released. -/
def empty : Ledger := ⟨[], []⟩

/-- How often a part has been released. -/
def count (ledger : Ledger) (key : Nat) : Nat :=
  ledger.releases.count key

/-- How often a handle of a part has been closed. -/
def closures (ledger : Ledger) (key : Nat) : Nat :=
  ledger.closed.count key

/-- What is in the cell of a part: the open handle of a file, until it is taken
    out. Other parts hold nothing. -/
def cell? (ledger : Ledger) (handle : Handle) : Option FilePart :=
  if ledger.closed.contains handle.key then none else handle.part.file?

/-- Whether the cell of a part is empty. -/
def isReleased (ledger : Ledger) (handle : Handle) : Bool :=
  (ledger.cell? handle).isNone

/-- Release a part. What is in its cell is taken out and closed, which is
    reported. -/
def release (ledger : Ledger) (handle : Handle) : Traced Ledger :=
  let asked := { ledger with releases := handle.key :: ledger.releases }
  match ledger.cell? handle with
  | none => { result := asked }
  | some file =>
    { result := { asked with closed := handle.key :: ledger.closed }
      events := [.releasedFile file.name file.path] }

/-- Release parts in order. -/
def releaseAll (ledger : Ledger) : List Handle → Traced Ledger
  | [] => { result := ledger }
  | handle :: rest =>
    let here := ledger.release handle
    let later := here.result.releaseAll rest
    { result := later.result, events := here.events ++ later.events }

theorem releases_release (ledger : Ledger) (handle : Handle) :
    (ledger.release handle).result.releases = handle.key :: ledger.releases := by
  unfold release
  cases ledger.cell? handle <;> rfl

/-- A release closes what was in the cell of its part. -/
theorem closed_release (ledger : Ledger) (handle : Handle) :
    (ledger.release handle).result.closed
      = if ledger.isReleased handle then ledger.closed else handle.key :: ledger.closed := by
  unfold release isReleased
  cases ledger.cell? handle <;> rfl

/-- A release reports what it closes. -/
theorem events_release (ledger : Ledger) (handle : Handle) :
    (ledger.release handle).events
      = ((ledger.cell? handle).map fun file => .releasedFile file.name file.path).toList := by
  unfold release
  cases ledger.cell? handle <;> rfl

theorem isReleased_eq (ledger : Ledger) (handle : Handle) :
    ledger.isReleased handle
      = (ledger.closed.contains handle.key || handle.part.file?.isNone) := by
  unfold isReleased cell?
  cases ledger.closed.contains handle.key <;> rfl

theorem cell?_eq (ledger : Ledger) (handle : Handle) :
    ledger.cell? handle = if ledger.isReleased handle then none else handle.part.file? := by
  unfold isReleased
  rcases hcell : ledger.cell? handle with _ | file
  · rfl
  · rw [cell?, Option.ite_none_left_eq_some] at hcell
    exact hcell.2.symm

/-- The cell of a part that was released is empty. -/
theorem isReleased_release_self (ledger : Ledger) (handle : Handle) :
    (ledger.release handle).result.isReleased handle = true := by
  have hclosed := ledger.closed_release handle
  rcases hreleased : ledger.isReleased handle with _ | _
  · rw [hreleased, if_neg Bool.false_ne_true] at hclosed
    rw [isReleased_eq, hclosed, List.contains_cons, beq_self_eq_true, Bool.true_or,
      Bool.true_or]
  · rw [hreleased, if_pos rfl] at hclosed
    rw [isReleased_eq, hclosed, ← isReleased_eq, hreleased]

/-- A release touches no other cell. -/
theorem isReleased_release_of_ne (ledger : Ledger) (handle other : Handle)
    (h : other.key ≠ handle.key) :
    (ledger.release handle).result.isReleased other = ledger.isReleased other := by
  have hclosed := ledger.closed_release handle
  rw [isReleased_eq, isReleased_eq, hclosed]
  split
  · rfl
  · rw [List.contains_cons, beq_false_of_ne h, Bool.false_or]

/-- A release counts once, and for its own part only. -/
theorem count_release (ledger : Ledger) (handle : Handle) (key : Nat) :
    (ledger.release handle).result.count key
      = ledger.count key + (if handle.key = key then 1 else 0) := by
  rw [count, releases_release, List.count_cons, count]
  by_cases h : handle.key = key
  · rw [if_pos h, if_pos (beq_iff_eq.mpr h)]
  · rw [if_neg h, if_neg (fun hc => h (beq_iff_eq.mp hc))]

/-- Releasing parts in order counts each as often as it occurs among them. -/
theorem count_releaseAll (handles : List Handle) (ledger : Ledger) (key : Nat) :
    (ledger.releaseAll handles).result.count key
      = ledger.count key + (handles.map Handle.key).count key := by
  induction handles generalizing ledger with
  | nil => rfl
  | cons handle rest ih =>
      have hrest := ih (ledger.release handle).result
      have hhead := count_release ledger handle key
      rw [releaseAll, hrest, hhead, List.map_cons, List.count_cons]
      by_cases h : handle.key = key
      · rw [if_pos h, if_pos (beq_iff_eq.mpr h)]
        omega
      · rw [if_neg h, if_neg (fun hc => h (beq_iff_eq.mp hc))]
        omega

end Ledger

end FormData
