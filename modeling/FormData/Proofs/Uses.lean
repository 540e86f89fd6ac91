import FormData.Proofs.Layout

/-!
# Using a Traversal

Calls on a traversal in any mixture.

A traversal answers in three forms. A caller asks for a piece or a fault, a
collection asks for a piece or nothing, and a transport asks for a frame. It can
also be closed, and asked again afterwards. Nothing keeps a caller to one of
these, so what holds of a traversal has to hold after any list of `Use`s.

All that matters of such a list is how many of the uses ask for a piece. Each of
those takes one step, in whatever form it is answered, and closing takes none
(`use_cases`). So a run of uses yields the pieces that as many steps yield, and
leaves the traversal that they lead to, but for whether it is closed
(`useAll_eq`).

## Main definitions

* `Traversal.Use`: One call.
* `Traversal.Answer`: What a call is answered.
* `Traversal.use`, `useAll`: Making one call, and making several in order.

## Theorems

* `Traversal.use_cases`: A use takes one step or only closes.
* `Traversal.useAll_eq`: Uses yield what as many steps yield.
-/

namespace FormData

namespace Traversal

/-- One call on a traversal. -/
inductive Use where
  /-- Ask for a piece or a fault. -/
  | nextChunk
  /-- Ask for a piece or nothing. -/
  | next
  /-- Ask for a frame. -/
  | pollFrame
  /-- Release the parts. -/
  | close
  deriving DecidableEq

/-- What a call is answered. -/
inductive Answer where
  | chunk (answer : Except Fault Bytes)
  | piece (answer : Option Bytes)
  | frame (answer : Option Frame)
  | closed

/-- Whether a call asks for a piece. -/
def Use.asks : Use → Bool
  | .nextChunk | .next | .pollFrame => true
  | .close => false

/-- The piece in an answer, if there is one. A call that gets one is
    successful. -/
def Answer.piece? : Answer → Option Bytes
  | .chunk (.ok bytes) | .piece (some bytes) | .frame (some (.data bytes)) => some bytes
  | .chunk (.error _) | .piece none | .frame none | .closed => none

/-- Make one call. Only closing has to do with the ledger. -/
def use (t : Traversal) (ledger : Ledger) : Use → Answer × Traversal × Ledger
  | .nextChunk => (.chunk t.nextChunk.1, t.nextChunk.2, ledger)
  | .next => (.piece t.next.1, t.next.2, ledger)
  | .pollFrame => (.frame t.pollFrame.1, t.pollFrame.2, ledger)
  | .close => (.closed, (t.close ledger).result)

/-- Make calls in order. -/
def useAll (t : Traversal) (ledger : Ledger) : List Use → List Answer × Traversal × Ledger
  | [] => ([], t, ledger)
  | u :: rest =>
    let used := t.use ledger u
    let later := used.2.1.useAll used.2.2 rest
    (used.1 :: later.1, later.2)

/-- The pieces that calls were answered with, in order. -/
def pieces (answers : List Answer) : List Bytes :=
  answers.filterMap Answer.piece?

/-- A use that asks takes one step, whatever form its answer has. The other one
    closes the traversal and leaves it where it is. -/
theorem use_cases (t : Traversal) (ledger : Ledger) (u : Use) :
    (u.asks = true ∧ (t.use ledger u).1.piece? = (t.take 1).1.head?
        ∧ (t.use ledger u).2.1 = (t.take 1).2) ∨
    (u.asks = false ∧ (t.use ledger u).1.piece? = none
        ∧ (t.use ledger u).2.1 = { t with closed := true }) := by
  cases u with
  | nextChunk =>
      refine Or.inl ⟨rfl, ?_, ?_⟩
      · rw [use, nextChunk_eq_take]
        cases (t.take 1).1.head? <;> rfl
      · rw [use, nextChunk_eq_take]
  | next =>
      refine Or.inl ⟨rfl, ?_, ?_⟩
      · rw [use, next_eq_take]
        cases (t.take 1).1.head? <;> rfl
      · rw [use, next_eq_take]
  | pollFrame =>
      refine Or.inl ⟨rfl, ?_, ?_⟩
      · rw [use, pollFrame_eq_take]
        cases (t.take 1).1.head? <;> rfl
      · rw [use, pollFrame_eq_take]
  | close => exact Or.inr ⟨rfl, rfl, t.close_fst ledger⟩

/-- Uses yield the pieces that as many steps yield as there are uses that ask,
    and lead as far. A traversal is closed afterwards if it was before or if one
    of the uses closes it. The induction is on the uses: one that asks is put in
    front of the steps that follow, and one that closes is not seen by them. -/
theorem useAll_eq (uses : List Use) (t : Traversal) (ledger : Ledger) :
    pieces (t.useAll ledger uses).1 = (t.take (uses.countP Use.asks)).1
      ∧ (t.useAll ledger uses).2.1
        = { (t.take (uses.countP Use.asks)).2 with
            closed := t.closed || uses.any fun u => !u.asks } := by
  induction uses generalizing t ledger with
  | nil => exact ⟨rfl, by simp only [useAll, take, List.countP_nil, List.any_nil, Bool.or_false]⟩
  | cons u rest ih =>
      rcases ih (t.use ledger u).2.1 (t.use ledger u).2.2 with ⟨hpieces, hleft⟩
      rcases use_cases t ledger u with ⟨hasks, hpiece, hnext⟩ | ⟨hasks, hpiece, hnext⟩
      · have hclosed : (t.take 1).2.closed = t.closed := (take_eq 1 t).2.2.2.2.2.1
        rw [hnext] at hpieces hleft
        simp only [pieces, useAll, List.filterMap_cons, List.countP_cons, List.any_cons, hasks,
          hpiece, hnext, if_true, Nat.add_comm _ 1, take_add, Bool.not_true, Bool.false_or]
        refine ⟨?_, by rw [hleft, hclosed]⟩
        -- One step yields one piece or none.
        rw [pieces] at hpieces
        rcases take_one_cases t with hone | ⟨bytes, t', hone⟩
        · simp only [hone, List.head?_nil, List.nil_append] at hpieces ⊢
          exact hpieces
        · simp only [hone, List.head?_cons, List.cons_append, List.nil_append] at hpieces ⊢
          rw [hpieces]
      · rw [hnext, take_setClosed] at hpieces hleft
        simp only [pieces, useAll, List.filterMap_cons, List.countP_cons, List.any_cons, hasks,
          hpiece, hnext, Bool.false_eq_true, if_false, Nat.add_zero, Bool.not_false, Bool.true_or,
          Bool.or_true] at hpieces hleft ⊢
        exact ⟨hpieces, hleft⟩

end Traversal

end FormData
