import FormData.Part.Field
import FormData.Proofs.Calls
import FormData.Proofs.Uses

/-!
# One Traversal, Three Views

Whatever form a call has, it is answered as a call for a piece or a fault would
be.

The three forms of asking share one position, and the traversal may be closed
between any two calls. To say what they have in common, one of them is taken as
the measure. A fresh traversal of the same body that is asked for a piece or a
fault and nothing else gets a list of answers (`Traversal.calls`), and an answer
of that kind can be put in any of the other forms (`Use.told`). A use in a run of
uses is told the answer of that list whose number is how many uses asked before
it.

The step is `use_eq`. What a run adds is that closing is not seen by the calls
that follow (`nextChunk_setClosed`), so the traversal a use comes to is the one
that as many calls lead to (`calls_snd`). Behind the last piece nothing moves any
more, and every later use is told of the end (`useAll_of_exhausted`).

Whether there is another piece is answered by the position alone, without a look
at the parts. That it is right needs the position to lie within them, which is so
because the traversal was begun on a body.

## Main definitions

* `Traversal.Use.told`: An answer in the form of a use.

## Theorems

* `Traversal.use_eq`: A use is told what a call is answered.
* `Traversal.useAll_append`: A run of uses can be cut in two.
* `Traversal.getElem?_calls`: What the call of a number is answered.
* `Traversal.useAll_of_exhausted`: Uses at the end change nothing.
* `Traversal.use_agrees`: The views agree in every run.
-/

namespace FormData

namespace Traversal

theorem next_eq_nextChunk (t : Traversal) :
    t.next = (t.nextChunk.1.toOption, t.nextChunk.2) := by
  unfold next nextChunk
  cases t.next? with
  | none => rfl
  | some found => rfl

theorem pollFrame_eq_nextChunk (t : Traversal) :
    t.pollFrame = (t.nextChunk.1.toOption.map .data, t.nextChunk.2) := by
  unfold pollFrame nextChunk
  cases t.next? with
  | none => rfl
  | some found => rfl

-- Closing is not seen by a call, and a call does not close.
theorem nextChunk_setClosed (t : Traversal) (closed : Bool) :
    ({ t with closed } : Traversal).nextChunk
      = (t.nextChunk.1, { t.nextChunk.2 with closed }) := by
  rw [nextChunk_eq_take, nextChunk_eq_take, take_setClosed]

/-- The answer to a use, given what a call for a piece or a fault is
    answered. -/
def Use.told : Use → Except Fault Bytes → Answer
  | .nextChunk, answer => .chunk answer
  | .next, answer => .piece answer.toOption
  | .pollFrame, answer => .frame (answer.toOption.map .data)
  | .close, _ => .closed

-- A use that asks is told of the piece there is, and of none if there is none.
theorem piece?_told (u : Use) (answer : Except Fault Bytes) :
    (u.told answer).piece? = if u.asks then answer.toOption else none := by
  cases u with
  | close => rfl
  | nextChunk => cases answer <;> rfl
  | next => cases answer <;> rfl
  | pollFrame => cases answer <;> rfl

/-- A use is told what a call for a piece or a fault is answered. One that asks
    leads where that call leads, and the other one closes the traversal. -/
theorem use_eq (t : Traversal) (ledger : Ledger) (u : Use) :
    (t.use ledger u).1 = u.told t.nextChunk.1
      ∧ (u.asks = true → (t.use ledger u).2 = (t.nextChunk.2, ledger))
      ∧ (u.asks = false → (t.use ledger u).2.1 = { t with closed := true }) := by
  cases u with
  | nextChunk => exact ⟨rfl, fun _ => rfl, fun hasks => by cases hasks⟩
  | next =>
      rw [use, next_eq_nextChunk]
      exact ⟨rfl, fun _ => rfl, fun hasks => by cases hasks⟩
  | pollFrame =>
      rw [use, pollFrame_eq_nextChunk]
      exact ⟨rfl, fun _ => rfl, fun hasks => by cases hasks⟩
  | close =>
      rcases use_cases t ledger .close with ⟨hasks, -⟩ | ⟨-, -, hclosed⟩
      · cases hasks
      · exact ⟨rfl, (fun hasks => by cases hasks), fun _ => hclosed⟩

theorem length_useAll (t : Traversal) (ledger : Ledger) (uses : List Use) :
    (t.useAll ledger uses).1.length = uses.length := by
  induction uses generalizing t ledger with
  | nil => rfl
  | cons u rest ih => rw [useAll, List.length_cons, List.length_cons, ih]

-- The second run goes on from where the first led.
theorem useAll_append (t : Traversal) (ledger : Ledger) (before after : List Use) :
    t.useAll ledger (before ++ after)
      = let reached := t.useAll ledger before
        let later := reached.2.1.useAll reached.2.2 after
        (reached.1 ++ later.1, later.2) := by
  induction before generalizing t ledger with
  | nil => rfl
  | cons u rest ih => simp only [List.cons_append, useAll, ih]

theorem calls_succ (n : Nat) (t : Traversal) :
    t.calls (n + 1) = (t.nextChunk.1 :: (t.nextChunk.2.calls n).1, (t.nextChunk.2.calls n).2) :=
  rfl

-- What a call is answered depends on how many came before it and not on how many
-- follow.
theorem getElem?_calls (t : Traversal) (n j : Nat) (h : j < n) :
    (t.calls n).1[j]? = some (t.calls j).2.nextChunk.1 := by
  induction n generalizing t j with
  | zero => exact absurd h (Nat.not_lt_zero j)
  | succ n ih =>
      cases j with
      | zero => rfl
      | succ j =>
          rw [calls_succ, calls_succ, List.getElem?_cons_succ]
          exact ih t.nextChunk.2 j (Nat.lt_of_succ_lt_succ h)

theorem calls_snd (n : Nat) (t : Traversal) : (t.calls n).2 = (t.take n).2 := by
  induction n generalizing t with
  | zero => rfl
  | succ n ih =>
      rw [calls_succ, ih, nextChunk_eq_take, Nat.add_comm n 1, take_add]

/-- Where nothing is ahead, all later uses are told of the same fault, and
    nothing about the traversal changes but for whether it is closed. The
    induction is on the uses. Each leaves a traversal of the same kind. -/
theorem useAll_of_exhausted (uses : List Use) (t : Traversal) (ledger : Ledger)
    (h : t.nextChunk = (.error .exhausted, t)) :
    (t.useAll ledger uses).1 = uses.map (fun u => u.told (.error .exhausted))
      ∧ (t.useAll ledger uses).2.1
        = { t with closed := t.closed || uses.any fun u => !u.asks } := by
  induction uses generalizing t ledger with
  | nil => exact ⟨rfl, by simp only [useAll, List.any_nil, Bool.or_false]⟩
  | cons u rest ih =>
      rcases use_eq t ledger u with ⟨htold, hask, hclose⟩
      rcases hasks : u.asks with _ | _
      · -- Closing leaves it where it is, and there is still nothing ahead.
        have hnext : ({ t with closed := true } : Traversal).nextChunk
            = (.error .exhausted, { t with closed := true }) := by
          rw [nextChunk_setClosed, h]
        rcases ih { t with closed := true } (t.use ledger u).2.2 hnext with ⟨hanswers, hleft⟩
        simp only [useAll, htold, h, hclose hasks, hanswers, hleft, List.map_cons, List.any_cons,
          hasks, Bool.not_false, Bool.true_or, Bool.or_true]
        exact ⟨trivial, trivial⟩
      · rcases ih t ledger h with ⟨hanswers, hleft⟩
        simp only [useAll, htold, h, hask hasks, hanswers, hleft, List.map_cons, List.any_cons,
          hasks, Bool.not_true, Bool.false_or]
        exact ⟨trivial, trivial⟩

/-- The three views of a traversal agree. Take any body, any uses of a traversal
    of it, and any one of them. It is told what the call of the same number is
    answered where a fresh traversal of the body is asked for a piece or a fault
    and nothing else, and it finds the traversal where that call does, but for
    whether it is closed. Just before a use that asks, the traversal says that
    there is another piece, and does not say that it has ended, exactly if the use
    is told of a piece. A transport is told what is left exactly.

    If the call of that number fails, this use and all later ones are told of the
    end, each in its own form, and change nothing about the traversal but for
    whether it is closed. -/
theorem use_agrees (body : Body) (ledger : Ledger) (before : List Use) (u : Use)
    (after : List Use) :
    let j := before.countP Use.asks
    let reached := body.iterate.useAll ledger before
    let t := reached.2.1
    let used := t.use reached.2.2 u
    (body.iterate.useAll ledger (before ++ u :: after)).1[before.length]? = some used.1
    ∧ (∀ n, j < n → (body.iterate.calls n).1[j]?.map u.told = some used.1)
    ∧ t = { (body.iterate.calls j).2 with closed := before.any fun v => !v.asks }
    ∧ (u.asks = true →
        (t.hasNext = true ↔ ∃ bytes, used.1.piece? = some bytes)
        ∧ (t.isEndStream = false ↔ ∃ bytes, used.1.piece? = some bytes))
    ∧ t.sizeHint.exact = some t.remaining
    ∧ ((body.iterate.calls (j + 1)).1[j]? = some (.error .exhausted) →
        let rest := t.useAll reached.2.2 (u :: after)
        rest.1 = (u :: after).map (fun v => v.told (.error .exhausted))
        ∧ rest.2.1 = { t with closed := t.closed || (u :: after).any fun v => !v.asks }) := by
  intro j reached t used
  have ht : t = { (body.iterate.calls j).2 with closed := before.any fun v => !v.asks } := by
    have hleft := (useAll_eq before body.iterate ledger).2
    rw [← calls_snd] at hleft
    exact hleft
  have hanswer : t.nextChunk.1 = (body.iterate.calls j).2.nextChunk.1 := by
    rw [ht, nextChunk_setClosed]
  have hused : used.1 = u.told t.nextChunk.1 := (use_eq t reached.2.2 u).1
  have hrange : t.InRange := by
    rw [ht]
    exact (calls_eq j body.iterate).2.2.1 (inRange_iterate body)
  refine ⟨?_, fun n hn => ?_, ht, fun hasks => ?_, if_pos rfl, fun hfails => ?_⟩
  · -- The answers in front of this one are as many as the uses in front of it.
    rw [useAll_append]
    simp only [useAll]
    rw [List.getElem?_append_right (Nat.le_of_eq (length_useAll _ _ _)), length_useAll,
      Nat.sub_self, List.getElem?_cons_zero]
  · rw [getElem?_calls _ _ _ hn, Option.map_some, hused, hanswer]
  · have hpiece : (∃ bytes, used.1.piece? = some bytes) ↔ t.hasNext = true := by
      rw [hused, piece?_told, if_pos hasks, ← Bool.not_eq_false, hasNext_eq_false_iff t hrange]
      rcases nextChunk_cases t with ⟨hnil, hcall⟩ | ⟨bytes, t', hahead, hcall, -, -⟩
      · rw [hcall, hnil]
        refine iff_of_false (fun hsome => ?_) (fun hne => hne rfl)
        rcases hsome with ⟨bytes, hbytes⟩
        cases hbytes
      · rw [hcall, hahead]
        exact ⟨fun _ => List.cons_ne_nil _ _, fun _ => ⟨bytes, rfl⟩⟩
    rw [hpiece, isEndStream, Bool.not_eq_false']
    exact ⟨Iff.rfl, Iff.rfl⟩
  · -- A call that fails finds nothing ahead, and the traversal is where it was.
    refine useAll_of_exhausted (u :: after) t reached.2.2 ?_
    rw [getElem?_calls _ _ _ (Nat.lt_succ_self j), ← hanswer, Option.some.injEq] at hfails
    rcases nextChunk_cases t with ⟨-, hcall⟩ | ⟨bytes, t', -, hcall, -, -⟩
    · exact hcall
    · rw [hcall] at hfails
      cases hfails

/-- A body of one field, asked in each form with the traversal closed in between.
    The third use that asks is told of the value. Behind the line that ends the
    body every form of asking is told of the end. -/
theorem use_agrees_mixed :
    let body := (Body.empty ⟨"B", by decide⟩).add ⟨0, .field (FieldPart.text "a" "1")⟩
    let front : List Use := [.pollFrame, .close, .next, .close]
    let all := front ++ [.nextChunk, .nextChunk]
    let t := (body.iterate.useAll Ledger.empty front).2.1
    let used := t.use (body.iterate.useAll Ledger.empty front).2.2 .nextChunk
    let ended := body.iterate.useAll Ledger.empty all
    used.1 = .chunk (.ok [49]) ∧ t.hasNext = true ∧ t.isEndStream = false
    ∧ ended.2.1.hasNext = false
    ∧ (ended.2.1.useAll ended.2.2 [.pollFrame, .next, .close, .nextChunk]).1
      = [.frame none, .piece none, .closed, .chunk (.error .exhausted)] := by
  intro body front all t used ended
  rcases use_agrees body Ledger.empty front .nextChunk [] with ⟨-, hcall, -, htells, -⟩
  rcases use_agrees body Ledger.empty all .pollFrame [.next, .close, .nextChunk] with
    ⟨-, -, -, -, -, hended⟩
  have hused : used.1 = .chunk (.ok [49]) := by
    have hthird := hcall 3 (by decide)
    rw [Option.map_eq_some_iff] at hthird
    rcases hthird with ⟨answer, hanswer, htold⟩
    rw [← htold]
    cases hanswer
    rfl
  have hpiece : ∃ bytes, used.1.piece? = some bytes := ⟨[49], by rw [hused]; rfl⟩
  exact ⟨hused, (htells rfl).1.mpr hpiece, (htells rfl).2.mpr hpiece, rfl, (hended rfl).1⟩

end Traversal

end FormData
