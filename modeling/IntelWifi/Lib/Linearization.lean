/-
**Orders that explain concurrent calls.**

A sequential object is a function from a call and a state to the next state and the value returned. Calls
of several threads are linearizable when some order of them, in which each thread's calls stand as that
thread made them, explains every value returned and the last state.

* `Explains.snoc`: a call that takes effect when it returns keeps the order of returns an explanation.
* `mem_of_filter_eq`: such an order has the calls that returned, and no others.
-/

import Mathlib.Data.List.Basic
import Mathlib.Tactic.Common

namespace IntelWifi.Linearization

/-- A call that returned. -/
structure Returned (Thread Call Value : Type) where
  thread : Thread
  call : Call
  value : Value

variable {Thread Call Value State : Type} (apply : Call → State → State × Value)

/-- The calls, made one after another in this order, return these values and end in the last state. -/
def Explains : State → List (Returned Thread Call Value) → State → Prop
  | state, [], last => state = last
  | state, first :: later, last =>
    (apply first.call state).2 = first.value ∧ Explains (apply first.call state).1 later last

/-- **Some order explains the calls that returned**, with each thread's calls in its own order. -/
def Linearizable [DecidableEq Thread] (start : State) (returned : List (Returned Thread Call Value))
    (last : State) : Prop :=
  ∃ order, (∀ thread, order.filter (fun done => done.thread = thread) =
      returned.filter fun done => done.thread = thread) ∧ Explains apply start order last

variable {apply}

/-- **A call takes effect when it returns.** -/
theorem Explains.snoc {start last : State} {returned : List (Returned Thread Call Value)}
    (explained : Explains apply start returned last) (thread : Thread) (call : Call) :
    Explains apply start (returned ++ [⟨thread, call, (apply call last).2⟩]) (apply call last).1 := by
  induction returned generalizing start with
  | nil =>
    obtain rfl := explained
    exact ⟨rfl, rfl⟩
  | cons first later ih => exact ⟨explained.1, ih explained.2⟩

variable [DecidableEq Thread]

/-- The order of returns is one of the orders. -/
theorem Explains.linearizable {start last : State} {returned : List (Returned Thread Call Value)}
    (explained : Explains apply start returned last) : Linearizable apply start returned last :=
  ⟨returned, fun _ => rfl, explained⟩

/-- An order has the calls that returned, and no others. -/
theorem mem_of_filter_eq {order returned : List (Returned Thread Call Value)}
    (same : ∀ thread, order.filter (fun done => done.thread = thread) =
      returned.filter fun done => done.thread = thread) (done : Returned Thread Call Value) :
    done ∈ order ↔ done ∈ returned := by
  have among (calls : List (Returned Thread Call Value)) :
      done ∈ calls ↔ done ∈ calls.filter fun other => other.thread = done.thread := by
    rw [List.mem_filter, decide_eq_true rfl]
    exact (and_iff_left rfl).symm
  rw [among order, same done.thread, ← among returned]

end IntelWifi.Linearization
