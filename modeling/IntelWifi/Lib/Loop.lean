/-
**Loops of C code as a body and a fuel bound.**

A loop is its body: from the state at the loop head, one turn either comes back to the head or
leaves with a result. `run` executes at most `fuel` turns; `Heads` is the set of states a run can
have at the loop head.

* `Heads.invariant`: what every turn keeps holds at every head.
* `run_of_heads`: a property of the result that every leaving head gives.
* `run_unique`: the fuel does not decide the result.
* `run_total`: a measure that every turn lowers bounds the number of turns.
* `run_withRecord`: a record kept of the turns changes nothing.
-/

import Mathlib.Tactic.Common

namespace IntelWifi.Loop

/-- What one turn of a loop does. -/
inductive Turn (State Result : Type) where
  /-- Back to the loop head. -/
  | again (state : State)
  /-- Out of the loop: a `break`, a `return`, a `goto`, or the condition failed. -/
  | leave (result : Result)

variable {State Result : Type}

/-- At most `fuel` turns from `state`; `none` when the loop has not left by then. -/
def run (body : State → Turn State Result) : Nat → State → Option Result
  | 0, _ => none
  | fuel + 1, state =>
    match body state with
    | .again next => run body fuel next
    | .leave result => some result

/-- The states at the loop head, when the loop is entered in `start`. -/
inductive Heads (body : State → Turn State Result) (start : State) : State → Prop where
  | start : Heads body start start
  | again {state next : State} (head : Heads body start state) (turn : body state = .again next) :
      Heads body start next

variable {body : State → Turn State Result}

theorem run_again {state next : State} (turn : body state = .again next) (fuel : Nat) :
    run body (fuel + 1) state = run body fuel next := by
  rw [run, turn]

theorem run_leave {state : State} {result : Result} (turn : body state = .leave result)
    (fuel : Nat) : run body (fuel + 1) state = some result := by
  rw [run, turn]

/-- **The invariant rule.** -/
theorem Heads.invariant {start : State} (Inv : State → Prop) (entered : Inv start)
    (kept : ∀ state next, Inv state → body state = .again next → Inv next) {state : State}
    (head : Heads body start state) : Inv state := by
  induction head with
  | start => exact entered
  | again _ turn ih => exact kept _ _ ih turn

/-- The heads after a first turn are heads of the whole run. -/
theorem Heads.cons {start next state : State} (turn : body start = .again next)
    (head : Heads body next state) : Heads body start state := by
  induction head with
  | start => exact .again .start turn
  | again _ later ih => exact .again ih later

/-- A head of a run that starts at a head. -/
theorem Heads.trans {start state later : State} (head : Heads body start state)
    (next : Heads body state later) : Heads body start later := by
  induction next with
  | start => exact head
  | again _ turn ih => exact .again ih turn

/-- From a head the run goes on as one that starts there. -/
theorem Heads.run_eq {start state : State} (head : Heads body start state) :
    ∃ turns, ∀ fuel, run body (fuel + turns) start = run body fuel state := by
  induction head with
  | start => exact ⟨0, fun _ => rfl⟩
  | again _ turn ih =>
    obtain ⟨turns, same⟩ := ih
    refine ⟨turns + 1, fun fuel => ?_⟩
    rw [Nat.add_comm turns, ← Nat.add_assoc, same, run_again turn]

/-- A result comes out of some head. -/
theorem leave_of_run {start : State} {fuel : Nat} {result : Result}
    (ran : run body fuel start = some result) :
    ∃ state, Heads body start state ∧ body state = .leave result := by
  induction fuel generalizing start with
  | zero => cases ran
  | succ fuel ih =>
    cases turn : body start with
    | again next =>
      rw [run_again turn] at ran
      obtain ⟨state, head, left⟩ := ih ran
      exact ⟨state, head.cons turn, left⟩
    | leave other =>
      rw [run_leave turn, Option.some.injEq] at ran
      exact ⟨start, .start, ran ▸ turn⟩

/-- More fuel gives the same result. -/
theorem run_add {start : State} {fuel : Nat} {result : Result} (ran : run body fuel start = some result)
    (more : Nat) : run body (fuel + more) start = some result := by
  induction fuel generalizing start with
  | zero => cases ran
  | succ fuel ih =>
    rw [Nat.add_right_comm]
    cases turn : body start with
    | again next =>
      rw [run_again turn] at ran ⊢
      exact ih ran
    | leave other =>
      rw [run_leave turn] at ran ⊢
      exact ran

/-- The fuel does not decide the result. -/
theorem run_unique {start : State} {fuel fuel' : Nat} {result result' : Result}
    (ran : run body fuel start = some result) (ran' : run body fuel' start = some result') :
    result = result' := by
  have same := run_add ran fuel'
  rw [Nat.add_comm, run_add ran' fuel, Option.some.injEq] at same
  exact same.symm

/-- **The postcondition rule**: an invariant of the heads, and what leaving under it gives. -/
theorem run_of_heads {start : State} {fuel : Nat} {result : Result} (Inv : State → Prop)
    (Post : Result → Prop) (entered : Inv start)
    (kept : ∀ state next, Inv state → body state = .again next → Inv next)
    (leaves : ∀ state result, Inv state → body state = .leave result → Post result)
    (ran : run body fuel start = some result) : Post result := by
  obtain ⟨state, head, left⟩ := leave_of_run ran
  exact leaves state result (head.invariant Inv entered kept) left

/-- **The termination rule**: a measure that every turn lowers while the invariant holds. -/
theorem run_total (Inv : State → Prop) (measure : State → Nat)
    (turns : ∀ state next, Inv state → body state = .again next →
      Inv next ∧ measure next < measure state)
    {fuel : Nat} {start : State} (entered : Inv start) (enough : measure start < fuel) :
    ∃ result, run body fuel start = some result := by
  induction fuel generalizing start with
  | zero => exact absurd enough (Nat.not_lt_zero _)
  | succ fuel ih =>
    cases turn : body start with
    | again next =>
      obtain ⟨inv, lower⟩ := turns start next entered turn
      rw [run_again turn]
      exact ih inv (by omega)
    | leave result => exact ⟨result, run_leave turn fuel⟩

/-! ### A loop with a record of its turns -/

/-- The loop, with a record that each turn back to the head adds to. -/
def withRecord {Record : Type} (body : State → Turn State Result) (note : State → Record → Record) :
    State × Record → Turn (State × Record) (Result × Record)
  | (state, record) =>
    match body state with
    | .again next => .again (next, note state record)
    | .leave result => .leave (result, record)

/-- The record changes nothing. -/
theorem run_withRecord {Record : Type} (note : State → Record → Record) (fuel : Nat) (state : State)
    (record : Record) :
    (run (withRecord body note) fuel (state, record)).map Prod.fst = run body fuel state := by
  induction fuel generalizing state record with
  | zero => rfl
  | succ fuel ih =>
    rw [run, run, withRecord]
    cases body state with
    | again next => exact ih next _
    | leave result => rfl

end IntelWifi.Loop
