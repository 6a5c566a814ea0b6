/-
**Loops that try until they succeed.**

A loop asks for something again and again, and what it is answered is an infinite sequence. A turn either asks
once, and a good answer lowers by one what the loop still needs, or it asks for nothing and lowers a rank. The
loop leaves when it needs nothing more.

* `Retries.returns_iff`: such a loop returns if and only if the sequence has enough good answers.
-/

import IntelWifi.Lib.Loop
import Mathlib.Data.Nat.Count

namespace IntelWifi.Loop

variable {State Result : Type} (body : State → Turn State Result) (good : Nat → Prop) [DecidablePred good]

/-- What the turns do to the number of answers so far, to what is needed and to the rank. -/
structure Retries (Inv : State → Prop) (asked need rank : State → Nat) : Prop where
  keeps : ∀ state next, Inv state → body state = .again next → Inv next
  turn : ∀ state next, Inv state → body state = .again next →
    (asked next = asked state + 1 ∧ rank next = rank state ∧ 0 < need state ∧
      need next + (if good (asked state) then 1 else 0) = need state) ∨
    (asked next = asked state ∧ need next = need state ∧ rank next < rank state)
  leaves : ∀ state result, Inv state → body state = .leave result → need state = 0

variable {body good} {Inv : State → Prop} {asked need rank : State → Nat} {start : State}

/-- What was needed is found or needed still. -/
theorem Retries.found (retries : Retries body good Inv asked need rank) (first : asked start = 0)
    (entered : Inv start) {state : State} (head : Heads body start state) :
    Inv state ∧ need state + Nat.count good (asked state) = need start := by
  refine head.invariant (fun state => Inv state ∧ need state + Nat.count good (asked state) = need start)
    ⟨entered, by rw [first, Nat.count_zero, Nat.add_zero]⟩ ?_
  rintro state next ⟨inv, found⟩ turn
  refine ⟨retries.keeps state next inv turn, ?_⟩
  rcases retries.turn state next inv turn with ⟨asks, -, -, lower⟩ | ⟨same, kept, -⟩
  · rw [asks, Nat.count_succ]
    omega
  · rw [same, kept]
    exact found

/-- **A loop that retries returns exactly when the answers have as many good ones as it needs.** -/
theorem Retries.returns_iff (retries : Retries body good Inv asked need rank) (first : asked start = 0)
    (entered : Inv start) :
    (∃ fuel result, run body fuel start = some result) ↔ ∃ n, need start ≤ Nat.count good n := by
  constructor
  · rintro ⟨fuel, result, ran⟩
    obtain ⟨state, head, left⟩ := leave_of_run ran
    obtain ⟨inv, found⟩ := retries.found first entered head
    rw [retries.leaves state result inv left, Nat.zero_add] at found
    exact ⟨asked state, found.ge⟩
  · rintro ⟨n, enough⟩
    refine ⟨_, run_total (fun state => Inv state ∧ need state + Nat.count good (asked state) ≤ Nat.count good n)
      (fun state => n - asked state + rank state) ?_ ⟨entered, ?_⟩ (Nat.lt_succ_self _)⟩
    · rintro state next ⟨inv, covered⟩ turn
      have kept := retries.keeps state next inv turn
      rcases retries.turn state next inv turn with ⟨asks, rank, needs, lower⟩ | ⟨same, need, rank⟩
      · -- good answers are left, so that the sequence is not used up to `n`
        have before : asked state < n := by
          by_contra behind
          have := Nat.count_monotone good (not_lt.mp behind)
          omega
        refine ⟨⟨kept, ?_⟩, by omega⟩
        rw [asks, Nat.count_succ]
        omega
      · rw [same, need]
        exact ⟨⟨kept, covered⟩, by omega⟩
    · rwa [first, Nat.count_zero, Nat.add_zero]

end IntelWifi.Loop
