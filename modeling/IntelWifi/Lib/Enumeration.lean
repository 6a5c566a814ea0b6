/-
**Going through the members of a set of positions.**

A search gives the least member from a position on, or the size where there is none. A loop that asks for the next
member in each turn goes over exactly the members, from below, once each.

* `IsNext.unique`: there is one answer.
* `run_enumerate`: the loop is a fold over the members below the size.
-/

import IntelWifi.Lib.Loop
import Mathlib.Data.List.Basic

namespace IntelWifi.Enumeration

open Loop

variable {P : Nat → Bool} {size start next : Nat}

/-- The least member from `start` on that is below `size`; else `size`. -/
structure IsNext (P : Nat → Bool) (size start next : Nat) : Prop where
  le_size : next ≤ size
  member : next < size → start ≤ next ∧ P next = true
  least : ∀ i, start ≤ i → i < next → P i = false

/-- **There is one.** -/
theorem IsNext.unique {next' : Nat} (is : IsNext P size start next) (is' : IsNext P size start next') : next = next' := by
  rcases Nat.lt_trichotomy next next' with below | same | above
  · obtain ⟨from_start, member⟩ := is.member (Nat.lt_of_lt_of_le below is'.le_size)
    rw [is'.least next from_start below] at member
    cases member
  · exact same
  · obtain ⟨from_start, member⟩ := is'.member (Nat.lt_of_lt_of_le above is.le_size)
    rw [is.least next' from_start above] at member
    cases member

/-- The members from `start` on that are below `size`. -/
def members (P : Nat → Bool) (size start : Nat) : List Nat := (List.range' start (size - start)).filter P

theorem members_zero (P : Nat → Bool) (size : Nat) : members P size 0 = (List.range size).filter P := by
  rw [members, Nat.sub_zero, List.range_eq_range']

/-- From the size on there are none. -/
theorem members_of_le (past : size ≤ start) : members P size start = [] := by
  rw [members, Nat.sub_eq_zero_of_le past]
  rfl

theorem members_step (below : start < size) : members P size start =
    if P start = true then start :: members P size (start + 1) else members P size (start + 1) := by
  obtain ⟨more, size_eq⟩ : ∃ more, size - start = more + 1 := ⟨size - start - 1, by omega⟩
  have rest : size - (start + 1) = more := by omega
  rw [members, members, size_eq, rest, List.range'_succ, List.filter_cons]

/-- **The next member is the first of them.** -/
theorem IsNext.members_eq (is : IsNext P size start next) : members P size start =
    if next < size then next :: members P size (next + 1) else [] := by
  -- by induction on how far the next member is
  induction gap : next - start generalizing start with
  | zero =>
    by_cases below : next < size
    · obtain ⟨from_start, member⟩ := is.member below
      obtain rfl : start = next := by omega
      rw [if_pos below, members_step below, if_pos member]
    · have past : size ≤ start := by have := is.le_size; omega
      rw [if_neg below, members_of_le past]
  | succ gap ih =>
    have skipped := is.least start (Nat.le_refl _) (by omega)
    have before : start < size := by have := is.le_size; omega
    rw [members_step before, skipped, if_neg Bool.false_ne_true]
    refine ih ⟨is.le_size, fun below => ?_, fun i from_start => is.least i (by omega)⟩ (by omega)
    exact ⟨by omega, (is.member below).2⟩

section Loop

variable {σ ε : Type} {search : Nat → Except ε Nat} {body : σ → Nat → Except ε σ}

/-- A turn of `for (i = next(0); i < size; i = next(i + 1)) body`. -/
def turn (search : Nat → Except ε Nat) (size : Nat) (body : σ → Nat → Except ε σ) (at_head : Nat × σ) :
    Turn (Nat × σ) (Except ε σ) :=
  if at_head.1 < size then
    match body at_head.2 at_head.1 with
    | .error e => .leave (.error e)
    | .ok s =>
      match search (at_head.1 + 1) with
      | .error e => .leave (.error e)
      | .ok i => .again (i, s)
  else .leave (.ok at_head.2)

/-- The loop from its start. -/
def enumerate (fuel : Nat) (search : Nat → Except ε Nat) (size : Nat) (body : σ → Nat → Except ε σ) (s : σ) :
    Option (Except ε σ) :=
  match search 0 with
  | .error e => some (.error e)
  | .ok i => run (turn search size body) fuel (i, s)

theorem run_turn (finds : ∀ start, ∃ next, search start = .ok next ∧ IsNext P size start next) {fuel : Nat} {s : σ}
    (found : IsNext P size start next) (enough : size - start < fuel) :
    run (turn search size body) fuel (next, s) = some ((members P size start).foldlM body s) := by
  induction fuel generalizing start next s with
  | zero => exact absurd enough (Nat.not_lt_zero _)
  | succ fuel ih =>
    rw [found.members_eq]
    by_cases below : next < size
    · obtain ⟨later, searched, isNext⟩ := finds (next + 1)
      obtain ⟨from_start, _⟩ := found.member below
      rw [if_pos below, List.foldlM_cons, run, turn, if_pos below]
      cases ran : body s next with
      | error e => rfl
      | ok s' =>
        dsimp only
        rw [searched]
        exact ih isNext (by omega)
    · rw [if_neg below, run, turn, if_neg below]
      rfl

/-- **The loop is a fold over the members**, in their order. -/
theorem run_enumerate (finds : ∀ start, ∃ next, search start = .ok next ∧ IsNext P size start next) {fuel : Nat}
    (enough : size < fuel) (s : σ) :
    enumerate fuel search size body s = some (((List.range size).filter P).foldlM body s) := by
  obtain ⟨next, searched, isNext⟩ := finds 0
  rw [enumerate, searched, ← members_zero]
  exact run_turn finds isNext enough

end Loop

end IntelWifi.Enumeration
