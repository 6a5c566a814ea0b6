/-
**Binary search.**

The search keeps the part of a list where the element can be, from `l` up to before `u`, and compares the key
with the element in its middle. A comparison is negative where the key is before the element, positive where it
is after it, and zero where it is found; along a list in order the comparisons descend.

* `bsearch_total`: the search ends.
* `bsearch_found`: what it finds is an element that the comparison is zero for.
* `bsearch_missing`: in a list along which the comparisons descend, it finds one if there is one.
-/

import IntelWifi.Lib.Loop

namespace IntelWifi.BinarySearch

open Loop

variable {α : Type}

/-- The part that is searched. -/
structure Bounds where
  l : Nat
  u : Nat

/-- One comparison. -/
def compareMiddle (compar : α → Int) (base : List α) (bounds : Bounds) : Turn Bounds (Option α) :=
  if bounds.l < bounds.u then
    let idx := (bounds.l + bounds.u) / 2
    match base[idx]? with
    | none => .leave none
    | some p =>
      if compar p < 0 then .again ⟨bounds.l, idx⟩
      else if compar p > 0 then .again ⟨idx + 1, bounds.u⟩
      else .leave (some p)
  else .leave none

/-- `bsearch`, with the comparison of the key. -/
def bsearch (compar : α → Int) (base : List α) : Option α :=
  (run (compareMiddle compar base) (base.length + 1) ⟨0, base.length⟩).getD none

/-- The comparisons descend along the list. -/
def Descends (compar : α → Int) (base : List α) : Prop := base.Pairwise fun a b => compar b ≤ compar a

/-- Where the key can be: in the part that is left, which is a part of the list. -/
structure Within (compar : α → Int) (base : List α) (bounds : Bounds) : Prop where
  inside : bounds.u ≤ base.length
  found : ∀ i p, base[i]? = some p → compar p = 0 → bounds.l ≤ i ∧ i < bounds.u

variable {compar : α → Int} {base : List α} {bounds next : Bounds}

/-- **One comparison**: how the part that is left gets smaller. -/
theorem compareMiddle_again (turn : compareMiddle compar base bounds = .again next) :
    bounds.l < bounds.u ∧ ∃ p, base[(bounds.l + bounds.u) / 2]? = some p ∧
      (compar p < 0 ∧ next = ⟨bounds.l, (bounds.l + bounds.u) / 2⟩ ∨
        compar p > 0 ∧ next = ⟨(bounds.l + bounds.u) / 2 + 1, bounds.u⟩) := by
  unfold compareMiddle at turn
  by_cases some : bounds.l < bounds.u
  · rw [if_pos some] at turn
    dsimp only at turn
    cases middle : base[(bounds.l + bounds.u) / 2]? with
    | none =>
      rw [middle] at turn
      cases turn
    | some p =>
      rw [middle] at turn
      refine ⟨some, p, rfl, ?_⟩
      dsimp only at turn
      split_ifs at turn with before after
      · exact .inl ⟨before, (Turn.again.inj turn).symm⟩
      · exact .inr ⟨after, (Turn.again.inj turn).symm⟩
  · rw [if_neg some] at turn
    cases turn

/-- Each comparison makes the part that is left smaller. -/
theorem compareMiddle_smaller (turn : compareMiddle compar base bounds = .again next) :
    next.u - next.l < bounds.u - bounds.l := by
  obtain ⟨some, p, _, ⟨_, rfl⟩ | ⟨_, rfl⟩⟩ := compareMiddle_again turn
  · dsimp only
    omega
  · dsimp only
    omega

/-- **The search ends.** -/
theorem bsearch_total (compar : α → Int) (base : List α) :
    run (compareMiddle compar base) (base.length + 1) ⟨0, base.length⟩ = some (bsearch compar base) := by
  have enough : (⟨0, base.length⟩ : Bounds).u - (⟨0, base.length⟩ : Bounds).l < base.length + 1 :=
    Nat.lt_succ_self base.length
  have ends : ∃ result, run (compareMiddle compar base) (base.length + 1) ⟨0, base.length⟩ = some result :=
    run_total (fun _ => True) (fun bounds => bounds.u - bounds.l)
      (fun _ _ _ turn => ⟨trivial, compareMiddle_smaller turn⟩) trivial enough
  obtain ⟨result, ran⟩ := ends
  unfold bsearch
  rw [ran]
  rfl

/-- **What is found** is an element that the comparison is zero for. -/
theorem bsearch_found {p : α} (found : bsearch compar base = some p) : p ∈ base ∧ compar p = 0 := by
  have ran := bsearch_total compar base
  rw [found] at ran
  obtain ⟨bounds, _, left⟩ := leave_of_run ran
  unfold compareMiddle at left
  dsimp only at left
  split_ifs at left with some
  · cases middle : base[(bounds.l + bounds.u) / 2]? with
    | none => simp [middle] at left
    | some other =>
      rw [middle] at left
      dsimp only at left
      split_ifs at left with before after
      cases left
      exact ⟨List.mem_of_getElem? middle, by omega⟩
  · cases left

theorem Descends.le (descends : Descends compar base) {i j : Nat} {a b : α} (first : base[i]? = some a)
    (second : base[j]? = some b) (order : i ≤ j) : compar b ≤ compar a := by
  obtain ⟨below, rfl⟩ := List.getElem?_eq_some_iff.mp first
  obtain ⟨inside, rfl⟩ := List.getElem?_eq_some_iff.mp second
  rcases Nat.eq_or_lt_of_le order with rfl | before
  · exact Int.le_refl _
  · exact List.pairwise_iff_getElem.mp descends i j below inside before

/-- A comparison does not leave the key behind. -/
theorem Within.again (within : Within compar base bounds) (descends : Descends compar base)
    (turn : compareMiddle compar base bounds = .again next) : Within compar base next := by
  have inside := within.inside
  obtain ⟨some, p, middle, ⟨before, rfl⟩ | ⟨after, rfl⟩⟩ := compareMiddle_again turn
  · refine ⟨by dsimp only; omega, fun i other here zero => ⟨(within.found i other here zero).1, ?_⟩⟩
    by_contra beyond
    have order := descends.le middle here (Nat.not_lt.mp beyond)
    omega
  · refine ⟨inside, fun i other here zero => ⟨?_, (within.found i other here zero).2⟩⟩
    by_contra behind
    have order := descends.le here middle (by dsimp only at behind; omega)
    omega

/-- **Nothing is missed**: where the comparisons descend, the search finds an element if there is one. -/
theorem bsearch_missing (descends : Descends compar base) (missing : bsearch compar base = none) :
    ∀ p ∈ base, compar p ≠ 0 := by
  have ran := bsearch_total compar base
  rw [missing] at ran
  obtain ⟨bounds, head, left⟩ := leave_of_run ran
  have entered : Within compar base ⟨0, base.length⟩ :=
    ⟨Nat.le_refl _, fun i p here _ => ⟨Nat.zero_le _, (List.getElem?_eq_some_iff.mp here).1⟩⟩
  have within := head.invariant (Within compar base) entered fun _ _ within turn => within.again descends turn
  have inside := within.inside
  have empty : ¬ bounds.l < bounds.u := by
    intro some
    unfold compareMiddle at left
    rw [if_pos some] at left
    dsimp only at left
    rw [List.getElem?_eq_getElem (by omega)] at left
    dsimp only at left
    split_ifs at left
    cases left
  intro p member zero
  obtain ⟨i, here⟩ := List.getElem?_of_mem member
  have between := within.found i p here zero
  omega

end IntelWifi.BinarySearch
