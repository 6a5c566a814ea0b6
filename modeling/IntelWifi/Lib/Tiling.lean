/-
**Consecutive parts.**

A part is a start and a length. A list of parts tiles `[start, stop)` when each part begins where the one
before it ends, the first at `start` and the last ending at `stop`.

* `Tiles.covering_eq`: each position between is in exactly one part, and no other position is in any.
* `tiles_cut`: an interval cut in parts of one size.
-/

import Mathlib.Data.List.Basic
import Mathlib.Tactic.Common

namespace IntelWifi.Tiling

structure Part where
  start : Nat
  length : Nat
  deriving DecidableEq, Repr

/-- Where the next part begins. -/
def Part.stop (part : Part) : Nat := part.start + part.length

/-- The position is in the part. -/
def Part.covers (part : Part) (position : Nat) : Bool :=
  part.start ≤ position && position < part.stop

theorem Part.covers_iff {part : Part} {position : Nat} :
    part.covers position = true ↔ part.start ≤ position ∧ position < part.stop := by
  simp [Part.covers]

/-- The parts follow each other from `start` to `stop`. -/
def Tiles : Nat → List Part → Nat → Prop
  | start, [], stop => start = stop
  | start, part :: later, stop => part.start = start ∧ Tiles part.stop later stop

/-- How many parts have the position. -/
def covering (parts : List Part) (position : Nat) : Nat := parts.countP fun part => part.covers position

variable {start stop : Nat} {parts : List Part}

theorem Tiles.le (tiles : Tiles start parts stop) : start ≤ stop := by
  induction parts generalizing start with
  | nil => exact Nat.le_of_eq tiles
  | cons part later ih =>
    obtain ⟨rfl, rest⟩ := tiles
    have := ih rest
    unfold Part.stop at this
    omega

/-- **Each position is in one part**, and none outside. -/
theorem Tiles.covering_eq (tiles : Tiles start parts stop) (position : Nat) :
    covering parts position = if start ≤ position ∧ position < stop then 1 else 0 := by
  unfold covering
  induction parts generalizing start with
  | nil =>
    obtain rfl : start = stop := tiles
    rw [List.countP_nil, if_neg (by omega)]
  | cons part later ih =>
    obtain ⟨rfl, rest⟩ := tiles
    have upTo := rest.le
    have short : part.start ≤ part.stop := Nat.le_add_right _ _
    rw [List.countP_cons, ih rest]
    by_cases here : part.covers position = true
    · have inside := Part.covers_iff.mp here
      rw [if_pos here, if_neg (by omega), if_pos (by omega)]
    · have outside := mt Part.covers_iff.mpr here
      rw [if_neg here]
      split_ifs <;> omega

/-! ### Cutting an interval -/

/-- `[start, stop)` in parts of one size, the last one shorter; at most `count` of them. -/
def cut (size stop : Nat) : Nat → Nat → List Part
  | 0, _ => []
  | count + 1, start =>
    if start < stop then ⟨start, min size (stop - start)⟩ :: cut size stop count (start + size) else []

variable {size count : Nat}

/-- Enough parts tile the interval. -/
theorem tiles_cut (some : 0 < size) (enough : stop - start ≤ count) :
    Tiles (min start stop) (cut size stop count start) stop := by
  induction count generalizing start with
  | zero => exact Nat.min_eq_right (by omega)
  | succ count ih =>
    unfold cut
    by_cases before : start < stop
    · rw [if_pos before]
      have rest : Tiles (min (start + size) stop) _ stop := ih (by omega)
      have next : Part.stop ⟨start, min size (stop - start)⟩ = min (start + size) stop := by
        unfold Part.stop
        dsimp only
        omega
      exact ⟨by dsimp only; omega, next ▸ rest⟩
    · rw [if_neg before]
      exact Nat.min_eq_right (by omega)

/-- No part is longer than the size, and none is empty. -/
theorem length_of_mem_cut (some : 0 < size) {part : Part} (member : part ∈ cut size stop count start) :
    0 < part.length ∧ part.length ≤ size ∧ part.stop ≤ stop := by
  induction count generalizing start with
  | zero => cases member
  | succ count ih =>
    unfold cut at member
    by_cases before : start < stop
    · rw [if_pos before] at member
      rcases List.mem_cons.mp member with rfl | later
      · unfold Part.stop
        dsimp only
        omega
      · exact ih later
    · rw [if_neg before] at member
      cases member

end IntelWifi.Tiling
