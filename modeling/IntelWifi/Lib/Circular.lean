/-
**Indices of a circular buffer.**

`gap n from to` is how many steps of `next n` lead from one index to the other, and the circular
interval `[from, to)` is the indices at a smaller distance from `from` than `to` is.

* `gap_next_right`, `gap_next_left`: how the ends of an interval move.
* `slot_injective`: in an interval no longer than a window that divides the buffer, indices keep
  apart modulo the window.
-/

import Mathlib.Data.Int.ModEq
import Mathlib.Tactic.Common

namespace IntelWifi.Circular

/-- The index after `i`. -/
def next (n i : Nat) : Nat := if i + 1 < n then i + 1 else 0

/-- The number of steps from one index to another. -/
def gap (n first last : Nat) : Nat := if first ≤ last then last - first else last + n - first

/-- The circular interval `[first, last)`. -/
def Within (n first last i : Nat) : Prop := i < n ∧ gap n first i < gap n first last

instance (n first last i : Nat) : Decidable (Within n first last i) :=
  inferInstanceAs (Decidable (_ ∧ _))

variable {n first last i j : Nat}

theorem next_lt (some : 0 < n) : next n i < n := by
  unfold next
  split <;> omega

theorem gap_lt (stop : last < n) : gap n first last < n := by
  unfold gap
  split_ifs <;> omega

@[simp] theorem gap_self (n first : Nat) : gap n first first = 0 := by
  unfold gap
  rw [if_pos (Nat.le_refl _), Nat.sub_self]

theorem gap_eq_zero (start : first < n) : gap n first last = 0 ↔ first = last := by
  unfold gap
  split <;> omega

/-- An index is determined by its distance. -/
theorem gap_injective (_ : first < n) (left : i < n) (right : j < n)
    (same : gap n first i = gap n first j) : i = j := by
  unfold gap at same
  split_ifs at same <;> omega

/-- Every distance below `n` is that of an index. -/
theorem exists_gap {distance : Nat} (start : first < n) (short : distance < n) :
    ∃ i < n, gap n first i = distance := by
  unfold gap
  by_cases wraps : first + distance < n
  · exact ⟨first + distance, wraps, by rw [if_pos (by omega)]; omega⟩
  · exact ⟨first + distance - n, by omega, by rw [if_neg (by omega)]; omega⟩

/-- The far end moves away by one, unless it comes round. -/
theorem gap_next_right (start : first < n) (stop : last < n)
    (room : gap n first last + 1 < n) : gap n first (next n last) = gap n first last + 1 := by
  unfold gap next at *
  split_ifs at * <;> omega

/-- The near end moves closer by one. -/
theorem gap_next_left (start : first < n) (stop : last < n) (differ : first ≠ last) :
    gap n (next n first) last + 1 = gap n first last := by
  unfold gap next
  split_ifs <;> omega

/-- From an index inside the interval, what is left of it. -/
theorem gap_split (start : first < n) (middle : i < n) (stop : last < n)
    (inside : gap n first i ≤ gap n first last) :
    gap n first i + gap n i last = gap n first last := by
  unfold gap at *
  split_ifs at * <;> omega

/-- Distances that do not come round add up. -/
theorem gap_add (start : first < n) (middle : i < n)
    (short : gap n first i + gap n i last < n) : gap n first last = gap n first i + gap n i last := by
  unfold gap at *
  split_ifs at * <;> omega

/-- The plain test of a wrapped interval. -/
theorem within_iff (start : first < n) (stop : last < n) (index : i < n) :
    Within n first last i ↔
      if first ≤ last then first ≤ i ∧ i < last else ¬ (i < first ∧ last ≤ i) := by
  unfold Within gap
  split_ifs <;> omega

theorem not_within_self : ¬ Within n first first i := by
  rintro ⟨_, short⟩
  rw [gap_self] at short
  exact absurd short (Nat.not_lt_zero _)

theorem within_first (start : first < n) (differ : first ≠ last) :
    Within n first last first := by
  refine ⟨start, ?_⟩
  have := @gap_eq_zero n first last start
  rw [gap_self]
  omega

/-- One more index at the far end. -/
theorem within_next_right (start : first < n) (stop : last < n)
    (room : gap n first last + 1 < n) :
    Within n first (next n last) i ↔ Within n first last i ∨ i = last := by
  unfold Within
  rw [gap_next_right start stop room]
  constructor
  · rintro ⟨index, short⟩
    by_cases here : gap n first i = gap n first last
    · exact .inr (gap_injective start index stop here)
    · exact .inl ⟨index, by omega⟩
  · rintro (⟨index, short⟩ | rfl)
    · exact ⟨index, by omega⟩
    · exact ⟨stop, by omega⟩

/-- What comes after an index of the interval. -/
theorem within_after (start : first < n) (stop : last < n) (inside : Within n first last i)
    (after : Within n (next n i) last j) : Within n first last j ∧ gap n first i < gap n first j := by
  obtain ⟨index, short⟩ := inside
  obtain ⟨index', short'⟩ := after
  have whole : gap n first last < n := gap_lt stop
  have differ : i ≠ last := by
    rintro rfl
    exact Nat.lt_irrefl _ short
  have moved := gap_next_right start index (by omega)
  have left := gap_next_left index stop differ
  have parts := gap_split start index stop (Nat.le_of_lt short)
  have there : gap n first j = gap n first (next n i) + gap n (next n i) j :=
    gap_add start (next_lt (Nat.zero_lt_of_lt start)) (by omega)
  exact ⟨⟨index', by omega⟩, by omega⟩

/-- An index farther away than one of the interval comes after it. -/
theorem within_of_farther (start : first < n) (stop : last < n) (inside : Within n first last i)
    (later : Within n first last j) (farther : gap n first i < gap n first j) :
    Within n (next n i) last j := by
  obtain ⟨index, short⟩ := inside
  obtain ⟨index', short'⟩ := later
  have differ : i ≠ j := by
    rintro rfl
    exact Nat.lt_irrefl _ farther
  have differLast : i ≠ last := by
    rintro rfl
    exact Nat.lt_irrefl _ short
  have there := gap_next_left index index' differ
  have left := gap_next_left index stop differLast
  have part := gap_split start index index' (Nat.le_of_lt farther)
  have whole := gap_split start index stop (Nat.le_of_lt short)
  exact ⟨index', by omega⟩

/-- **Indices keep apart modulo a window** that divides the buffer and is as long as the interval. -/
theorem slot_injective {window : Nat} (divides : window ∣ n) (start : first < n) (stop : last < n)
    (short : gap n first last ≤ window) (left : Within n first last i)
    (right : Within n first last j) (same : i % window = j % window) : i = j := by
  obtain ⟨index, before⟩ := left
  obtain ⟨index', before'⟩ := right
  -- The distances agree modulo the window, and are both below it.
  have congr : gap n first i % window = gap n first j % window := by
    have shift (k : Nat) (lt : k < n) : (gap n first k + first) % window = k % window := by
      obtain ⟨m, rfl⟩ := divides
      unfold gap
      split
      · rw [Nat.sub_add_cancel (by omega)]
      · rw [Nat.sub_add_cancel (by omega), Nat.add_mul_mod_self_left]
    have sum : (gap n first i + first) % window = (gap n first j + first) % window := by
      rw [shift i index, shift j index', same]
    exact Nat.ModEq.add_right_cancel' first sum
  rw [Nat.mod_eq_of_lt (by omega), Nat.mod_eq_of_lt (by omega)] at congr
  exact gap_injective start index index' congr

end IntelWifi.Circular
