/-
**Who holds what was obtained.**

A ledger numbers what is obtained, notes in which place each item is held and counts how often it is
released. `obtain` fills a place, `release` empties one, and `forget` clears one without a release.

* `Accounted`: every item obtained is held in one place, or was released once.
* `Accounted.obtain`, `Accounted.release`: which the operations keep, as long as nothing is overwritten.
-/

import IntelWifi.Lib.Tally
import Mathlib.Logic.Function.Basic

namespace IntelWifi.Accounts

open IntelWifi.Tally

/-- `obtained` lists the items by number; `holds` gives the number of what is in a place. -/
structure Ledger (Place Item : Type) where
  obtained : List Item
  holds : Place → Option Nat
  released : Nat → Nat

variable {Place Item : Type}

/-- Nothing was obtained. -/
def Ledger.empty : Ledger Place Item := ⟨[], fun _ => none, fun _ => 0⟩

/-- The item in a place. -/
def Ledger.item (l : Ledger Place Item) (place : Place) : Option Item :=
  (l.holds place).bind fun id => l.obtained[id]?

/-- A further item is obtained, and held nowhere. -/
def Ledger.lose (l : Ledger Place Item) (item : Item) : Ledger Place Item :=
  { l with obtained := l.obtained ++ [item] }

section Operations

variable [DecidableEq Place]

/-- A further item is obtained and put in a place. -/
def Ledger.obtain (l : Ledger Place Item) (place : Place) (item : Item) : Ledger Place Item :=
  { l with
    obtained := l.obtained ++ [item]
    holds := Function.update l.holds place (some l.obtained.length) }

/-- A place is cleared. -/
def Ledger.forget (l : Ledger Place Item) (place : Place) : Ledger Place Item :=
  { l with holds := Function.update l.holds place none }

/-- What is in a place is released, and the place cleared. -/
def Ledger.release (l : Ledger Place Item) (place : Place) : Ledger Place Item :=
  match l.holds place with
  | none => l
  | some id => { l with
    holds := Function.update l.holds place none
    released := Function.update l.released id (l.released id + 1) }

variable (l : Ledger Place Item) (place : Place)

theorem forget_of_clear (clear : l.holds place = none) : l.forget place = l := by
  unfold Ledger.forget
  rw [← clear, Function.update_eq_self]

theorem release_obtained : (l.release place).obtained = l.obtained := by
  unfold Ledger.release
  split <;> rfl

theorem release_holds : (l.release place).holds = Function.update l.holds place none := by
  unfold Ledger.release
  split
  · next clear => rw [← clear, Function.update_eq_self]
  · rfl

theorem item_obtain_self (item : Item) :
    (l.obtain place item).item place = some item := by
  unfold Ledger.item Ledger.obtain
  dsimp only
  rw [Function.update_self]
  exact List.getElem?_concat_length

end Operations

/-- **Every item obtained is held in exactly one place, or was released exactly once.** -/
structure Accounted [Fintype Place] (l : Ledger Place Item) : Prop where
  known : ∀ id < l.obtained.length, tally l.holds id + l.released id = 1
  unknown : ∀ id ≥ l.obtained.length, tally l.holds id = 0 ∧ l.released id = 0

section Accounting

variable [Fintype Place] {l : Ledger Place Item}

theorem Accounted.empty : Accounted (.empty : Ledger Place Item) where
  known := fun _ none => absurd none (Nat.not_lt_zero _)
  unknown := fun id _ => ⟨tally_empty id, rfl⟩

/-- What is held was obtained. -/
theorem Accounted.lt_length (accounted : Accounted l) {place : Place} {id : Nat}
    (held : l.holds place = some id) : id < l.obtained.length := by
  by_contra past
  have none := (accounted.unknown id (Nat.not_lt.mp past)).1
  exact absurd (tally_pos held) (by omega)

/-- What is held was not released. -/
theorem Accounted.not_released (accounted : Accounted l) {place : Place} {id : Nat}
    (held : l.holds place = some id) : l.released id = 0 := by
  have once := accounted.known id (accounted.lt_length held)
  have some := tally_pos held
  omega

/-- With nothing held, everything was released once. -/
theorem Accounted.all_released (accounted : Accounted l) (clear : ∀ place, l.holds place = none) :
    ∀ id < l.obtained.length, l.released id = 1 := by
  intro id obtained
  have once := accounted.known id obtained
  rwa [funext clear, tally_empty, Nat.zero_add] at once

variable [DecidableEq Place]

/-- The items elsewhere stay. -/
theorem Accounted.item_obtain (accounted : Accounted l) {place other : Place} (item : Item)
    (differ : other ≠ place) : (l.obtain place item).item other = l.item other := by
  unfold Ledger.item Ledger.obtain
  dsimp only
  rw [Function.update_of_ne differ]
  cases held : l.holds other with
  | none => rfl
  | some id => exact List.getElem?_append_left (accounted.lt_length held)

/-- **A clear place is filled.** -/
theorem Accounted.obtain (accounted : Accounted l) {place : Place} (clear : l.holds place = none)
    (item : Item) : Accounted (l.obtain place item) := by
  have counts (id : Nat) : tally (l.obtain place item).holds id =
      tally l.holds id + if id = l.obtained.length then 1 else 0 := by
    have written := tally_update l.holds place (some l.obtained.length) id
    rw [clear, if_neg (by simp), Nat.add_zero] at written
    show tally (Function.update l.holds place (some l.obtained.length)) id = _
    rw [written]
    simp only [Option.some.injEq, eq_comm]
  have length : (l.obtain place item).obtained.length = l.obtained.length + 1 := List.length_append
  have fresh := accounted.unknown l.obtained.length (Nat.le_refl _)
  constructor
  · intro id obtained
    rw [length] at obtained
    rw [counts]
    show _ + l.released id = 1
    by_cases new : id = l.obtained.length
    · rw [if_pos new, new, fresh.1, fresh.2]
    · rw [if_neg new]
      exact accounted.known id (by omega)
  · intro id past
    rw [length] at past
    rw [counts, if_neg (by omega)]
    exact accounted.unknown id (by omega)

/-- **What a place holds is released.** -/
theorem Accounted.release (accounted : Accounted l) (place : Place) : Accounted (l.release place) := by
  cases held : l.holds place with
  | none =>
    unfold Ledger.release
    rw [held]
    exact accounted
  | some own =>
    have counts (id : Nat) : tally (l.release place).holds id + (l.release place).released id =
        tally l.holds id + l.released id := by
      have cleared := tally_update l.holds place none id
      rw [held, if_neg (by simp : ¬ (none : Option Nat) = some id), Nat.add_zero] at cleared
      have count : (l.release place).released id =
          l.released id + if some own = some id then 1 else 0 := by
        unfold Ledger.release
        rw [held]
        dsimp only
        by_cases same : own = id
        · subst same
          rw [Function.update_self, if_pos rfl]
        · rw [Function.update_of_ne (Ne.symm same), if_neg (by simpa using same), Nat.add_zero]
      rw [release_holds, count]
      omega
    constructor
    · intro id obtained
      rw [release_obtained] at obtained
      rw [counts]
      exact accounted.known id obtained
    · intro id past
      rw [release_obtained] at past
      have none := counts id
      rw [(accounted.unknown id past).1, (accounted.unknown id past).2] at none
      omega

end Accounting

end IntelWifi.Accounts
