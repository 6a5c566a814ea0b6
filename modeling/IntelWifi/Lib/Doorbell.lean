/-
**A doorbell that may have to wait.**

A producer moves an index. The consumer is told of it in whole granules, by a write which is put off while the
consumer sleeps. When the consumer wakes up, what was put off is caught up with.

* `publish_announced`: after the index has moved, it is told or waits to be told.
* `recheck_announced_iff`: catching up loses it exactly when the consumer sleeps again by then.
* `Announced.lag`: what is told and nothing waits for is less than a granule behind.
-/

import Mathlib.Tactic.Common

namespace IntelWifi.Doorbell

/-- What the consumer was last told, and whether a wake-up is waited for to tell it more. -/
structure Bell where
  told : Nat
  waiting : Bool
  deriving DecidableEq, Repr

variable (granule : Nat)

/-- The whole granules of an index. -/
def whole (index : Nat) : Nat := index / granule * granule

/-- The consumer is told, or the telling waits. -/
def ring (asleep : Bool) (index : Nat) (bell : Bell) : Bell :=
  if asleep then { bell with waiting := true } else { bell with told := whole granule index }

/-- The bell is rung where there is something to tell. -/
def publish (asleep : Bool) (index : Nat) (bell : Bell) : Bell :=
  if bell.told ≠ whole granule index then ring granule asleep index bell else bell

/-- What waits is caught up with. -/
def recheck (asleep : Bool) (index : Nat) (bell : Bell) : Bell :=
  if bell.waiting then { ring granule asleep index bell with waiting := false } else bell

/-- **The index is told, or waits to be told.** -/
def Announced (index : Nat) (bell : Bell) : Prop := bell.told = whole granule index ∨ bell.waiting = true

/-- Catching up clears what waits without telling it. -/
def loses (asleep : Bool) (index : Nat) (bell : Bell) : Bool :=
  bell.waiting && asleep && bell.told != whole granule index

variable {granule : Nat} {asleep : Bool} {index : Nat} {bell : Bell}

theorem ring_announced : Announced granule index (ring granule asleep index bell) := by
  cases asleep with
  | false => exact .inl rfl
  | true => exact .inr rfl

/-- Whatever was told before. -/
theorem publish_announced : Announced granule index (publish granule asleep index bell) := by
  unfold publish
  split
  · exact ring_announced
  · rename_i same
    exact .inl (Decidable.not_not.mp same)

/-- **Catching up** with a consumer that sleeps again. -/
theorem recheck_announced_iff (announced : Announced granule index bell) :
    Announced granule index (recheck granule asleep index bell) ↔ loses granule asleep index bell = false := by
  obtain ⟨told, waiting⟩ := bell
  cases waiting with
  | false => exact ⟨fun _ => rfl, fun _ => announced⟩
  | true =>
    cases asleep with
    | false => exact ⟨fun _ => rfl, fun _ => .inl rfl⟩
    | true =>
      show (told = whole granule index ∨ false = true) ↔ (told != whole granule index) = false
      rw [bne_eq_false_iff_eq]
      exact ⟨fun told => told.resolve_right Bool.false_ne_true, .inl⟩

/-- **What is told lags by less than a granule.** -/
theorem Announced.lag (announced : Announced granule index bell) (quiet : bell.waiting = false)
    (some_granule : 0 < granule) : bell.told ≤ index ∧ index < bell.told + granule := by
  have told := announced.resolve_right fun waits => Bool.false_ne_true (quiet.symm.trans waits)
  have split := Nat.div_add_mod' index granule
  have part := Nat.mod_lt index some_granule
  rw [told]
  unfold whole
  omega

end IntelWifi.Doorbell
