/-
**How often something is in a table.**

A table is a function that gives what is in each place, if anything. `tally table a` is the number of
places that hold `a`.

* `tally_update`: what writing one place changes.
-/

import Mathlib.Algebra.BigOperators.Group.Finset.Basic
import Mathlib.Algebra.Order.BigOperators.Group.Finset
import Mathlib.Tactic.Common

namespace IntelWifi.Tally

variable {Place Item : Type} [Fintype Place] [DecidableEq Item]

/-- The number of places that hold an item. -/
def tally (table : Place → Option Item) (item : Item) : Nat :=
  ∑ place, if table place = some item then 1 else 0

@[simp] theorem tally_empty (item : Item) : tally (fun _ : Place => none) item = 0 := by
  unfold tally
  exact Finset.sum_eq_zero fun _ _ => if_neg (by simp)

/-- An item that is somewhere is counted. -/
theorem tally_pos {table : Place → Option Item} {place : Place} {item : Item}
    (held : table place = some item) : 0 < tally table item :=
  Finset.sum_pos' (fun _ _ => Nat.zero_le _)
    ⟨place, Finset.mem_univ place, by rw [if_pos held]; exact Nat.zero_lt_one⟩

/-- An item that is nowhere. -/
theorem tally_eq_zero {table : Place → Option Item} {item : Item} (absent : ∀ place, table place ≠ some item) :
    tally table item = 0 :=
  Finset.sum_eq_zero fun place _ => if_neg (absent place)

/-- **Writing a place** takes one away for what it held and adds one for what it holds. -/
theorem tally_update [DecidableEq Place] (table : Place → Option Item) (place : Place) (content : Option Item)
    (item : Item) :
    tally (Function.update table place content) item + (if table place = some item then 1 else 0) =
      tally table item + if content = some item then 1 else 0 := by
  unfold tally
  have others : ∑ other ∈ Finset.univ.erase place,
      (if Function.update table place content other = some item then 1 else 0) =
      ∑ other ∈ Finset.univ.erase place, if table other = some item then 1 else 0 :=
    Finset.sum_congr rfl fun other member => by
      rw [Function.update_of_ne (Finset.ne_of_mem_erase member)]
  rw [← Finset.add_sum_erase _ _ (Finset.mem_univ place), others, Function.update_self,
    ← Finset.add_sum_erase _ (fun other => if table other = some item then 1 else 0)
      (Finset.mem_univ place)]
  omega

end IntelWifi.Tally
