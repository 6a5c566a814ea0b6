/-
**The pointers of the command queue.**

The ring of indices is a circular buffer of 256, of which at most `n_window` = 32 are in flight.

* `iwlQueueUsed_iff`: `iwl_queue_used` is the circular interval from `read_ptr` to `write_ptr`.
* `iwlQueueSpace_eq`: `iwl_queue_space` is what the interval leaves of the window.
* `card_freeSlots`: that many slots belong to no index in flight.
-/

import IntelWifi.Lib.Circular
import IntelWifi.Pcie.Types
import Mathlib.Data.Fintype.Card
import Mathlib.Data.Finset.Card

namespace IntelWifi.Pcie

open IntelWifi.Circular

/-- `iwl_queue_inc_wrap`: `++index & (TFD_QUEUE_SIZE_MAX - 1)`. -/
def iwlQueueIncWrap (index : RingIndex) : RingIndex :=
  ⟨(index.val + 1) % tfdQueueSizeMax, Nat.mod_lt _ (by decide)⟩

/-- `iwl_pcie_get_cmd_index`: `index & (n_window - 1)`. -/
def iwlPcieGetCmdIndex (index : RingIndex) : Slot := ⟨index.val % tfdCmdSlots, Nat.mod_lt _ (by decide)⟩

/-- `iwl_queue_used`. -/
def iwlQueueUsed (q : IwlTxq) (i : RingIndex) : Bool :=
  if q.readPtr ≤ q.writePtr then q.readPtr ≤ i && i < q.writePtr
  else !(decide (i < q.readPtr) && decide (q.writePtr ≤ i))

/-- `used` in `iwl_queue_space`: the difference of the pointers, taken modulo the ring. -/
def queueLength (q : IwlTxq) : Nat :=
  (((q.writePtr.val : Int) - q.readPtr.val) % (tfdQueueSizeMax : Int)).toNat

/-- `iwl_queue_space`. -/
def iwlQueueSpace (q : IwlTxq) : Nat :=
  let max := if tfdCmdSlots < tfdQueueSizeMax then tfdCmdSlots else tfdQueueSizeMax - 1
  let used := queueLength q
  if max < used then 0 else max - used

/-! ### The pointers as a circular interval -/

theorem incWrap_eq (index : RingIndex) : (iwlQueueIncWrap index).val = next tfdQueueSizeMax index.val := by
  have := index.isLt
  unfold iwlQueueIncWrap next tfdQueueSizeMax at *
  dsimp only
  split <;> omega

theorem queueLength_eq (q : IwlTxq) :
    queueLength q = gap tfdQueueSizeMax q.readPtr.val q.writePtr.val := by
  have := q.readPtr.isLt
  have := q.writePtr.isLt
  unfold queueLength gap tfdQueueSizeMax at *
  split <;> omega

/-- The index is in flight: in the circular interval from `read_ptr` to `write_ptr`. -/
def InFlight (q : IwlTxq) (i : RingIndex) : Prop :=
  Within tfdQueueSizeMax q.readPtr.val q.writePtr.val i.val

instance (q : IwlTxq) (i : RingIndex) : Decidable (InFlight q i) := inferInstanceAs (Decidable (Within ..))

/-- **`iwl_queue_used` is membership in the circular interval.** -/
theorem iwlQueueUsed_iff (q : IwlTxq) (i : RingIndex) : iwlQueueUsed q i = true ↔ InFlight q i := by
  unfold InFlight
  rw [within_iff q.readPtr.isLt q.writePtr.isLt i.isLt]
  unfold iwlQueueUsed
  by_cases order : q.readPtr ≤ q.writePtr
  · rw [if_pos order, if_pos (Fin.le_def.mp order), Bool.and_eq_true, decide_eq_true_iff,
      decide_eq_true_iff, Fin.le_def, Fin.lt_def]
  · rw [if_neg order, if_neg (mt Fin.le_def.mpr order), Bool.not_eq_true', ← Bool.not_eq_true,
      Bool.and_eq_true, decide_eq_true_iff, decide_eq_true_iff, Fin.le_def, Fin.lt_def]

/-- The space is what the indices in flight leave of the window. -/
theorem iwlQueueSpace_eq (q : IwlTxq) : iwlQueueSpace q = tfdCmdSlots - queueLength q := by
  have window : tfdCmdSlots < tfdQueueSizeMax := by decide
  unfold iwlQueueSpace
  simp only [if_pos window]
  split <;> omega

section Push

variable {q q' : IwlTxq} (room : 1 ≤ iwlQueueSpace q) (readPtr : q'.readPtr = q.readPtr)
  (writePtr : q'.writePtr = iwlQueueIncWrap q.writePtr)

include room

/-- While there is space, one more index does not come round. -/
theorem longer_lt : gap tfdQueueSizeMax q.readPtr.val q.writePtr.val + 1 < tfdQueueSizeMax := by
  rw [iwlQueueSpace_eq, queueLength_eq] at room
  unfold tfdQueueSizeMax tfdCmdSlots at *
  omega

include readPtr writePtr

/-- The interval, extended at `write_ptr`. -/
theorem inFlight_push (i : RingIndex) : InFlight q' i ↔ InFlight q i ∨ i = q.writePtr := by
  unfold InFlight
  rw [readPtr, writePtr, incWrap_eq, within_next_right q.readPtr.isLt q.writePtr.isLt (longer_lt room),
    Fin.ext_iff]

/-- The longer interval is in the window. -/
theorem queueLength_push : queueLength q' ≤ tfdCmdSlots := by
  have longer := gap_next_right q.readPtr.isLt q.writePtr.isLt (longer_lt room)
  rw [iwlQueueSpace_eq, queueLength_eq] at room
  rw [queueLength_eq, readPtr, writePtr, incWrap_eq, longer]
  omega

end Push

/-! ### Slots in use -/

/-- The indices in flight. -/
def inFlight (q : IwlTxq) : Finset RingIndex := Finset.univ.filter (InFlight q)

/-- The slots of no index in flight. -/
def freeSlots (q : IwlTxq) : Finset Slot :=
  Finset.univ.filter fun slot => ∀ i, InFlight q i → iwlPcieGetCmdIndex i ≠ slot

/-- There are as many indices in flight as the pointers are apart. -/
theorem card_inFlight (q : IwlTxq) : (inFlight q).card = queueLength q := by
  rw [queueLength_eq, ← Finset.card_range (gap tfdQueueSizeMax q.readPtr.val q.writePtr.val)]
  refine Finset.card_bij (fun i _ => gap tfdQueueSizeMax q.readPtr.val i.val) ?_ ?_ ?_
  · intro i member
    exact Finset.mem_range.mpr (Finset.mem_filter.mp member).2.2
  · intro i _ j _ same
    exact Fin.ext (gap_injective q.readPtr.isLt i.isLt j.isLt same)
  · intro k member
    obtain ⟨i, index, distance⟩ := exists_gap q.readPtr.isLt
      (Nat.lt_trans (Finset.mem_range.mp member) (gap_lt q.writePtr.isLt))
    refine ⟨⟨i, index⟩, Finset.mem_filter.mpr ⟨Finset.mem_univ _, index, ?_⟩, distance⟩
    exact distance ▸ Finset.mem_range.mp member

/-- **Indices in flight have slots of their own**, while at most a window of them is in flight. -/
theorem slot_injOn (q : IwlTxq) (window : queueLength q ≤ tfdCmdSlots) {i j : RingIndex}
    (left : InFlight q i) (right : InFlight q j)
    (same : iwlPcieGetCmdIndex i = iwlPcieGetCmdIndex j) : i = j := by
  rw [queueLength_eq] at window
  exact Fin.ext (slot_injective (by decide) q.readPtr.isLt q.writePtr.isLt window left right
    (Fin.mk.inj_iff.mp same))

/-- **`iwl_queue_space` counts the free slots.** -/
theorem card_freeSlots (q : IwlTxq) (window : queueLength q ≤ tfdCmdSlots) :
    (freeSlots q).card = iwlQueueSpace q := by
  have complement : freeSlots q = ((inFlight q).image iwlPcieGetCmdIndex)ᶜ := by
    ext slot
    simp only [freeSlots, inFlight, Finset.mem_filter, Finset.mem_univ, true_and,
      Finset.mem_compl, Finset.mem_image, not_exists, not_and]
  have injective : Set.InjOn iwlPcieGetCmdIndex (inFlight q) := by
    intro i left j right same
    exact slot_injOn q window (Finset.mem_filter.mp left).2 (Finset.mem_filter.mp right).2 same
  rw [complement, Finset.card_compl, Finset.card_image_of_injOn injective, card_inFlight,
    Fintype.card_fin, iwlQueueSpace_eq]

end IntelWifi.Pcie
