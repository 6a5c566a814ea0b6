/-
**The command ring over whole runs.**

A run is any sequence of enqueued commands, accepted or not, of responses with any sequence number
and of unmappings, from the empty queue.

* `window_apply`: every operation keeps at most a window of indices in flight.
* `commandRing`: in every state of a run the ring is sound, and how the pointers move next.
-/

import IntelWifi.Pcie.Complete

namespace IntelWifi.Pcie

open IntelWifi.Circular

/-- An operation on the command queue. -/
inductive QueueOp where
  | enqueue (env : EnqueueEnv) (cmd : IwlHostCmd)
  | response (pkt : RxPacket)
  | unmap

def QueueOp.apply (st : IwlTrans) : QueueOp → IwlTrans
  | .enqueue env cmd => (iwlPcieEnqueueHcmd env cmd st).2
  | .response pkt => iwlPcieHcmdComplete st pkt
  | .unmap => iwlPcieTxqUnmap st

/-- The state after a sequence of operations. -/
def QueueOp.run (ops : List QueueOp) (st : IwlTrans) : IwlTrans := ops.foldl QueueOp.apply st

/-- The ring is sound. -/
structure CommandRing (q : IwlTxq) : Prop where
  window : ((q.writePtr.val : Int) - q.readPtr.val) % 256 ≤ 32
  space : iwlQueueSpace q = (freeSlots q).card
  used : ∀ i, iwlQueueUsed q i = true ↔ InFlight q i
  slots : ∀ i j, InFlight q i → InFlight q j → iwlPcieGetCmdIndex i = iwlPcieGetCmdIndex j → i = j

/-- All of it follows from the length of the interval. -/
theorem CommandRing.of_window {q : IwlTxq} (window : queueLength q ≤ tfdCmdSlots) : CommandRing q where
  window := by
    unfold queueLength tfdQueueSizeMax tfdCmdSlots at window
    omega
  space := (card_freeSlots q window).symm
  used := iwlQueueUsed_iff q
  slots := fun _ _ left right same => slot_injOn q window left right same

/-- How the pointers move in a state. -/
structure RingMoves (st : IwlTrans) : Prop where
  accepted : ∀ env cmd idx st', iwlPcieEnqueueHcmd env cmd st = (.ok idx, st') →
    st'.txq.writePtr.val = (st.txq.writePtr.val + 1) % 256 ∧ st'.txq.readPtr = st.txq.readPtr
  refused : ∀ env cmd e st', iwlPcieEnqueueHcmd env cmd st = (.error e, st') →
    st'.txq.writePtr = st.txq.writePtr ∧ st'.txq.readPtr = st.txq.readPtr
  completed : ∀ pkt, seqToQueue pkt.sequence = st.cmdQueue.val →
    InFlight st.txq (seqToIndex pkt.sequence) →
    (iwlPcieHcmdComplete st pkt).txq.readPtr.val = ((seqToIndex pkt.sequence).val + 1) % 256 ∧
      (iwlPcieHcmdComplete st pkt).txq.writePtr = st.txq.writePtr

theorem ringMoves (st : IwlTrans) : RingMoves st where
  accepted := by
    intro env cmd idx st' done
    have outcome := enqueue_outcome env cmd st
    rw [done] at outcome
    exact ⟨congrArg Fin.val outcome.2.writePtr, outcome.2.only.readPtr⟩
  refused := by
    intro env cmd e st' done
    have outcome := enqueue_outcome env cmd st
    rw [done] at outcome
    exact ⟨outcome.writePtr, outcome.readPtr⟩
  completed := by
    intro pkt own flight
    obtain ⟨writePtr, readPtr⟩ := hcmdComplete_ptrs st pkt
    rw [if_pos ⟨own, flight⟩] at readPtr
    exact ⟨congrArg Fin.val readPtr, writePtr⟩

/-! ### Every operation keeps the window -/

/-- One more index fits while there is space. -/
theorem window_enqueue {st st' : IwlTrans} {cmd : IwlHostCmd} (accepted : Accepted cmd st st') :
    queueLength st'.txq ≤ tfdCmdSlots := by
  have atLeast : 1 ≤ requiredSpace cmd := by
    unfold requiredSpace
    split <;> decide
  exact queueLength_push (Nat.le_trans atLeast accepted.room) accepted.only.readPtr accepted.writePtr

/-- Moving `read_ptr` behind an index in flight shortens the interval. -/
theorem window_reclaim {q q' : IwlTxq} {i : RingIndex} (flight : InFlight q i)
    (readPtr : q'.readPtr = iwlQueueIncWrap i) (writePtr : q'.writePtr = q.writePtr) :
    queueLength q' ≤ queueLength q := by
  have before := flight.2
  have whole := gap_split q.readPtr.isLt i.isLt q.writePtr.isLt (Nat.le_of_lt before)
  have differ : i.val ≠ q.writePtr.val := by
    intro same
    rw [same] at before
    exact Nat.lt_irrefl _ before
  have closer := gap_next_left i.isLt q.writePtr.isLt differ
  rw [queueLength_eq, queueLength_eq, readPtr, writePtr, incWrap_eq]
  omega

/-- **Every operation keeps at most a window in flight.** -/
theorem window_apply (op : QueueOp) {st : IwlTrans} (window : queueLength st.txq ≤ tfdCmdSlots) :
    queueLength (op.apply st).txq ≤ tfdCmdSlots := by
  have same {q : IwlTxq} (readPtr : q.readPtr = st.txq.readPtr)
      (writePtr : q.writePtr = st.txq.writePtr) : queueLength q ≤ tfdCmdSlots := by
    rw [queueLength_eq, readPtr, writePtr, ← queueLength_eq]
    exact window
  cases op with
  | enqueue env cmd =>
    have outcome := enqueue_outcome env cmd st
    show queueLength (iwlPcieEnqueueHcmd env cmd st).2.txq ≤ tfdCmdSlots
    rcases done : iwlPcieEnqueueHcmd env cmd st with ⟨_ | _, st'⟩
    · rw [done] at outcome
      exact same outcome.readPtr outcome.writePtr
    · rw [done] at outcome
      exact window_enqueue outcome.2
  | response pkt =>
    obtain ⟨writePtr, readPtr⟩ := hcmdComplete_ptrs st pkt
    by_cases flight : seqToQueue pkt.sequence = st.cmdQueue.val ∧
        InFlight st.txq (seqToIndex pkt.sequence)
    · rw [if_pos flight] at readPtr
      exact Nat.le_trans (window_reclaim flight.2 readPtr writePtr) window
    · rw [if_neg flight] at readPtr
      exact same readPtr writePtr
  | unmap =>
    obtain ⟨readPtr, writePtr⟩ := txqUnmap_spec st
    show queueLength (iwlPcieTxqUnmap st).txq ≤ tfdCmdSlots
    rw [queueLength_eq, readPtr, writePtr, gap_self]
    exact Nat.zero_le _

theorem window_run (ops : List QueueOp) {st : IwlTrans} (window : queueLength st.txq ≤ tfdCmdSlots) :
    queueLength (QueueOp.run ops st).txq ≤ tfdCmdSlots := by
  induction ops generalizing st with
  | nil => exact window
  | cons op later ih => exact ih (window_apply op window)

/-- **Command-ring invariant.** After every sequence of operations the ring is sound: at most 32
indices are in flight, the space is the number of free slots, `iwl_queue_used` is the interval, no
two indices in flight share a slot; and the pointers move as they should. -/
theorem commandRing (cmdQueue : Fin 32) (wideCmdHeader apmgWakeUpWa : Bool) (firstTbDma : Nat)
    (ops : List QueueOp) :
    CommandRing
        (QueueOp.run ops (.init cmdQueue wideCmdHeader apmgWakeUpWa firstTbDma)).txq ∧
      RingMoves (QueueOp.run ops (.init cmdQueue wideCmdHeader apmgWakeUpWa firstTbDma)) :=
  ⟨CommandRing.of_window (window_run ops (Nat.zero_le _)), ringMoves _⟩

end IntelWifi.Pcie
