/-
**Completing a host command.**

`iwl_pcie_hcmd_complete` handles a response: it frees the buffers of the slot the sequence names,
gives the packet to the command that wants it, moves `read_ptr` behind the index if that is in
flight, and wakes the sender. Its three parts here are those between which it takes no lock and
touches no bit of `trans->status` that others watch. The op-mode's callbacks are left out.

* `cmdqReclaim_spec`: where `iwl_pcie_cmdq_reclaim` leaves the pointers.
* `txqUnmap_spec`: `iwl_pcie_txq_unmap` empties the queue.
* `hcmdComplete_ptrs`: where a response leaves them.
-/

import IntelWifi.Pcie.Enqueue

namespace IntelWifi.Pcie

open IntelWifi.Circular

/-- `SEQ_TO_QUEUE`. -/
def seqToQueue (sequence : Nat) : Nat := sequence / 2 ^ 8 % 2 ^ 5

/-- `SEQ_TO_INDEX`. -/
def seqToIndex (sequence : Nat) : RingIndex := ⟨sequence % 2 ^ 8, Nat.mod_lt _ (by decide)⟩

/-- `iwl_pcie_clear_cmd_in_flight`. -/
def iwlPcieClearCmdInFlight (st : IwlTrans) : IwlTrans :=
  let st := if st.refCmdInFlight then { st with refCmdInFlight := false } else st
  if !st.apmgWakeUpWa then st
  else if !st.cmdHoldNicAwake then st
  else { st with cmdHoldNicAwake := false }

/-- The NIC is let go once the queue is empty. -/
def clearIfEmpty (st : IwlTrans) : IwlTrans :=
  if st.txq.readPtr = st.txq.writePtr then iwlPcieClearCmdInFlight st else st

/-- The loop of `iwl_pcie_cmdq_reclaim`, which ends at `stop`. -/
def reclaimTo (stop : RingIndex) : Nat → RingIndex → RingIndex
  | 0, readPtr => readPtr
  | fuel + 1, readPtr =>
    if readPtr = stop then readPtr else reclaimTo stop fuel (iwlQueueIncWrap readPtr)

/-- `iwl_pcie_cmdq_reclaim`. It forces an NMI when it skips an index. -/
def iwlPcieCmdqReclaim (st : IwlTrans) (idx : RingIndex) : IwlTrans :=
  if !iwlQueueUsed st.txq idx then st
  else
    let readPtr := reclaimTo (iwlQueueIncWrap idx) tfdQueueSizeMax st.txq.readPtr
    clearIfEmpty { st with txq := { st.txq with readPtr := readPtr } }

/-- One turn of `iwl_pcie_txq_unmap`. -/
def unmapNext (st : IwlTrans) : IwlTrans :=
  let txq := iwlPcieTxqFreeTfd st.txq
  clearIfEmpty { st with txq := { txq with readPtr := iwlQueueIncWrap txq.readPtr } }

/-- The loop of `iwl_pcie_txq_unmap`. -/
def unmapAll : Nat → IwlTrans → IwlTrans
  | 0, st => st
  | fuel + 1, st => if st.txq.writePtr = st.txq.readPtr then st else unmapAll fuel (unmapNext st)

/-- `iwl_pcie_txq_unmap`, for the command queue. -/
def iwlPcieTxqUnmap (st : IwlTrans) : IwlTrans := unmapAll tfdQueueSizeMax st

/-! ### `iwl_pcie_hcmd_complete` -/

/-- The host command `source` gets the packet. -/
def giveResponse (st : IwlTrans) (source : Option Nat) (pkt : RxPacket) : IwlTrans :=
  match source with
  | none => st
  | some ptr => { st with respPkt := fun p => if p = ptr then some pkt else st.respPkt p }

/-- The part before `STATUS_SYNC_HCMD_ACTIVE` is looked at. -/
def respond (st : IwlTrans) (pkt : RxPacket) : IwlTrans :=
  let index := seqToIndex pkt.sequence
  let info := (st.txq.entries (iwlPcieGetCmdIndex index)).cmdMeta
  let st := { st with txq := iwlPcieTfdUnmap st.txq index }
  let st := if info.flags.wantSkb then giveResponse st info.source pkt else st
  iwlPcieCmdqReclaim st index

/-- `STATUS_SYNC_HCMD_ACTIVE` is set or cleared. -/
def IwlTrans.setActive (st : IwlTrans) (active : Bool) : IwlTrans :=
  { st with status := { st.status with syncHcmdActive := active } }

/-- `meta->flags = 0`. -/
def IwlPcieTxqEntry.clearFlags (entry : IwlPcieTxqEntry) : IwlPcieTxqEntry :=
  { entry with cmdMeta := { entry.cmdMeta with flags := .none } }

/-- The part after the sender is woken. -/
def finishComplete (st : IwlTrans) (slot : Slot) : IwlTrans :=
  let flags := (st.txq.entries slot).cmdMeta.flags
  let transIdle := if flags.makeTransIdle then true else st.status.transIdle
  let transIdle := if flags.wakeUpTrans then false else transIdle
  { st with
    status := { st.status with transIdle := transIdle }
    txq := st.txq.setEntry slot (st.txq.entries slot).clearFlags }

/-- `iwl_pcie_hcmd_complete`. -/
def iwlPcieHcmdComplete (st : IwlTrans) (pkt : RxPacket) : IwlTrans :=
  if seqToQueue pkt.sequence ≠ st.cmdQueue.val then st
  else
    let slot := iwlPcieGetCmdIndex (seqToIndex pkt.sequence)
    let st := respond st pkt
    let st := if !(st.txq.entries slot).cmdMeta.flags.async then st.setActive false else st
    finishComplete st slot

/-- `free_buf` of the slot is freed. -/
def freeDupBuf (st : IwlTrans) (slot : Slot) : IwlTrans :=
  { st with txq := st.txq.setEntry slot { st.txq.entries slot with freeBuf := none } }

/-- What `iwl_pcie_rx_handle_rb` does with a packet; `stolen` says whether a handler of the op-mode
takes its page. -/
def rxPacket (noReclaimCmds : List Nat) (stolen : RxPacket → Bool) (pkt : RxPacket) (st : IwlTrans) :
    IwlTrans :=
  if reclaims noReclaimCmds pkt then
    let st := freeDupBuf st (iwlPcieGetCmdIndex (seqToIndex pkt.sequence))
    if !stolen pkt then iwlPcieHcmdComplete st pkt else st
  else st

/-- `iwl_pcie_rx_handle_rb`, as far as the command queue goes. -/
def iwlPcieRxHandleRb (page : RxPage) (noReclaimCmds : List Nat) (stolen : RxPacket → Bool)
    (st : IwlTrans) : Option IwlTrans :=
  rxWalk page (rxPacket noReclaimCmds stolen) st

/-! ### The pointers -/

/-- The loop reaches `stop` from everywhere. -/
theorem reclaimTo_eq (stop : RingIndex) (fuel : Nat) (readPtr : RingIndex)
    (enough : gap tfdQueueSizeMax readPtr.val stop.val ≤ fuel) :
    reclaimTo stop fuel readPtr = stop := by
  induction fuel generalizing readPtr with
  | zero => exact Fin.ext ((gap_eq_zero readPtr.isLt).mp (Nat.le_zero.mp enough))
  | succ fuel ih =>
    rw [reclaimTo]
    split
    · assumption
    · rename_i differ
      refine ih _ ?_
      have closer := gap_next_left readPtr.isLt stop.isLt fun same => differ (Fin.ext same)
      rw [incWrap_eq]
      omega

/-- What letting the NIC go leaves alone. -/
theorem clearIfEmpty_frame (st : IwlTrans) :
    (clearIfEmpty st).txq = st.txq ∧ (clearIfEmpty st).status = st.status ∧
      (clearIfEmpty st).cmdQueue = st.cmdQueue ∧ (clearIfEmpty st).respPkt = st.respPkt := by
  unfold clearIfEmpty iwlPcieClearCmdInFlight
  dsimp only
  split
  · split <;> split <;> try split
    all_goals exact ⟨rfl, rfl, rfl, rfl⟩
  · exact ⟨rfl, rfl, rfl, rfl⟩

/-- **Reclaiming an index** moves `read_ptr` behind it if it is in flight, and does nothing
otherwise. -/
theorem cmdqReclaim_spec (st : IwlTrans) (idx : RingIndex) :
    (iwlPcieCmdqReclaim st idx).txq =
        { st.txq with
          readPtr := if InFlight st.txq idx then iwlQueueIncWrap idx else st.txq.readPtr } ∧
      (iwlPcieCmdqReclaim st idx).status = st.status ∧
      (iwlPcieCmdqReclaim st idx).cmdQueue = st.cmdQueue ∧
      (iwlPcieCmdqReclaim st idx).respPkt = st.respPkt := by
  unfold iwlPcieCmdqReclaim
  by_cases used : InFlight st.txq idx
  · rw [if_pos used, (iwlQueueUsed_iff st.txq idx).mpr used,
      reclaimTo_eq _ _ _ (Nat.le_of_lt (gap_lt (iwlQueueIncWrap idx).isLt))]
    exact clearIfEmpty_frame _
  · rw [if_neg used, Bool.eq_false_iff.mpr (mt (iwlQueueUsed_iff st.txq idx).mp used)]
    exact ⟨rfl, rfl, rfl, rfl⟩

/-- One turn moves `read_ptr` on by one. -/
theorem unmapNext_spec (st : IwlTrans) :
    (unmapNext st).txq.readPtr = iwlQueueIncWrap st.txq.readPtr ∧
      (unmapNext st).txq.writePtr = st.txq.writePtr := by
  unfold unmapNext
  dsimp only
  rw [(clearIfEmpty_frame _).1]
  exact ⟨congrArg iwlQueueIncWrap (tfdUnmap_readPtr _ _), tfdUnmap_writePtr _ _⟩

/-- The loop runs until the queue is empty. -/
theorem unmapAll_spec (fuel : Nat) (st : IwlTrans)
    (enough : gap tfdQueueSizeMax st.txq.readPtr.val st.txq.writePtr.val ≤ fuel) :
    (unmapAll fuel st).txq.readPtr = st.txq.writePtr ∧
      (unmapAll fuel st).txq.writePtr = st.txq.writePtr := by
  induction fuel generalizing st with
  | zero => exact ⟨Fin.ext ((gap_eq_zero st.txq.readPtr.isLt).mp (Nat.le_zero.mp enough)), rfl⟩
  | succ fuel ih =>
    rw [unmapAll]
    split
    · rename_i same
      exact ⟨same.symm, rfl⟩
    · rename_i differ
      have closer := gap_next_left st.txq.readPtr.isLt st.txq.writePtr.isLt
        fun same => differ (Fin.ext same.symm)
      obtain ⟨moved, kept⟩ := unmapNext_spec st
      have later := ih (unmapNext st) (by rw [moved, kept, incWrap_eq]; omega)
      rwa [kept] at later

/-- **Unmapping empties the queue** and leaves `write_ptr` where it is. -/
theorem txqUnmap_spec (st : IwlTrans) :
    (iwlPcieTxqUnmap st).txq.readPtr = st.txq.writePtr ∧
      (iwlPcieTxqUnmap st).txq.writePtr = st.txq.writePtr :=
  unmapAll_spec _ st (Nat.le_of_lt (gap_lt st.txq.writePtr.isLt))

/-! ### What a response touches -/

theorem inFlight_tfdUnmap (q : IwlTxq) (index i : RingIndex) :
    InFlight (iwlPcieTfdUnmap q index) i ↔ InFlight q i := by
  unfold InFlight
  rw [tfdUnmap_readPtr, tfdUnmap_writePtr]

/-- `respond` on the queue: the slot is unmapped, and `read_ptr` moves behind an index in flight. -/
theorem respond_txq (st : IwlTrans) (pkt : RxPacket) :
    (respond st pkt).txq = { iwlPcieTfdUnmap st.txq (seqToIndex pkt.sequence) with
        readPtr := if InFlight st.txq (seqToIndex pkt.sequence) then
          iwlQueueIncWrap (seqToIndex pkt.sequence) else st.txq.readPtr } ∧
      (respond st pkt).status = st.status ∧ (respond st pkt).cmdQueue = st.cmdQueue := by
  unfold respond
  dsimp only
  generalize responded : (if (st.txq.entries
      (iwlPcieGetCmdIndex (seqToIndex pkt.sequence))).cmdMeta.flags.wantSkb = true then
        giveResponse { st with txq := iwlPcieTfdUnmap st.txq (seqToIndex pkt.sequence) }
          (st.txq.entries (iwlPcieGetCmdIndex (seqToIndex pkt.sequence))).cmdMeta.source pkt
      else { st with txq := iwlPcieTfdUnmap st.txq (seqToIndex pkt.sequence) }) = st'
  have same : st'.txq = iwlPcieTfdUnmap st.txq (seqToIndex pkt.sequence) ∧
      st'.status = st.status ∧ st'.cmdQueue = st.cmdQueue := by
    rw [← responded]
    unfold giveResponse
    split
    · split <;> exact ⟨rfl, rfl, rfl⟩
    · exact ⟨rfl, rfl, rfl⟩
  obtain ⟨txq, status, queue, _⟩ := cmdqReclaim_spec st' (seqToIndex pkt.sequence)
  refine ⟨?_, status.trans same.2.1, queue.trans same.2.2⟩
  rw [txq, same.1, tfdUnmap_readPtr]
  simp only [inFlight_tfdUnmap]

/-- **A response for an index in flight** moves `read_ptr` behind it; `write_ptr` stays. -/
theorem hcmdComplete_ptrs (st : IwlTrans) (pkt : RxPacket) :
    (iwlPcieHcmdComplete st pkt).txq.writePtr = st.txq.writePtr ∧
      (iwlPcieHcmdComplete st pkt).txq.readPtr =
        if seqToQueue pkt.sequence = st.cmdQueue.val ∧ InFlight st.txq (seqToIndex pkt.sequence) then
          iwlQueueIncWrap (seqToIndex pkt.sequence) else st.txq.readPtr := by
  unfold iwlPcieHcmdComplete
  by_cases own : seqToQueue pkt.sequence = st.cmdQueue.val
  · obtain ⟨txq, _⟩ := respond_txq st pkt
    have active (st' : IwlTrans) (slot : Slot) :
        (if (!(st'.txq.entries slot).cmdMeta.flags.async) = true then st'.setActive false
          else st').txq = st'.txq := by
      split <;> rfl
    rw [if_neg (not_not.mpr own)]
    unfold finishComplete
    dsimp only
    rw [setEntry_writePtr, setEntry_readPtr, active, txq]
    simp only [own, true_and, tfdUnmap_writePtr]
  · rw [if_pos own, if_neg fun both => own both.1]
    exact ⟨rfl, rfl⟩

/-- `respond` leaves the flags and the owner of every slot alone. -/
theorem respond_entries (st : IwlTrans) (pkt : RxPacket) (slot : Slot) :
    ((respond st pkt).txq.entries slot).cmdMeta.flags = (st.txq.entries slot).cmdMeta.flags ∧
      ((respond st pkt).txq.entries slot).cmdMeta.source = (st.txq.entries slot).cmdMeta.source := by
  have entries : (respond st pkt).txq.entries slot =
      (iwlPcieTfdUnmap st.txq (seqToIndex pkt.sequence)).entries slot := by
    rw [(respond_txq st pkt).1]
  rw [entries]
  rcases tfdUnmap_entries st.txq (seqToIndex pkt.sequence) slot with same | ⟨_, unmapped⟩
  · rw [same]
    exact ⟨rfl, rfl⟩
  · rw [unmapped]
    exact ⟨rfl, rfl⟩

/-- The last part clears the flags of its slot. -/
theorem finishComplete_flags (st : IwlTrans) (slot other : Slot) :
    ((finishComplete st slot).txq.entries other).cmdMeta.flags =
      if other = slot then .none else (st.txq.entries other).cmdMeta.flags := by
  unfold finishComplete
  by_cases same : other = slot
  · subst same
    rw [if_pos rfl]
    exact congrArg (fun entry => entry.cmdMeta.flags) (setEntry_same _ _ _)
  · rw [if_neg same]
    exact congrArg (fun entry => entry.cmdMeta.flags) (setEntry_other _ _ _ same)

/-- Only the host command of a slot that wants the response gets it. -/
theorem respond_respPkt {st : IwlTrans} {pkt : RxPacket} {ptr : Nat}
    (changed : (respond st pkt).respPkt ptr ≠ st.respPkt ptr) :
    (st.txq.entries (iwlPcieGetCmdIndex (seqToIndex pkt.sequence))).cmdMeta.flags.wantSkb = true ∧
      (st.txq.entries (iwlPcieGetCmdIndex (seqToIndex pkt.sequence))).cmdMeta.source = some ptr := by
  unfold respond at changed
  dsimp only at changed
  rw [(cmdqReclaim_spec _ _).2.2.2] at changed
  split at changed
  · rename_i wants
    refine ⟨wants, ?_⟩
    unfold giveResponse at changed
    split at changed
    · exact absurd rfl changed
    · rename_i owner source
      by_cases same : ptr = owner
      · rw [source, same]
      · exact absurd (if_neg same) changed
  · exact absurd rfl changed

end IntelWifi.Pcie
