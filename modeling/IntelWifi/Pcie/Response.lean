/-
**Packets that answer no command in flight.**

`iwl_pcie_rx_handle_rb` and `iwl_pcie_hcmd_complete` reduce the index of a packet to a slot before
`iwl_pcie_cmdq_reclaim` compares it with the indices in flight, so the slot they treat may be that of
another command.

* `completeSlot`: what `iwl_pcie_hcmd_complete` does to the slot, in flight or not.
* `strayPacket_iff`: exactly when a stray packet leaves the commands in flight alone.
* `aliasedIndex_damages`: an index one window ahead of a command in flight.
-/

import IntelWifi.Pcie.RingInvariant

namespace IntelWifi.Pcie

/-- The packet names another queue or an index that is not in flight. -/
def Stray (st : IwlTrans) (pkt : RxPacket) : Prop :=
  seqToQueue pkt.sequence ≠ st.cmdQueue.val ∨ ¬ InFlight st.txq (seqToIndex pkt.sequence)

/-- The slot `iwl_pcie_rx_handle_rb` and `iwl_pcie_hcmd_complete` work on. -/
def packetSlot (pkt : RxPacket) : Slot := iwlPcieGetCmdIndex (seqToIndex pkt.sequence)

/-- The descriptor `iwl_pcie_hcmd_complete` empties. -/
def packetTfd (pkt : RxPacket) : RingIndex := iwlPcieGetTfd (seqToIndex pkt.sequence)

/-- The state of the command at an index is unchanged. -/
structure SameCommand (st st' : IwlTrans) (i : RingIndex) : Prop where
  dma : (st'.txq.entries (iwlPcieGetCmdIndex i)).cmdMeta.dma =
    (st.txq.entries (iwlPcieGetCmdIndex i)).cmdMeta.dma
  numTbs : (st'.txq.tfds i).numTbs = (st.txq.tfds i).numTbs
  flags : (st'.txq.entries (iwlPcieGetCmdIndex i)).cmdMeta.flags =
    (st.txq.entries (iwlPcieGetCmdIndex i)).cmdMeta.flags
  source : (st'.txq.entries (iwlPcieGetCmdIndex i)).cmdMeta.source =
    (st.txq.entries (iwlPcieGetCmdIndex i)).cmdMeta.source
  freeBuf : (st'.txq.entries (iwlPcieGetCmdIndex i)).freeBuf =
    (st.txq.entries (iwlPcieGetCmdIndex i)).freeBuf

/-- The commands in flight are unchanged. -/
structure InFlightKept (st st' : IwlTrans) : Prop where
  commands : ∀ i, InFlight st.txq i → SameCommand st st' i
  readPtr : st'.txq.readPtr = st.txq.readPtr
  writePtr : st'.txq.writePtr = st.txq.writePtr
  active : st'.status.syncHcmdActive = st.status.syncHcmdActive

/-- The sanity check of `iwl_pcie_tfd_unmap` fails, so it frees nothing. -/
def TfdFull (q : IwlTxq) (pkt : RxPacket) : Prop :=
  iwlNumOfTbs ≤ iwlPcieTfdGetNumTbs (q.tfds (packetTfd pkt))

instance (q : IwlTxq) (pkt : RxPacket) : Decidable (TfdFull q pkt) :=
  inferInstanceAs (Decidable (_ ≤ _))

/-- There is nothing to lose: the command in flight in the packet's slot has no DUP copy; and if
`iwl_pcie_hcmd_complete` gets the packet, no flags and no buffers either, the packet's descriptor is
not of a command in flight with TBs, and nobody waits for a synchronous command. -/
structure NothingToLose (st : IwlTrans) (pkt : RxPacket) (completes : Prop) : Prop where
  freeBuf : ∀ i, InFlight st.txq i → iwlPcieGetCmdIndex i = packetSlot pkt →
    (st.txq.entries (packetSlot pkt)).freeBuf = none
  slot : completes → ∀ i, InFlight st.txq i → iwlPcieGetCmdIndex i = packetSlot pkt →
    (st.txq.entries (packetSlot pkt)).cmdMeta.flags = .none ∧
      (TfdFull st.txq pkt ∨ ∀ dma ∈ (st.txq.entries (packetSlot pkt)).cmdMeta.dma, dma = none)
  tfd : completes → InFlight st.txq (packetTfd pkt) →
    TfdFull st.txq pkt ∨ (st.txq.tfds (packetTfd pkt)).numTbs = 0
  active : completes → st.status.syncHcmdActive = true →
    (st.txq.entries (packetSlot pkt)).cmdMeta.flags.async = true

/-- The packet is no response, or there is nothing to lose. -/
def Harmless (noReclaimCmds : List Nat) (stolen : RxPacket → Bool) (st : IwlTrans) (pkt : RxPacket) :
    Prop :=
  reclaims noReclaimCmds pkt = true →
    NothingToLose st pkt (stolen pkt = false ∧ seqToQueue pkt.sequence = st.cmdQueue.val)

/-! ### What a stray packet does -/

/-- Unmapping at the packet's index. -/
theorem unmapPacket (q : IwlTxq) (pkt : RxPacket) :
    (∀ slot, (iwlPcieTfdUnmap q (seqToIndex pkt.sequence)).entries slot =
        if slot = packetSlot pkt ∧ ¬ TfdFull q pkt then (q.entries slot).unmapped
        else q.entries slot) ∧
      ∀ i, ((iwlPcieTfdUnmap q (seqToIndex pkt.sequence)).tfds i).numTbs =
        if i = packetTfd pkt ∧ ¬ TfdFull q pkt then 0 else (q.tfds i).numTbs := by
  have unmap : iwlPcieTfdUnmap q (seqToIndex pkt.sequence) = if TfdFull q pkt then q
      else (q.setEntry (packetSlot pkt) (q.entries (packetSlot pkt)).unmapped).setTfd (packetTfd pkt)
        { q.tfds (packetTfd pkt) with numTbs := 0 } := rfl
  rw [unmap]
  by_cases full : TfdFull q pkt
  · rw [if_pos full]
    exact ⟨fun slot => (if_neg fun both => both.2 full).symm,
      fun i => (if_neg fun both => both.2 full).symm⟩
  · rw [if_neg full]
    refine ⟨fun slot => ?_, fun i => ?_⟩
    · rw [setTfd_entries]
      by_cases same : slot = packetSlot pkt
      · subst same
        rw [if_pos ⟨rfl, full⟩]
        exact setEntry_same _ _ _
      · rw [if_neg fun both => same both.1]
        exact setEntry_other _ _ _ same
    · by_cases same : i = packetTfd pkt
      · subst same
        rw [if_pos ⟨rfl, full⟩]
        exact congrArg IwlTfd.numTbs (setTfd_same _ _ _)
      · rw [if_neg fun both => same both.1]
        exact congrArg IwlTfd.numTbs (setTfd_other _ _ _ same)

/-- The entries and descriptors after `iwl_pcie_hcmd_complete`. -/
structure SlotDone (st : IwlTrans) (pkt : RxPacket) (st' : IwlTrans) : Prop where
  entries : ∀ slot, slot ≠ packetSlot pkt → st'.txq.entries slot = st.txq.entries slot
  freeBuf : (st'.txq.entries (packetSlot pkt)).freeBuf = (st.txq.entries (packetSlot pkt)).freeBuf
  flags : (st'.txq.entries (packetSlot pkt)).cmdMeta.flags = .none
  source : (st'.txq.entries (packetSlot pkt)).cmdMeta.source =
    (st.txq.entries (packetSlot pkt)).cmdMeta.source
  dma : (st'.txq.entries (packetSlot pkt)).cmdMeta.dma =
    if TfdFull st.txq pkt then (st.txq.entries (packetSlot pkt)).cmdMeta.dma
    else (st.txq.entries (packetSlot pkt)).cmdMeta.dma.map fun _ => none
  numTbs : ∀ i, (st'.txq.tfds i).numTbs =
    if i = packetTfd pkt ∧ ¬ TfdFull st.txq pkt then 0 else (st.txq.tfds i).numTbs
  active : st'.status.syncHcmdActive =
    (st.status.syncHcmdActive && (st.txq.entries (packetSlot pkt)).cmdMeta.flags.async)

/-- **A response** frees the buffers of its slot, empties a descriptor, clears the slot's flags and,
unless they say ASYNC, reports the synchronous command done, whether or not its index is in
flight. -/
theorem completeSlot {st : IwlTrans} {pkt : RxPacket}
    (own : seqToQueue pkt.sequence = st.cmdQueue.val) :
    SlotDone st pkt (iwlPcieHcmdComplete st pkt) := by
  obtain ⟨txq, status, _⟩ := respond_txq st pkt
  obtain ⟨entries, tfds⟩ := unmapPacket st.txq pkt
  have midEntries : (respond st pkt).txq.entries =
      (iwlPcieTfdUnmap st.txq (seqToIndex pkt.sequence)).entries := by rw [txq]
  have midTfds : (respond st pkt).txq.tfds =
      (iwlPcieTfdUnmap st.txq (seqToIndex pkt.sequence)).tfds := by rw [txq]
  have unmapped := entries (packetSlot pkt)
  have kept : ((respond st pkt).txq.entries (packetSlot pkt)).cmdMeta.flags =
      (st.txq.entries (packetSlot pkt)).cmdMeta.flags := by
    rw [midEntries, unmapped]
    split <;> rfl
  unfold iwlPcieHcmdComplete
  rw [if_neg (not_not.mpr own)]
  dsimp only
  generalize cleared : (if (!((respond st pkt).txq.entries (iwlPcieGetCmdIndex
      (seqToIndex pkt.sequence))).cmdMeta.flags.async) = true then
        (respond st pkt).setActive false else respond st pkt) = st'
  have sameTxq : st'.txq = (respond st pkt).txq := by
    rw [← cleared]
    split <;> rfl
  have active : st'.status.syncHcmdActive =
      (st.status.syncHcmdActive && (st.txq.entries (packetSlot pkt)).cmdMeta.flags.async) := by
    rw [← cleared, ← kept]
    unfold packetSlot
    split
    · rename_i sync
      rw [Bool.not_eq_true'] at sync
      rw [sync, Bool.and_false]
      rfl
    · rename_i async
      rw [Bool.not_eq_true', Bool.not_eq_false] at async
      rw [async, Bool.and_true, status]
  have slotEntry : (finishComplete st' (packetSlot pkt)).txq.entries (packetSlot pkt) =
      ((iwlPcieTfdUnmap st.txq (seqToIndex pkt.sequence)).entries (packetSlot pkt)).clearFlags := by
    rw [← midEntries, ← sameTxq]
    exact setEntry_same _ _ _
  show SlotDone st pkt (finishComplete st' (packetSlot pkt))
  refine ⟨fun slot other => ?_, ?_, ?_, ?_, ?_, fun i => ?_, active⟩
  · show (st'.txq.setEntry (packetSlot pkt) _).entries slot = _
    rw [setEntry_other _ _ _ other, sameTxq, midEntries, entries slot, if_neg fun both => other both.1]
  · rw [slotEntry, unmapped]
    split <;> rfl
  · rw [slotEntry]
    rfl
  · rw [slotEntry, unmapped]
    split <;> rfl
  · rw [slotEntry, unmapped]
    by_cases full : TfdFull st.txq pkt
    · rw [if_neg fun both => both.2 full, if_pos full]
      rfl
    · rw [if_pos ⟨rfl, full⟩, if_neg full]
      rfl
  · show (st'.txq.tfds i).numTbs = _
    rw [sameTxq, midTfds, tfds i]

/-- Freeing a DUP copy touches one field of one slot. -/
theorem freeDupBuf_entries (st : IwlTrans) (slot other : Slot) :
    (freeDupBuf st slot).txq.entries other =
      if other = slot then { st.txq.entries slot with freeBuf := none } else st.txq.entries other := by
  unfold freeDupBuf
  by_cases same : other = slot
  · subst same
    rw [if_pos rfl]
    exact setEntry_same _ _ _
  · rw [if_neg same]
    exact setEntry_other _ _ _ same

/-- A list of pointers is cleared already. -/
theorem map_none_eq {dmas : List (Option IwlDmaPtr)} :
    (dmas.map fun _ => none) = dmas ↔ ∀ dma ∈ dmas, dma = none := by
  induction dmas with
  | nil => simp
  | cons dma later ih =>
    rw [List.map_cons, List.cons.injEq, ih, List.forall_mem_cons, @eq_comm _ none]

/-! ### When nothing is lost -/

section Stray

variable {noReclaimCmds : List Nat} {stolen : RxPacket → Bool} {st : IwlTrans} {pkt : RxPacket}

/-- Only a DUP copy is freed: the page is stolen, or the packet names another queue. -/
theorem freeDupBuf_kept_iff :
    InFlightKept st (freeDupBuf st (packetSlot pkt)) ↔
      ∀ i, InFlight st.txq i → iwlPcieGetCmdIndex i = packetSlot pkt →
        (st.txq.entries (packetSlot pkt)).freeBuf = none := by
  constructor
  · intro kept i flight same
    have freeBuf := (kept.commands i flight).freeBuf
    rw [freeDupBuf_entries, if_pos same, same] at freeBuf
    exact freeBuf.symm
  · intro nothing
    refine ⟨fun i flight => ?_, rfl, rfl, rfl⟩
    by_cases same : iwlPcieGetCmdIndex i = packetSlot pkt
    · constructor
      case freeBuf =>
        rw [freeDupBuf_entries, if_pos same, same]
        exact (nothing i flight same).symm
      case numTbs => rfl
      all_goals rw [freeDupBuf_entries, if_pos same, same]
    · constructor
      case numTbs => rfl
      all_goals rw [freeDupBuf_entries, if_neg same]

/-- The packet reaches `iwl_pcie_hcmd_complete`, with an index not in flight. -/
theorem complete_kept_iff (own : seqToQueue pkt.sequence = st.cmdQueue.val)
    (stray : ¬ InFlight st.txq (seqToIndex pkt.sequence)) :
    InFlightKept st (iwlPcieHcmdComplete (freeDupBuf st (packetSlot pkt)) pkt) ↔
      NothingToLose st pkt True := by
  have done : SlotDone (freeDupBuf st (packetSlot pkt)) pkt _ := completeSlot own
  have freed : (freeDupBuf st (packetSlot pkt)).txq.entries (packetSlot pkt) =
      { st.txq.entries (packetSlot pkt) with freeBuf := none } := by
    rw [freeDupBuf_entries, if_pos rfl]
  obtain ⟨writePtr, readPtr⟩ := hcmdComplete_ptrs (freeDupBuf st (packetSlot pkt)) pkt
  rw [if_neg fun both => stray both.2] at readPtr
  constructor
  · intro kept
    refine ⟨fun i flight same => ?_, fun _ i flight same => ⟨?_, ?_⟩, fun _ flight => ?_,
      fun _ active => ?_⟩
    · have freeBuf := (kept.commands i flight).freeBuf
      rw [same, done.freeBuf, freed] at freeBuf
      exact freeBuf.symm
    · have flags := (kept.commands i flight).flags
      rw [same, done.flags] at flags
      exact flags.symm
    · have dma := (kept.commands i flight).dma
      rw [same, done.dma, freed] at dma
      by_cases full : TfdFull st.txq pkt
      · exact .inl full
      · rw [if_neg (show ¬ TfdFull (freeDupBuf st (packetSlot pkt)).txq pkt from full)] at dma
        exact .inr (map_none_eq.mp dma)
    · have numTbs := (kept.commands _ flight).numTbs
      by_cases full : TfdFull st.txq pkt
      · exact .inl full
      · rw [done.numTbs, if_pos ⟨rfl, full⟩] at numTbs
        exact .inr numTbs.symm
    · have same := kept.active
      rw [done.active, freed] at same
      rw [show (freeDupBuf st (packetSlot pkt)).status = st.status from rfl, active,
        Bool.true_and] at same
      exact same
  · intro nothing
    refine ⟨fun i flight => ?_, readPtr, writePtr, ?_⟩
    · have numTbs : ((iwlPcieHcmdComplete (freeDupBuf st (packetSlot pkt)) pkt).txq.tfds i).numTbs =
          (st.txq.tfds i).numTbs := by
        rw [done.numTbs]
        split
        · rename_i both
          obtain ⟨rfl, notFull⟩ := both
          exact ((nothing.tfd trivial flight).resolve_left notFull).symm
        · rfl
      by_cases same : iwlPcieGetCmdIndex i = packetSlot pkt
      · obtain ⟨flags, dma⟩ := nothing.slot trivial i flight same
        refine ⟨?_, numTbs, ?_, ?_, ?_⟩
        · rw [same, done.dma, freed]
          split
          · rfl
          · rename_i notFull
            exact map_none_eq.mpr (dma.resolve_left notFull)
        · rw [same, done.flags, flags]
        · rw [same, done.source, freed]
        · rw [same, done.freeBuf, freed, nothing.freeBuf i flight same]
      · have entry := done.entries _ same
        rw [freeDupBuf_entries, if_neg same] at entry
        exact ⟨by rw [entry], numTbs, by rw [entry], by rw [entry], by rw [entry]⟩
    · rw [done.active, freed]
      show (st.status.syncHcmdActive && _) = _
      cases active : st.status.syncHcmdActive with
      | false => rfl
      | true => exact nothing.active trivial active

/-- **A stray packet leaves the commands in flight alone** exactly when it is no response or there is
nothing to lose in its slot. -/
theorem strayPacket_iff (noReclaimCmds : List Nat) (stolen : RxPacket → Bool) (st : IwlTrans)
    (pkt : RxPacket) (stray : Stray st pkt) :
    InFlightKept st (rxPacket noReclaimCmds stolen pkt st) ↔ Harmless noReclaimCmds stolen st pkt := by
  unfold rxPacket Harmless
  by_cases response : reclaims noReclaimCmds pkt = true
  · rw [if_pos response]
    dsimp only
    show InFlightKept st (if (!stolen pkt) = true then
      iwlPcieHcmdComplete (freeDupBuf st (packetSlot pkt)) pkt
      else freeDupBuf st (packetSlot pkt)) ↔ _
    by_cases completes : stolen pkt = false ∧ seqToQueue pkt.sequence = st.cmdQueue.val
    · rw [eq_true completes, completes.1, if_pos Bool.not_false,
        complete_kept_iff completes.2 (stray.resolve_left (not_not.mpr completes.2))]
      exact ⟨fun nothing _ => nothing, fun nothing => nothing response⟩
    · have dropped : (if (!stolen pkt) = true then
          iwlPcieHcmdComplete (freeDupBuf st (packetSlot pkt)) pkt
          else freeDupBuf st (packetSlot pkt)) = freeDupBuf st (packetSlot pkt) := by
        cases taken : stolen pkt with
        | true => rfl
        | false =>
          rw [if_pos Bool.not_false]
          exact if_pos fun own => completes ⟨taken, own⟩
      rw [dropped, freeDupBuf_kept_iff]
      exact ⟨fun freeBuf _ => ⟨freeBuf, fun yes => absurd yes completes,
        fun yes => absurd yes completes, fun yes => absurd yes completes⟩,
        fun nothing => (nothing response).freeBuf⟩
  · rw [if_neg response]
    exact ⟨fun _ yes => absurd yes response,
      fun _ => ⟨fun _ _ => ⟨rfl, rfl, rfl, rfl, rfl⟩, rfl, rfl, rfl⟩⟩

end Stray

theorem longCmd_short : (List.replicate 30 (0x11 : UInt8)).length < 2 ^ 16 := by decide

/-- A command of 30 plain bytes. -/
def longCmd : IwlHostCmd where
  ptr := 0x9000
  id := 0xa5
  flags := .none
  first := ⟨List.replicate 30 0x11, longCmd_short, false, false⟩
  second := ⟨[], nil_short, false, false⟩

/-- The queue with that command in flight, at index 0. -/
def busyQueue : IwlTrans := QueueOp.run [.enqueue fixedBuffers longCmd] (.init 0 false false 0x10000)

/-- A response with index 32, which has the same slot. -/
def aliasedPacket : RxPacket := ⟨0, 8, 0xa5, 0, 32⟩

/-- The equivalence for that packet. -/
theorem strayPacket_iff_aliased :
    InFlightKept busyQueue (rxPacket [] (fun _ => false) aliasedPacket busyQueue) ↔
      Harmless [] (fun _ => false) busyQueue aliasedPacket :=
  strayPacket_iff [] (fun _ => false) busyQueue aliasedPacket (.inr (by decide))

/-- **An index one window ahead** of a command in flight takes its buffers and its TBs. -/
theorem aliasedIndex_damages :
    Stray busyQueue aliasedPacket ∧ InFlight busyQueue.txq 0 ∧
      ¬ InFlightKept busyQueue (rxPacket [] (fun _ => false) aliasedPacket busyQueue) :=
  ⟨.inr (by decide), by decide, fun kept => absurd (kept.commands 0 (by decide)).dma (by decide)⟩

end IntelWifi.Pcie
