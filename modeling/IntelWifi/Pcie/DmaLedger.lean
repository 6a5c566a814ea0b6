/-
**Following the DMA buffers of the command queue.**

The transport is run together with a ledger of the buffers that `allocate_dma_buf` has given: which is
recorded in which `meta->dma[k]`, and how often `free_dma_buf` was called on each. The ledger only
watches: `applyTracked_trans` says that the transport is that of `QueueOp.apply`.

`allocate_dma_buf` fills an array place, `iwl_pcie_tfd_unmap` frees what the places hold, and the
`memset` of a slot's `meta` clears them.
-/

import Mathlib.Data.Fintype.Prod
import IntelWifi.Lib.Ledger
import IntelWifi.Pcie.RingInvariant

namespace IntelWifi.Pcie

open IntelWifi.Accounts

/-- `ARRAY_SIZE(meta->dma)`. -/
def metaDmaSize : Nat := 3

/-- A place of a slot's `meta->dma`. -/
abbrev DmaPlace := Slot × Fin metaDmaSize

abbrev DmaLedger := Ledger DmaPlace IwlDmaPtr

/-- The transport and its buffers. -/
structure Tracked where
  trans : IwlTrans
  ledger : DmaLedger

/-- `memset(out_meta, 0, sizeof(*out_meta))`. -/
def clearMeta (slot : Slot) (l : DmaLedger) : DmaLedger :=
  (List.finRange metaDmaSize).foldl (fun l k => l.forget (slot, k)) l

/-- `meta->dma[k] = dma`, for a new `dma`. -/
def recordDma (slot : Slot) (k : Nat) (dma : IwlDmaPtr) (l : DmaLedger) : DmaLedger :=
  if inside : k < metaDmaSize then l.obtain (slot, ⟨k, inside⟩) dma else l.lose dma

/-- The loop of `iwl_pcie_tfd_unmap`. -/
def freeMeta (slot : Slot) (l : DmaLedger) : DmaLedger :=
  (List.finRange metaDmaSize).foldl (fun l k => l.release (slot, k)) l

/-- `iwl_pcie_tfd_unmap`: nothing is freed when the descriptor lists too many chunks. -/
def unmapTracked (t : Tracked) (index : RingIndex) : Tracked where
  trans := { t.trans with txq := iwlPcieTfdUnmap t.trans.txq index }
  ledger :=
    if iwlNumOfTbs ≤ iwlPcieTfdGetNumTbs (t.trans.txq.tfds (iwlPcieGetTfd index)) then t.ledger
    else freeMeta (iwlPcieGetCmdIndex index) t.ledger

/-- One more TB in a buffer of its own. -/
def mapTracked (env : EnqueueEnv) (idx : Slot) (t : Tracked) (part : Nat × List UInt8) :
    Except Tracked Tracked :=
  match env.dmaBuf part.1 part.2.length, mapPart env idx t.trans part with
  | some dma, .ok st => .ok ⟨st, recordDma idx part.1 ⟨dma, part.2.length⟩ t.ledger⟩
  | _, _ => .error t

/-- `iwl_pcie_enqueue_hcmd` after all TBs are mapped: without the NIC it returns as it is. -/
def commitPlanned (env : EnqueueEnv) (cmd : IwlHostCmd) (plan : HcmdPlan) (idx : Slot) (st : IwlTrans) :
    IwlTrans :=
  match iwlPcieSetCmdInFlight env cmd (finishSlot cmd plan idx st) with
  | (.error _, st) => st
  | (.ok (), st) => { st with txq := { st.txq with writePtr := iwlQueueIncWrap st.txq.writePtr } }

/-- What is mapped for a planned command. -/
def plannedParts (cmd : IwlHostCmd) (plan : HcmdPlan) (st : IwlTrans) : List (Nat × List UInt8) :=
  hcmdParts plan (fillSlot cmd (cmdHeader cmd (cmdSequence st.cmdQueue st.txq.writePtr) plan.cmdSize)
    (st.txq.entries (iwlPcieGetCmdIndex st.txq.writePtr)).cmd)

/-- The slot of `write_ptr` with its `meta` cleared and its first TB. -/
def startTracked (cmd : IwlHostCmd) (plan : HcmdPlan) (t : Tracked) : Tracked :=
  let st := t.trans
  let idx := iwlPcieGetCmdIndex st.txq.writePtr
  let header := cmdHeader cmd (cmdSequence st.cmdQueue st.txq.writePtr) plan.cmdSize
  ⟨startTfd cmd (fillSlot cmd header (st.txq.entries idx).cmd) idx st, clearMeta idx t.ledger⟩

/-- The part of the call after its checks. -/
def plannedTracked (env : EnqueueEnv) (cmd : IwlHostCmd) (plan : HcmdPlan) (t : Tracked) : Tracked :=
  let idx := iwlPcieGetCmdIndex t.trans.txq.writePtr
  match (plannedParts cmd plan t.trans).foldlM (mapTracked env idx) (startTracked cmd plan t) with
  | .error t => unmapTracked t t.trans.txq.writePtr
  | .ok t => ⟨commitPlanned env cmd plan idx t.trans, t.ledger⟩

/-- The checks of `iwl_pcie_enqueue_hcmd`: what is planned for a command that passes them. -/
def admitted (env : EnqueueEnv) (cmd : IwlHostCmd) (st : IwlTrans) : Option HcmdPlan :=
  if !st.wideCmdHeader && iwlAlwaysLongGroup < iwlCmdGroupid cmd.id then none
  else match cmd.fragments.foldlM (planFragment env) (HcmdPlan.start cmd) with
    | .error _ => none
    | .ok plan =>
      if tfdMaxPayloadSize < plan.copySize then none
      else if iwlQueueSpace st.txq < requiredSpace cmd then none
      else some plan

/-- `iwl_pcie_enqueue_hcmd`. -/
def enqueueTracked (env : EnqueueEnv) (cmd : IwlHostCmd) (t : Tracked) : Tracked :=
  match admitted env cmd t.trans with
  | none => t
  | some plan => plannedTracked env cmd plan t

/-- `iwl_pcie_hcmd_complete`. -/
def completeTracked (t : Tracked) (pkt : RxPacket) : Tracked where
  trans := iwlPcieHcmdComplete t.trans pkt
  ledger :=
    if seqToQueue pkt.sequence ≠ t.trans.cmdQueue.val then t.ledger
    else (unmapTracked t (seqToIndex pkt.sequence)).ledger

/-- One turn of `iwl_pcie_txq_unmap`. -/
def unmapNextTracked (t : Tracked) : Tracked :=
  ⟨unmapNext t.trans, (unmapTracked t t.trans.txq.readPtr).ledger⟩

/-- The loop of `iwl_pcie_txq_unmap`. -/
def unmapAllTracked : Nat → Tracked → Tracked
  | 0, t => t
  | fuel + 1, t =>
    if t.trans.txq.writePtr = t.trans.txq.readPtr then t else unmapAllTracked fuel (unmapNextTracked t)

/-- An operation on the queue. -/
def applyTracked (t : Tracked) : QueueOp → Tracked
  | .enqueue env cmd => enqueueTracked env cmd t
  | .response pkt => completeTracked t pkt
  | .unmap => unmapAllTracked tfdQueueSizeMax t

/-- The operations as a machine: each is enabled in every state. -/
def trackedStep (t : Tracked) (op : QueueOp) : Option Tracked := some (applyTracked t op)

/-- The empty queue, before any buffer is obtained. -/
def Tracked.init (cmdQueue : Fin 32) (wideCmdHeader apmgWakeUpWa : Bool) (firstTbDma : Nat) : Tracked :=
  ⟨.init cmdQueue wideCmdHeader apmgWakeUpWa firstTbDma, .empty⟩

/-! ### The ledger only watches -/

/-- The transport of a call that maps, or does not. -/
def transOf : Except Tracked Tracked → Except IwlTrans IwlTrans
  | .error t => .error t.trans
  | .ok t => .ok t.trans

theorem transOf_mapTracked (env : EnqueueEnv) (idx : Slot) (t : Tracked) (part : Nat × List UInt8) :
    transOf (mapTracked env idx t part) = mapPart env idx t.trans part := by
  unfold mapTracked mapPart
  cases env.dmaBuf part.1 part.2.length <;> rfl

theorem transOf_foldlM (env : EnqueueEnv) (idx : Slot) (parts : List (Nat × List UInt8)) (t : Tracked) :
    transOf (parts.foldlM (mapTracked env idx) t) = parts.foldlM (mapPart env idx) t.trans := by
  induction parts generalizing t with
  | nil => rfl
  | cons part rest ih =>
    rw [List.foldlM_cons, List.foldlM_cons, ← transOf_mapTracked]
    cases mapTracked env idx t part with
    | error t' => rfl
    | ok t' => exact ih t'

theorem plannedTracked_trans (env : EnqueueEnv) (cmd : IwlHostCmd) (plan : HcmdPlan) (t : Tracked) :
    (plannedTracked env cmd plan t).trans = (enqueuePlanned env cmd plan t.trans).2 := by
  have mapped := transOf_foldlM env (iwlPcieGetCmdIndex t.trans.txq.writePtr)
    (plannedParts cmd plan t.trans) (startTracked cmd plan t)
  unfold plannedTracked enqueuePlanned
  unfold plannedParts startTracked at *
  dsimp only at *
  rw [← mapped]
  split
  · next failed =>
    rw [failed]
    rfl
  · next all =>
    rw [all]
    unfold commitPlanned transOf
    dsimp only
    generalize iwlPcieSetCmdInFlight env cmd _ = woken
    obtain ⟨_ | _, _⟩ := woken
    · rfl
    · rfl

theorem enqueueTracked_trans (env : EnqueueEnv) (cmd : IwlHostCmd) (t : Tracked) :
    (enqueueTracked env cmd t).trans = (iwlPcieEnqueueHcmd env cmd t.trans).2 := by
  unfold enqueueTracked admitted iwlPcieEnqueueHcmd
  by_cases long : (!t.trans.wideCmdHeader && iwlAlwaysLongGroup < iwlCmdGroupid cmd.id) = true
  · rw [if_pos long, if_pos long]
  · rw [if_neg long, if_neg long]
    cases cmd.fragments.foldlM (planFragment env) (HcmdPlan.start cmd) with
    | error e => rfl
    | ok plan =>
      dsimp only
      split_ifs
      · rfl
      · rfl
      · exact plannedTracked_trans env cmd plan t

theorem unmapAllTracked_trans (fuel : Nat) (t : Tracked) :
    (unmapAllTracked fuel t).trans = unmapAll fuel t.trans := by
  induction fuel generalizing t with
  | zero => rfl
  | succ fuel ih =>
    unfold unmapAllTracked unmapAll
    split_ifs
    · rfl
    · exact ih (unmapNextTracked t)

/-- **The transport is that of the operation.** -/
theorem applyTracked_trans (t : Tracked) (op : QueueOp) :
    (applyTracked t op).trans = op.apply t.trans := by
  cases op with
  | enqueue env cmd => exact enqueueTracked_trans env cmd t
  | response pkt => rfl
  | unmap => exact unmapAllTracked_trans _ t

end IntelWifi.Pcie
