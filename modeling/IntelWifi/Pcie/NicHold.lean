/-
**Holding the NIC awake.**

While host commands are in flight, `ref_cmd_in_flight` says that a reference on the transport is claimed
for them, and `cmd_hold_nic_awake` that the NIC is held awake. `Claimed` is the transport with its data
queues and with the calls of `iwl_trans_ref` and `iwl_trans_unref` counted. Data queues are only emptied:
sending on them, which would claim a reference for each, is not implemented.

* `setCmdInFlight_claims`, `clearIfEmpty_held`: what each of the two does to flags and references.
* `enqueue_held`, `reclaim_held`, `unmapAll_held`: what each operation does.
* `nicHeld`: in every state of a run the flags and the references agree with the queues.
-/

import IntelWifi.Lib.Machine
import IntelWifi.Pcie.DmaOwnership
import IntelWifi.Pcie.TfdWire

namespace IntelWifi.Pcie

open IntelWifi.Circular IntelWifi.Memory IntelWifi.Machine

/-! ### Counting references -/

/-- The calls of `iwl_trans_ref` in `iwl_pcie_set_cmd_in_flight`. -/
def setCmdInFlightRefs (cmd : IwlHostCmd) (st : IwlTrans) : Int :=
  if !cmd.flags.sendInIdle && !st.refCmdInFlight then 1 else 0

/-- Minus the calls of `iwl_trans_unref` in `iwl_pcie_clear_cmd_in_flight`, if it is called. -/
def clearIfEmptyRefs (st : IwlTrans) : Int :=
  if st.txq.readPtr = st.txq.writePtr then if st.refCmdInFlight then -1 else 0 else 0

/-- The part of `iwl_pcie_enqueue_hcmd` after its checks. -/
def enqueuePlannedRefs (env : EnqueueEnv) (cmd : IwlHostCmd) (plan : HcmdPlan) (st : IwlTrans) : Int :=
  let idx := iwlPcieGetCmdIndex st.txq.writePtr
  let header := cmdHeader cmd (cmdSequence st.cmdQueue st.txq.writePtr) plan.cmdSize
  let out := fillSlot cmd header (st.txq.entries idx).cmd
  match (hcmdParts plan out).foldlM (mapPart env idx) (startTfd cmd out idx st) with
  | .error _ => 0
  | .ok st => setCmdInFlightRefs cmd (finishSlot cmd plan idx st)

/-- `iwl_pcie_enqueue_hcmd`. -/
def enqueueRefs (env : EnqueueEnv) (cmd : IwlHostCmd) (st : IwlTrans) : Int :=
  match admitted env cmd st with
  | none => 0
  | some plan => enqueuePlannedRefs env cmd plan st

/-- `iwl_pcie_cmdq_reclaim`. -/
def cmdqReclaimRefs (st : IwlTrans) (idx : RingIndex) : Int :=
  if !iwlQueueUsed st.txq idx then 0
  else
    let readPtr := reclaimTo (iwlQueueIncWrap idx) tfdQueueSizeMax st.txq.readPtr
    clearIfEmptyRefs { st with txq := { st.txq with readPtr := readPtr } }

/-- The part of `iwl_pcie_hcmd_complete` before it reclaims its index. -/
def beforeReclaim (st : IwlTrans) (pkt : RxPacket) : IwlTrans :=
  let index := seqToIndex pkt.sequence
  let info := (st.txq.entries (iwlPcieGetCmdIndex index)).cmdMeta
  let st := { st with txq := iwlPcieTfdUnmap st.txq index }
  if info.flags.wantSkb then giveResponse st info.source pkt else st

/-- `iwl_pcie_hcmd_complete`. -/
def hcmdCompleteRefs (st : IwlTrans) (pkt : RxPacket) : Int :=
  if seqToQueue pkt.sequence ≠ st.cmdQueue.val then 0
  else cmdqReclaimRefs (beforeReclaim st pkt) (seqToIndex pkt.sequence)

/-- One turn of `iwl_pcie_txq_unmap`, for the command queue. -/
def unmapNextRefs (st : IwlTrans) : Int :=
  let txq := iwlPcieTxqFreeTfd st.txq
  clearIfEmptyRefs { st with txq := { txq with readPtr := iwlQueueIncWrap txq.readPtr } }

/-- The loop of `iwl_pcie_txq_unmap`, for the command queue. -/
def unmapAllRefs : Nat → IwlTrans → Int
  | 0, _ => 0
  | fuel + 1, st =>
    if st.txq.writePtr = st.txq.readPtr then 0 else unmapNextRefs st + unmapAllRefs fuel (unmapNext st)

/-! ### All queues -/

/-- A data queue: its pointers, and which entries have an `skb`. -/
structure DataQueue where
  readPtr : RingIndex
  writePtr : RingIndex
  skb : RingIndex → Bool

/-- One turn of `iwl_pcie_txq_unmap`, for a data queue, and what it does to the references. Without an
`skb` it goes on at the same entry. -/
def unmapNextData (q : DataQueue) : DataQueue × Int :=
  if !q.skb q.readPtr then (q, 0)
  else
    let skb := fun i => if i = q.readPtr then false else q.skb i
    let readPtr := iwlQueueIncWrap q.readPtr
    (⟨readPtr, q.writePtr, skb⟩, if readPtr = q.writePtr then -1 else 0)

/-- The loop of `iwl_pcie_txq_unmap`, for a data queue, if it ends. -/
def unmapData : Nat → DataQueue → Option (DataQueue × Int)
  | 0, _ => none
  | fuel + 1, q =>
    if q.writePtr = q.readPtr then some (q, 0)
    else (unmapData fuel (unmapNextData q).1).map fun last => (last.1, (unmapNextData q).2 + last.2)

/-- The transport with its data queues. `refs` are the calls of `iwl_trans_ref` minus those of
`iwl_trans_unref`. -/
structure Claimed where
  trans : IwlTrans
  data : List DataQueue
  refs : Int

/-- The loop of `iwl_pcie_tx_stop`, over the data queues. -/
def stopData : List DataQueue → Option (List DataQueue × Int)
  | [] => some ([], 0)
  | q :: later =>
    (unmapData (tfdQueueSizeMax + 1) q).bind fun first =>
      (stopData later).map fun rest => (first.1 :: rest.1, first.2 + rest.2)

/-- The references of an operation on the command queue. -/
def QueueOp.refs (st : IwlTrans) : QueueOp → Int
  | .enqueue env cmd => enqueueRefs env cmd st
  | .response pkt => hcmdCompleteRefs st pkt
  | .unmap => unmapAllRefs tfdQueueSizeMax st

/-- An operation on the command queue. -/
def Claimed.apply (c : Claimed) (op : QueueOp) : Claimed :=
  { c with trans := op.apply c.trans, refs := c.refs + op.refs c.trans }

/-- `iwl_pcie_tx_stop`, with or without a `txq_memory`. The command queue has nothing in common with
the others, so its turn may be the last. -/
def iwlPcieTxStop (c : Claimed) (txqMemory : Bool) : Option Claimed :=
  if !txqMemory then some c
  else (stopData c.data).map fun data =>
    ({ c with data := data.1, refs := c.refs + data.2 } : Claimed).apply .unmap

/-- What is done to the transport. -/
inductive TransOp where
  | queue (op : QueueOp)
  | unmapData (i : Nat)
  | stop (txqMemory : Bool)

/-- A step, if it ends. -/
def claimedStep (c : Claimed) : TransOp → Option Claimed
  | .queue op => some (c.apply op)
  | .unmapData i => c.data[i]?.bind fun q =>
      (unmapData (tfdQueueSizeMax + 1) q).map fun last =>
        { c with data := c.data.set i last.1, refs := c.refs + last.2 }
  | .stop txqMemory => iwlPcieTxStop c txqMemory

/-- The reference of a data queue that is not empty. -/
def DataQueue.claims (q : DataQueue) : Int := if q.readPtr = q.writePtr then 0 else 1

/-- The reference of the host commands. -/
def IwlTrans.claims (st : IwlTrans) : Int := if st.refCmdInFlight then 1 else 0

/-- The references that are claimed. -/
def Claimed.claims (c : Claimed) : Int := c.trans.claims + (c.data.map DataQueue.claims).sum

/-- The command queue is empty, and no data queue has claimed more than its reference. -/
def Claimed.init (cmdQueue : Fin 32) (wideCmdHeader : Bool) (firstTbDma : Nat) (data : List DataQueue) :
    Claimed :=
  ⟨.init cmdQueue wideCmdHeader true firstTbDma, data, (data.map DataQueue.claims).sum⟩

/-! ### The two flags -/

/-- The flags agree with the command queue, on a device that has to be held awake. -/
structure NicHeld (st : IwlTrans) : Prop where
  hold : st.cmdHoldNicAwake = true ↔ st.txq.readPtr ≠ st.txq.writePtr
  ref : st.refCmdInFlight = true → st.txq.readPtr ≠ st.txq.writePtr

/-- What both of them keep, and what is counted. -/
structure HeldStep (st : IwlTrans) (refs : Int) (st' : IwlTrans) : Prop where
  wa : st'.apmgWakeUpWa = true
  held : NicHeld st'
  counted : st'.claims = st.claims + refs

theorem HeldStep.same {st st' : IwlTrans} (wa : st.apmgWakeUpWa = true) (held : NicHeld st)
    (sameWa : st'.apmgWakeUpWa = st.apmgWakeUpWa) (sameHold : st'.cmdHoldNicAwake = st.cmdHoldNicAwake)
    (sameRef : st'.refCmdInFlight = st.refCmdInFlight) (readPtr : st'.txq.readPtr = st.txq.readPtr)
    (writePtr : st'.txq.writePtr = st.txq.writePtr) : HeldStep st 0 st' where
  wa := sameWa.trans wa
  held := by
    constructor
    · rw [sameHold, readPtr, writePtr]
      exact held.hold
    · rw [sameRef, readPtr, writePtr]
      exact held.ref
  counted := by
    unfold IwlTrans.claims
    rw [sameRef, Int.add_zero]

/-- **Letting the NIC go**, in a queue that was not empty before. -/
theorem clearIfEmpty_held {st : IwlTrans} (wa : st.apmgWakeUpWa = true)
    (hold : st.cmdHoldNicAwake = true) : HeldStep st (clearIfEmptyRefs st) (clearIfEmpty st) := by
  unfold clearIfEmpty clearIfEmptyRefs
  by_cases empty : st.txq.readPtr = st.txq.writePtr
  · rw [if_pos empty, if_pos empty]
    have cleared : iwlPcieClearCmdInFlight st =
        { st with refCmdInFlight := false, cmdHoldNicAwake := false } := by
      unfold iwlPcieClearCmdInFlight
      cases ref : st.refCmdInFlight <;> simp [wa, hold, ref]
    rw [cleared]
    refine ⟨wa, ⟨⟨fun held => Bool.noConfusion held, fun differ => absurd empty differ⟩,
      fun ref => Bool.noConfusion ref⟩, ?_⟩
    unfold IwlTrans.claims
    cases st.refCmdInFlight <;> rfl
  · rw [if_neg empty, if_neg empty]
    exact ⟨wa, ⟨⟨fun _ => empty, fun _ => hold⟩, fun _ => empty⟩, (Int.add_zero _).symm⟩

/-- **Holding the NIC awake** for a command. -/
theorem setCmdInFlight_claims {env : EnqueueEnv} (cmd : IwlHostCmd) {st : IwlTrans}
    (wakes : env.nicWakes = true) (wa : st.apmgWakeUpWa = true) :
    (iwlPcieSetCmdInFlight env cmd st).1 = .ok () ∧
      (iwlPcieSetCmdInFlight env cmd st).2.apmgWakeUpWa = true ∧
      (iwlPcieSetCmdInFlight env cmd st).2.cmdHoldNicAwake = true ∧
      (iwlPcieSetCmdInFlight env cmd st).2.claims = st.claims + setCmdInFlightRefs cmd st := by
  unfold iwlPcieSetCmdInFlight setCmdInFlightRefs IwlTrans.claims
  cases idle : cmd.flags.sendInIdle <;> cases ref : st.refCmdInFlight <;>
    cases hold : st.cmdHoldNicAwake <;> simp [wa, hold, ref, wakes]

/-! ### Completions -/

/-- **The pointers of a queue that was not empty** move, and the NIC is let go once it is. -/
theorem clearIfEmpty_moved {st : IwlTrans} (wa : st.apmgWakeUpWa = true) (held : NicHeld st)
    (busy : st.txq.readPtr ≠ st.txq.writePtr) (txq : IwlTxq) :
    HeldStep st (clearIfEmptyRefs { st with txq := txq }) (clearIfEmpty { st with txq := txq }) := by
  have moved : HeldStep { st with txq := txq } (clearIfEmptyRefs { st with txq := txq })
      (clearIfEmpty { st with txq := txq }) := clearIfEmpty_held wa (held.hold.mpr busy)
  exact ⟨moved.wa, moved.held, moved.counted⟩

/-- **Reclaiming an index.** -/
theorem reclaim_held {st : IwlTrans} (wa : st.apmgWakeUpWa = true) (held : NicHeld st)
    (idx : RingIndex) : HeldStep st (cmdqReclaimRefs st idx) (iwlPcieCmdqReclaim st idx) := by
  unfold iwlPcieCmdqReclaim cmdqReclaimRefs
  by_cases used : iwlQueueUsed st.txq idx = true
  · have busy : st.txq.readPtr ≠ st.txq.writePtr := by
      intro empty
      have flight := (iwlQueueUsed_iff st.txq idx).mp used
      unfold InFlight at flight
      rw [empty] at flight
      exact not_within_self flight
    rw [used]
    exact clearIfEmpty_moved wa held busy _
  · rw [Bool.eq_false_iff.mpr used]
    exact .same wa held rfl rfl rfl rfl rfl

/-- What happens before has nothing to do with the NIC. -/
theorem beforeReclaim_same (st : IwlTrans) (pkt : RxPacket) :
    (beforeReclaim st pkt).apmgWakeUpWa = st.apmgWakeUpWa ∧
      (beforeReclaim st pkt).cmdHoldNicAwake = st.cmdHoldNicAwake ∧
      (beforeReclaim st pkt).refCmdInFlight = st.refCmdInFlight ∧
      (beforeReclaim st pkt).txq = iwlPcieTfdUnmap st.txq (seqToIndex pkt.sequence) := by
  unfold beforeReclaim giveResponse
  dsimp only
  split
  · split <;> exact ⟨rfl, rfl, rfl, rfl⟩
  · exact ⟨rfl, rfl, rfl, rfl⟩

/-- **A completion**, in any order. -/
theorem complete_held {st : IwlTrans} (wa : st.apmgWakeUpWa = true) (held : NicHeld st)
    (pkt : RxPacket) : HeldStep st (hcmdCompleteRefs st pkt) (iwlPcieHcmdComplete st pkt) := by
  unfold iwlPcieHcmdComplete hcmdCompleteRefs
  by_cases own : seqToQueue pkt.sequence = st.cmdQueue.val
  · obtain ⟨sameWa, sameHold, sameRef, txq⟩ := beforeReclaim_same st pkt
    have first : HeldStep st 0 (beforeReclaim st pkt) :=
      .same wa held sameWa sameHold sameRef (by rw [txq, tfdUnmap_readPtr])
        (by rw [txq, tfdUnmap_writePtr])
    have reclaimed := reclaim_held first.wa first.held (seqToIndex pkt.sequence)
    have responded : respond st pkt = iwlPcieCmdqReclaim (beforeReclaim st pkt) (seqToIndex pkt.sequence) :=
      rfl
    rw [if_neg (not_not.mpr own), if_neg (not_not.mpr own), responded]
    dsimp only
    generalize iwlPcieCmdqReclaim (beforeReclaim st pkt) _ = last at reclaimed
    have counted : last.claims =
        st.claims + cmdqReclaimRefs (beforeReclaim st pkt) (seqToIndex pkt.sequence) := by
      rw [reclaimed.counted, first.counted, Int.add_zero]
    split
    · exact ⟨reclaimed.wa, ⟨reclaimed.held.hold, reclaimed.held.ref⟩, counted⟩
    · exact ⟨reclaimed.wa, ⟨reclaimed.held.hold, reclaimed.held.ref⟩, counted⟩
  · rw [if_pos own, if_pos own]
    exact .same wa held rfl rfl rfl rfl rfl

/-! ### Unmapping -/

/-- **One turn** of unmapping a queue that is not empty. -/
theorem unmapNext_held {st : IwlTrans} (wa : st.apmgWakeUpWa = true) (held : NicHeld st)
    (busy : st.txq.readPtr ≠ st.txq.writePtr) : HeldStep st (unmapNextRefs st) (unmapNext st) :=
  clearIfEmpty_moved wa held busy _

/-- **Unmapping the command queue**, however often. -/
theorem unmapAll_held (fuel : Nat) {st : IwlTrans} (wa : st.apmgWakeUpWa = true) (held : NicHeld st) :
    HeldStep st (unmapAllRefs fuel st) (unmapAll fuel st) := by
  induction fuel generalizing st with
  | zero => exact .same wa held rfl rfl rfl rfl rfl
  | succ fuel ih =>
    rw [unmapAll, unmapAllRefs]
    split
    · exact .same wa held rfl rfl rfl rfl rfl
    · next differ =>
      have turn := unmapNext_held wa held (Ne.symm differ)
      have rest := ih turn.wa turn.held
      exact ⟨rest.wa, rest.held, by rw [rest.counted, turn.counted, Int.add_assoc]⟩

/-- **Unmapping a data queue** gives its reference back, if it ends. -/
theorem unmapData_claims (fuel : Nat) {q last : DataQueue} {refs : Int}
    (ended : unmapData fuel q = some (last, refs)) : last.claims = q.claims + refs := by
  induction fuel generalizing q refs with
  | zero => cases ended
  | succ fuel ih =>
    rw [unmapData] at ended
    split at ended
    · obtain ⟨rfl, rfl⟩ := Prod.mk.inj (Option.some.inj ended)
      exact (Int.add_zero _).symm
    · next differ =>
      obtain ⟨rest, went, same⟩ := Option.map_eq_some_iff.mp ended
      obtain ⟨rfl, rfl⟩ := Prod.mk.inj same
      have turn : (unmapNextData q).1.claims = q.claims + (unmapNextData q).2 := by
        unfold unmapNextData DataQueue.claims
        rw [if_neg (Ne.symm differ)]
        split
        · exact (if_neg (Ne.symm differ))
        · dsimp only
          split <;> rfl
      rw [ih went, turn, Int.add_assoc]

theorem stopData_claims (queues : List DataQueue) {last : List DataQueue} {refs : Int}
    (ended : stopData queues = some (last, refs)) :
    (last.map DataQueue.claims).sum = (queues.map DataQueue.claims).sum + refs := by
  induction queues generalizing last refs with
  | nil =>
    obtain ⟨rfl, rfl⟩ := Prod.mk.inj (Option.some.inj ended)
    rfl
  | cons q later ih =>
    obtain ⟨first, own, others⟩ := Option.bind_eq_some_iff.mp ended
    obtain ⟨rest, went, same⟩ := Option.map_eq_some_iff.mp others
    obtain ⟨rfl, rfl⟩ := Prod.mk.inj same
    rw [List.map_cons, List.map_cons, List.sum_cons, List.sum_cons, ih went, unmapData_claims _ own]
    omega

/-! ### Enqueueing -/

/-- What does not concern the NIC is the same. -/
structure SameNic (st st' : IwlTrans) : Prop where
  wa : st'.apmgWakeUpWa = st.apmgWakeUpWa
  hold : st'.cmdHoldNicAwake = st.cmdHoldNicAwake
  ref : st'.refCmdInFlight = st.refCmdInFlight

theorem mapParts_sameNic (env : EnqueueEnv) (idx : Slot) (parts : List (Nat × List UInt8))
    (st : IwlTrans) :
    match parts.foldlM (mapPart env idx) st with
    | .error st' => SameNic st st'
    | .ok st' => SameNic st st' := by
  induction parts generalizing st with
  | nil => exact ⟨rfl, rfl, rfl⟩
  | cons part rest ih =>
    rw [List.foldlM_cons]
    unfold mapPart
    cases env.dmaBuf part.1 part.2.length with
    | none => exact ⟨rfl, rfl, rfl⟩
    | some dma =>
      have later := ih { st with
        memory := store st.memory dma part.2
        txq := iwlPcieTxqBuildTfd
          (st.txq.setEntry idx ((st.txq.entries idx).setDma part.1 ⟨dma, part.2.length⟩))
          dma part.2.length false }
      show match rest.foldlM (mapPart env idx) _ with
        | .error st' => SameNic st st'
        | .ok st' => SameNic st st'
      generalize rest.foldlM (mapPart env idx) _ = mapped at later ⊢
      cases mapped with
      | error _ => exact ⟨later.wa, later.hold, later.ref⟩
      | ok _ => exact ⟨later.wa, later.hold, later.ref⟩

/-- **A planned command** claims and holds what it needs, once it is mapped. -/
theorem enqueuePlanned_claims {env : EnqueueEnv} (cmd : IwlHostCmd) (plan : HcmdPlan) {st : IwlTrans}
    (wakes : env.nicWakes = true) (wa : st.apmgWakeUpWa = true) :
    (enqueuePlanned env cmd plan st).2.apmgWakeUpWa = true ∧
      (enqueuePlanned env cmd plan st).2.claims = st.claims + enqueuePlannedRefs env cmd plan st ∧
      match (enqueuePlanned env cmd plan st).1 with
      | .error _ => SameNic st (enqueuePlanned env cmd plan st).2
      | .ok _ => (enqueuePlanned env cmd plan st).2.cmdHoldNicAwake = true := by
  unfold enqueuePlanned enqueuePlannedRefs
  dsimp only
  generalize fillSlot cmd _ _ = out
  have mapped := mapParts_sameNic env (iwlPcieGetCmdIndex st.txq.writePtr) (hcmdParts plan out)
    (startTfd cmd out (iwlPcieGetCmdIndex st.txq.writePtr) st)
  generalize (hcmdParts plan _).foldlM (mapPart env _) _ = parts at mapped ⊢
  cases parts with
  | error mid =>
    refine ⟨mapped.wa.trans wa, ?_, mapped.wa, mapped.hold, mapped.ref⟩
    show (if mid.refCmdInFlight then 1 else 0 : Int) = (if st.refCmdInFlight then 1 else 0) + 0
    rw [mapped.ref, Int.add_zero]
    rfl
  | ok mid =>
    have midWa : (finishSlot cmd plan (iwlPcieGetCmdIndex st.txq.writePtr) mid).apmgWakeUpWa = true :=
      mapped.wa.trans wa
    obtain ⟨passes, lastWa, hold, counted⟩ := setCmdInFlight_claims cmd wakes midWa
    have before : (finishSlot cmd plan (iwlPcieGetCmdIndex st.txq.writePtr) mid).claims = st.claims := by
      show (if mid.refCmdInFlight then 1 else 0 : Int) = if st.refCmdInFlight then 1 else 0
      rw [mapped.ref]
      rfl
    rw [before] at counted
    dsimp only
    generalize setCmdInFlightRefs cmd _ = refs at counted ⊢
    generalize iwlPcieSetCmdInFlight env cmd _ = flight at passes lastWa hold counted ⊢
    obtain ⟨result, last⟩ := flight
    obtain rfl : result = .ok () := passes
    exact ⟨lastWa, counted, hold⟩

/-- A command that fails the checks changes nothing. -/
theorem enqueue_eq (env : EnqueueEnv) (cmd : IwlHostCmd) (st : IwlTrans) :
    match admitted env cmd st with
    | none => (iwlPcieEnqueueHcmd env cmd st).2 = st
    | some plan => iwlPcieEnqueueHcmd env cmd st = enqueuePlanned env cmd plan st := by
  unfold admitted iwlPcieEnqueueHcmd
  by_cases long : (!st.wideCmdHeader && iwlAlwaysLongGroup < iwlCmdGroupid cmd.id) = true
  · rw [if_pos long, if_pos long]
  · rw [if_neg long, if_neg long]
    cases cmd.fragments.foldlM (planFragment env) (HcmdPlan.start cmd) with
    | error e => rfl
    | ok plan =>
      dsimp only
      by_cases large : tfdMaxPayloadSize < plan.copySize
      · rw [if_pos large, if_pos large]
      · rw [if_neg large, if_neg large]
        by_cases full : iwlQueueSpace st.txq < requiredSpace cmd
        · rw [if_pos full, if_pos full]
        · rw [if_neg full, if_neg full]

/-- **Enqueueing a command**, accepted or not. -/
theorem enqueue_held {env : EnqueueEnv} (cmd : IwlHostCmd) {st : IwlTrans} (wakes : env.nicWakes = true)
    (wa : st.apmgWakeUpWa = true) (held : NicHeld st) :
    HeldStep st (enqueueRefs env cmd st) (iwlPcieEnqueueHcmd env cmd st).2 := by
  have outcome := enqueue_outcome env cmd st
  have checked := enqueue_eq env cmd st
  unfold enqueueRefs
  cases admits : admitted env cmd st with
  | none =>
    rw [admits] at checked
    rw [show (iwlPcieEnqueueHcmd env cmd st).2 = st from checked]
    exact .same wa held rfl rfl rfl rfl rfl
  | some plan =>
    rw [admits] at checked
    dsimp only at checked ⊢
    rw [checked] at outcome ⊢
    obtain ⟨lastWa, counted, flags⟩ := enqueuePlanned_claims cmd plan wakes wa
    generalize enqueuePlanned env cmd plan st = done at outcome lastWa counted flags ⊢
    obtain ⟨result, last⟩ := done
    cases result with
    | error _ =>
      refine ⟨lastWa, ⟨?_, ?_⟩, counted⟩
      · rw [flags.hold, outcome.readPtr, outcome.writePtr]
        exact held.hold
      · rw [flags.ref, outcome.readPtr, outcome.writePtr]
        exact held.ref
    | ok _ =>
      have readPtr : last.txq.readPtr = st.txq.readPtr := outcome.2.only.readPtr
      have one : 1 ≤ iwlQueueSpace st.txq := by
        refine Nat.le_trans ?_ outcome.2.room
        unfold requiredSpace
        split <;> decide
      have busy : last.txq.readPtr ≠ last.txq.writePtr := by
        intro empty
        have flight := (inFlight_push one readPtr outcome.2.writePtr st.txq.writePtr).mpr (.inr rfl)
        unfold InFlight at flight
        rw [empty] at flight
        exact not_within_self flight
      exact ⟨lastWa, ⟨⟨fun _ => busy, fun _ => flags⟩, fun _ => busy⟩, counted⟩


/-! ### Runs -/

/-- The poll for a command, if there is one, succeeds. -/
def TransOp.wakes : TransOp → Bool
  | .queue (.enqueue env _) => env.nicWakes
  | _ => true

/-- What the flags and the references are. -/
structure NicHold (c : Claimed) : Prop where
  hold : c.trans.cmdHoldNicAwake = true ↔ c.trans.txq.readPtr ≠ c.trans.txq.writePtr
  ref : c.trans.refCmdInFlight = true → c.trans.txq.readPtr ≠ c.trans.txq.writePtr
  counted : c.refs = c.claims

/-- An operation on the command queue. -/
theorem queueOp_held {op : QueueOp} {st : IwlTrans} (wakes : (TransOp.queue op).wakes = true)
    (wa : st.apmgWakeUpWa = true) (held : NicHeld st) : HeldStep st (op.refs st) (op.apply st) := by
  cases op with
  | enqueue env cmd => exact enqueue_held cmd wakes wa held
  | response pkt => exact complete_held wa held pkt
  | unmap => exact unmapAll_held _ wa held

/-- What a run keeps. -/
def Balanced (c : Claimed) : Prop := c.trans.apmgWakeUpWa = true ∧ NicHold c

theorem Balanced.apply {c : Claimed} (balanced : Balanced c) {op : QueueOp}
    (wakes : (TransOp.queue op).wakes = true) : Balanced (c.apply op) := by
  obtain ⟨wa, hold⟩ := balanced
  have step := queueOp_held wakes wa ⟨hold.hold, hold.ref⟩
  refine ⟨step.wa, step.held.hold, step.held.ref, ?_⟩
  have counted : c.refs = c.trans.claims + (c.data.map DataQueue.claims).sum := hold.counted
  show c.refs + op.refs c.trans = (op.apply c.trans).claims + (c.data.map DataQueue.claims).sum
  rw [step.counted, counted]
  omega

/-- Another set of data queues, with its references. -/
theorem Balanced.data {c : Claimed} (balanced : Balanced c) {data : List DataQueue} {refs : Int}
    (counted : (data.map DataQueue.claims).sum = (c.data.map DataQueue.claims).sum + refs) :
    Balanced { c with data := data, refs := c.refs + refs } := by
  obtain ⟨wa, hold⟩ := balanced
  refine ⟨wa, hold.hold, hold.ref, ?_⟩
  have before : c.refs = c.trans.claims + (c.data.map DataQueue.claims).sum := hold.counted
  show c.refs + refs = c.trans.claims + (data.map DataQueue.claims).sum
  rw [counted, before]
  omega

theorem sum_set (queues : List DataQueue) {i : Nat} {q last : DataQueue} (there : queues[i]? = some q) :
    ((queues.set i last).map DataQueue.claims).sum =
      (queues.map DataQueue.claims).sum + (last.claims - q.claims) := by
  induction queues generalizing i with
  | nil => cases there
  | cons first later ih =>
    cases i with
    | zero =>
      obtain rfl := Option.some.inj there
      rw [List.set_cons_zero, List.map_cons, List.map_cons, List.sum_cons, List.sum_cons]
      omega
    | succ i =>
      have rest := ih (i := i) there
      rw [List.set_cons_succ, List.map_cons, List.map_cons, List.sum_cons, List.sum_cons, rest]
      omega

/-- **Every step keeps the balance**, if its poll succeeds. -/
theorem Balanced.step {c c' : Claimed} {op : TransOp} (balanced : Balanced c) (wakes : op.wakes = true)
    (went : claimedStep c op = some c') : Balanced c' := by
  cases op with
  | queue op =>
    obtain rfl := Option.some.inj went
    exact balanced.apply wakes
  | unmapData i =>
    obtain ⟨q, there, ended⟩ := Option.bind_eq_some_iff.mp went
    obtain ⟨last, unmapped, rfl⟩ := Option.map_eq_some_iff.mp ended
    refine balanced.data ?_
    rw [sum_set c.data there, unmapData_claims _ unmapped]
    omega
  | stop txqMemory =>
    have went : iwlPcieTxStop c txqMemory = some c' := went
    unfold iwlPcieTxStop at went
    split at went
    · exact Option.some.inj went ▸ balanced
    · obtain ⟨data, ended, rfl⟩ := Option.map_eq_some_iff.mp went
      exact (balanced.data (stopData_claims c.data ended)).apply rfl

theorem balanced_init (cmdQueue : Fin 32) (wideCmdHeader : Bool) (firstTbDma : Nat)
    (data : List DataQueue) : Balanced (.init cmdQueue wideCmdHeader firstTbDma data) :=
  ⟨rfl, ⟨fun held => Bool.noConfusion held, fun differ => absurd rfl differ⟩,
    fun ref => Bool.noConfusion ref, (Int.zero_add _).symm⟩

/-- **The NIC is held awake while host commands are in flight.** In every state of a run whose polls
succeed, `cmd_hold_nic_awake` is set exactly if the command queue is not empty, `ref_cmd_in_flight` only
then, and `iwl_trans_ref` was called as many times more than `iwl_trans_unref` as there are references
claimed. -/
theorem nicHeld (cmdQueue : Fin 32) (wideCmdHeader : Bool) (firstTbDma : Nat) (data : List DataQueue)
    (ops : List TransOp) (c : Claimed) (wakes : ∀ op ∈ ops, op.wakes = true)
    (ran : run claimedStep (.init cmdQueue wideCmdHeader firstTbDma data) ops = some c) : NicHold c :=
  (run_invariant_of_forall Balanced (fun _ _ _ balanced wakes went => balanced.step wakes went)
    (balanced_init cmdQueue wideCmdHeader firstTbDma data) wakes ran).2

/-- Two commands and a completion that skips the first; then another, and the queues are stopped twice. -/
def heldRun : List TransOp :=
  [.queue (.enqueue fixedBuffers mixedCmd), .queue (.enqueue fixedBuffers mixedCmd),
    .queue (.response ⟨0, 0, 0, 0, 0x0901⟩), .queue (.enqueue fixedBuffers mixedCmd), .stop true, .stop true]

/-- The law after it. -/
theorem nicHeld_heldRun : ∃ c, run claimedStep (.init 9 true 0x10000 []) heldRun = some c ∧ NicHold c := by
  obtain ⟨c, ran⟩ := Option.isSome_iff_exists.mp
    (show (run claimedStep (.init 9 true 0x10000 []) heldRun).isSome = true by decide +kernel)
  exact ⟨c, ran, nicHeld 9 true 0x10000 [] heldRun c (by decide) ran⟩

end IntelWifi.Pcie
