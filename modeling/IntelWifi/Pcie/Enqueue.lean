/-
**Enqueueing a host command.**

`iwl_pcie_enqueue_hcmd` plans what of each fragment is copied, copies header and data into the slot
of `write_ptr`, maps the first 20 bytes, the rest of the copy and what remains of the NOCOPY and DUP
fragments as TBs, and moves `write_ptr`. The allocator and the device are the parameter
`EnqueueEnv`. Registers, the reference count behind `iwl_trans_ref` and the doorbell are left out.

* `enqueue_outcome`: what a call does to the queue, accepted or not.
-/

import IntelWifi.Pcie.Tfd

namespace IntelWifi.Pcie

open IntelWifi.Memory

/-- What the kernel and the device answer while a command is enqueued. -/
structure EnqueueEnv where
  /-- `iwh_malloc`, for the copy of a DUP fragment. -/
  dupBuf : Option Nat
  /-- `allocate_dma_buf`, for `meta->dma[k]` and a size. -/
  dmaBuf : Nat → Nat → Option Nat
  /-- `iwl_poll_bit` sees the NIC awake. -/
  nicWakes : Bool

/-- Buffers at fixed addresses, 64 KiB apart. -/
def fixedBuffers : EnqueueEnv where
  dupBuf := some 0x5000
  dmaBuf := fun k n => if k < 3 ∧ n ≤ 0x1000 then some (0x20000 + 0x10000 * k) else none
  nicWakes := true

/-- The errors of `iwl_pcie_enqueue_hcmd`. -/
inductive HcmdError where
  | einval
  | enomem
  | enospc
  | eio
  deriving DecidableEq, Repr

/-! ### The header -/

/-- `iwl_cmd_opcode`. -/
def iwlCmdOpcode (id : BitVec 32) : Nat := id.toNat % 2 ^ 8

/-- `iwl_cmd_groupid`. -/
def iwlCmdGroupid (id : BitVec 32) : Nat := id.toNat / 2 ^ 8 % 2 ^ 8

/-- `iwl_cmd_version`. -/
def iwlCmdVersion (id : BitVec 32) : Nat := id.toNat / 2 ^ 16 % 2 ^ 8

/-- `QUEUE_TO_SEQ(cmd_queue) | INDEX_TO_SEQ(write_ptr)`. -/
def cmdSequence (queue : Fin 32) (index : RingIndex) : Nat :=
  (queue.val % 2 ^ 5) <<< 8 ||| index.val % 2 ^ 8

/-- `cpu_to_le16`. -/
def le16 (n : Nat) : List UInt8 := [UInt8.ofNat n, UInt8.ofNat (n / 2 ^ 8)]

/-- `sizeof(struct iwl_cmd_header_wide)` or `sizeof(struct iwl_cmd_header)`. -/
def headerSize (cmd : IwlHostCmd) : Nat := if iwlCmdGroupid cmd.id ≠ 0 then 8 else 4

/-- The header, with the sequence and `cmd_size`. -/
def cmdHeader (cmd : IwlHostCmd) (sequence cmdSize : Nat) : List UInt8 :=
  if iwlCmdGroupid cmd.id ≠ 0 then
    [UInt8.ofNat (iwlCmdOpcode cmd.id), UInt8.ofNat (iwlCmdGroupid cmd.id)] ++ le16 sequence ++
      le16 (cmdSize + 2 ^ 16 - 8) ++ [0, UInt8.ofNat (iwlCmdVersion cmd.id)]
  else [UInt8.ofNat (iwlCmdOpcode cmd.id), 0] ++ le16 sequence

/-! ### The three loops over fragments -/

/-- The fragment is copied whole. -/
def IwlFragment.plain (frag : IwlFragment) : Bool := !frag.nocopy && !frag.dup

/-- The variables of the first loop. `rests` are the `cmddata` of the fragments so far, `cmdlen` of
them; `dupBuf` is the copy of a DUP fragment and its address. -/
structure HcmdPlan where
  copySize : Nat
  cmdSize : Nat
  hadNocopy : Bool
  dupBuf : Option (Nat × List UInt8)
  rests : List (IwlFragment × List UInt8)

/-- Before the first loop. -/
def HcmdPlan.start (cmd : IwlHostCmd) : HcmdPlan :=
  ⟨headerSize cmd, headerSize cmd, false, none, []⟩

/-- The first loop, for one fragment. `copy_size` and `cmd_size` are `u16`. -/
def planFragment (env : EnqueueEnv) (plan : HcmdPlan) (frag : IwlFragment) :
    Except HcmdError HcmdPlan :=
  if frag.data.length = 0 then .ok { plan with rests := plan.rests ++ [(frag, frag.data)] }
  else
    -- `IWL_FIRST_TB_SIZE` bytes are copied of any command.
    let copy := if plan.copySize < iwlFirstTbSize then
      min (iwlFirstTbSize - plan.copySize) frag.data.length else 0
    let rest := frag.data.drop copy
    let pulled := { plan with
      copySize := plan.copySize + copy
      cmdSize := (plan.cmdSize + frag.data.length) % 2 ^ 16
      rests := plan.rests ++ [(frag, rest)] }
    if frag.nocopy then
      if frag.dup then .error .einval else .ok { pulled with hadNocopy := true }
    else if frag.dup then
      if plan.dupBuf.isSome then .error .einval
      else match env.dupBuf with
        | none => .error .enomem
        | some buf => .ok { pulled with hadNocopy := true, dupBuf := some (buf, rest) }
    else if plan.hadNocopy then .error .einval
    else .ok { pulled with copySize := (pulled.copySize + rest.length) % 2 ^ 16 }

/-- `memcpy` into a slot. What lies outside of the 324 bytes is not part of the slot. -/
def IwlDeviceCmd.memcpy (buf : IwlDeviceCmd) (pos : Nat) (bytes : List UInt8) : IwlDeviceCmd where
  bytes := (buf.bytes.take pos ++ bytes ++ buf.bytes.drop (pos + bytes.length)).take tfdMaxPayloadSize
  length_eq := by
    have := buf.length_eq
    simp only [List.length_take, List.length_append, List.length_drop]
    omega

/-- The variables of the second loop. -/
structure HcmdCopy where
  cmd : IwlDeviceCmd
  cmdPos : Nat
  copySize : Nat

/-- The second loop, for one fragment. -/
def copyFragment (out : HcmdCopy) (frag : IwlFragment) : HcmdCopy :=
  if frag.data.length = 0 then out
  else if frag.plain then
    { cmd := out.cmd.memcpy out.cmdPos frag.data
      cmdPos := out.cmdPos + frag.data.length
      copySize := (out.copySize + frag.data.length) % 2 ^ 16 }
  else
    -- As much as fits is copied for debug dumps; `copy_size` counts the first 20 bytes only.
    let copy := min (tfdMaxPayloadSize - out.cmdPos) frag.data.length
    { cmd := out.cmd.memcpy out.cmdPos (frag.data.take copy)
      cmdPos := out.cmdPos + copy
      copySize := if out.copySize < iwlFirstTbSize then
        out.copySize + min (iwlFirstTbSize - out.copySize) frag.data.length else out.copySize }

/-- Header and second loop. -/
def fillSlot (cmd : IwlHostCmd) (header : List UInt8) (buf : IwlDeviceCmd) : HcmdCopy :=
  cmd.fragments.foldl copyFragment ⟨buf.memcpy 0 header, headerSize cmd, headerSize cmd⟩

/-- What the third loop maps, and as which `meta->dma`. -/
def remainingParts (dupBuf : Option (Nat × List UInt8)) :
    Nat → List (IwlFragment × List UInt8) → List (Nat × List UInt8)
  | _, [] => []
  | i, (frag, rest) :: later =>
    if rest.length = 0 then remainingParts dupBuf (i + 1) later
    else if frag.plain then remainingParts dupBuf (i + 1) later
    else
      let data := if frag.dup then (dupBuf.elim [] Prod.snd).take rest.length else rest
      (i + 1, data) :: remainingParts dupBuf (i + 1) later

/-- Everything mapped after the first TB: the rest of the copy, then the third loop. -/
def hcmdParts (plan : HcmdPlan) (out : HcmdCopy) : List (Nat × List UInt8) :=
  let tb0Size := min out.copySize iwlFirstTbSize
  (if tb0Size < out.copySize then [(0, (out.cmd.bytes.take out.copySize).drop tb0Size)] else []) ++
    remainingParts plan.dupBuf 0 plan.rests

/-! ### The call -/

/-- `iwl_pcie_get_first_tb_dma`. -/
def iwlPcieGetFirstTbDma (txq : IwlTxq) (idx : Slot) : Nat := txq.firstTbDma + firstTbBufSize * idx.val

/-- The slot is filled and the TFD has its first TB. -/
def startTfd (cmd : IwlHostCmd) (out : HcmdCopy) (idx : Slot) (st : IwlTrans) : IwlTrans :=
  let source := if cmd.flags.wantSkb then some cmd.ptr else none
  let entry : IwlPcieTxqEntry := ⟨out.cmd, (st.txq.entries idx).freeBuf, { IwlCmdMeta.zero with source }⟩
  let tb0Size := min out.copySize iwlFirstTbSize
  let tb0 := iwlPcieGetFirstTbDma st.txq idx
  { st with
    memory := store st.memory tb0 (out.cmd.bytes.take tb0Size)
    txq := iwlPcieTxqBuildTfd (st.txq.setEntry idx entry) tb0 tb0Size true }

/-- The entry with a buffer in `meta->dma[k]`. -/
def IwlPcieTxqEntry.setDma (entry : IwlPcieTxqEntry) (k : Nat) (dma : IwlDmaPtr) : IwlPcieTxqEntry :=
  { entry with cmdMeta := { entry.cmdMeta with dma := entry.cmdMeta.dma.set k (some dma) } }

/-- One more TB in a buffer of its own. Without one, the state is the error's. -/
def mapPart (env : EnqueueEnv) (idx : Slot) (st : IwlTrans) (part : Nat × List UInt8) :
    Except IwlTrans IwlTrans :=
  match env.dmaBuf part.1 part.2.length with
  | none => .error st
  | some dma => .ok { st with
      memory := store st.memory dma part.2
      txq := iwlPcieTxqBuildTfd
        (st.txq.setEntry idx ((st.txq.entries idx).setDma part.1 ⟨dma, part.2.length⟩))
        dma part.2.length false }

/-- The command's flags, and its DUP copy in place of the one before. -/
def finishEntry (cmd : IwlHostCmd) (plan : HcmdPlan) (entry : IwlPcieTxqEntry) : IwlPcieTxqEntry :=
  { entry with
    freeBuf := plan.dupBuf.map Prod.fst
    cmdMeta := { entry.cmdMeta with flags := cmd.flags } }

/-- The slot after all TBs are mapped. -/
def finishSlot (cmd : IwlHostCmd) (plan : HcmdPlan) (idx : Slot) (st : IwlTrans) : IwlTrans :=
  { st with txq := st.txq.setEntry idx (finishEntry cmd plan (st.txq.entries idx)) }

/-- `iwl_pcie_set_cmd_in_flight`. -/
def iwlPcieSetCmdInFlight (env : EnqueueEnv) (cmd : IwlHostCmd) (st : IwlTrans) :
    Except HcmdError Unit × IwlTrans :=
  let st := if !cmd.flags.sendInIdle && !st.refCmdInFlight then
    { st with refCmdInFlight := true } else st
  if st.apmgWakeUpWa && !st.cmdHoldNicAwake then
    if env.nicWakes then (.ok (), { st with cmdHoldNicAwake := true }) else (.error .eio, st)
  else (.ok (), st)

/-- The part of the call after its checks. -/
def enqueuePlanned (env : EnqueueEnv) (cmd : IwlHostCmd) (plan : HcmdPlan) (st : IwlTrans) :
    Except HcmdError Slot × IwlTrans :=
  let idx := iwlPcieGetCmdIndex st.txq.writePtr
  let header := cmdHeader cmd (cmdSequence st.cmdQueue st.txq.writePtr) plan.cmdSize
  let out := fillSlot cmd header (st.txq.entries idx).cmd
  match (hcmdParts plan out).foldlM (mapPart env idx) (startTfd cmd out idx st) with
  | .error st => (.error .enomem, { st with txq := iwlPcieTfdUnmap st.txq st.txq.writePtr })
  | .ok st =>
    match iwlPcieSetCmdInFlight env cmd (finishSlot cmd plan idx st) with
    | (.error e, st) => (.error e, st)
    | (.ok (), st) =>
      (.ok idx, { st with txq := { st.txq with writePtr := iwlQueueIncWrap st.txq.writePtr } })

/-- `(cmd->flags & CMD_ASYNC) ? 2 : 1`. -/
def requiredSpace (cmd : IwlHostCmd) : Nat := if cmd.flags.async then 2 else 1

/-- `iwl_pcie_enqueue_hcmd`. -/
def iwlPcieEnqueueHcmd (env : EnqueueEnv) (cmd : IwlHostCmd) (st : IwlTrans) :
    Except HcmdError Slot × IwlTrans :=
  if !st.wideCmdHeader && iwlAlwaysLongGroup < iwlCmdGroupid cmd.id then (.error .einval, st)
  else match cmd.fragments.foldlM (planFragment env) (HcmdPlan.start cmd) with
    | .error e => (.error e, st)
    | .ok plan =>
      if tfdMaxPayloadSize < plan.copySize then (.error .einval, st)
      else if iwlQueueSpace st.txq < requiredSpace cmd then (.error .enospc, st)
      else enqueuePlanned env cmd plan st

/-! ### What a call touches -/

/-- At most the slot and the descriptors of `write_ptr` differ, beside memory and the bookkeeping of
`iwl_pcie_set_cmd_in_flight`. -/
structure OnlySlot (st st' : IwlTrans) : Prop where
  writePtr : st'.txq.writePtr = st.txq.writePtr
  readPtr : st'.txq.readPtr = st.txq.readPtr
  cmdQueue : st'.cmdQueue = st.cmdQueue
  status : st'.status = st.status
  respPkt : st'.respPkt = st.respPkt
  entries : ∀ slot, slot ≠ iwlPcieGetCmdIndex st.txq.writePtr →
    st'.txq.entries slot = st.txq.entries slot
  tfds : ∀ i, i ≠ st.txq.writePtr → i ≠ iwlPcieGetTfd st.txq.writePtr → st'.txq.tfds i = st.txq.tfds i

theorem OnlySlot.refl (st : IwlTrans) : OnlySlot st st :=
  ⟨rfl, rfl, rfl, rfl, rfl, fun _ _ => rfl, fun _ _ _ => rfl⟩

theorem OnlySlot.trans {a b c : IwlTrans} (first : OnlySlot a b) (second : OnlySlot b c) :
    OnlySlot a c where
  writePtr := second.writePtr.trans first.writePtr
  readPtr := second.readPtr.trans first.readPtr
  cmdQueue := second.cmdQueue.trans first.cmdQueue
  status := second.status.trans first.status
  respPkt := second.respPkt.trans first.respPkt
  entries := fun slot other =>
    (second.entries slot (first.writePtr.symm ▸ other)).trans (first.entries slot other)
  tfds := fun i here there =>
    (second.tfds i (first.writePtr.symm ▸ here) (first.writePtr.symm ▸ there)).trans
      (first.tfds i here there)

/-- Another entry in the slot, and a TB in the descriptor. -/
theorem OnlySlot.build (st : IwlTrans) (entry : IwlPcieTxqEntry) (mem : Ram) (addr len : Nat)
    (reset : Bool) :
    OnlySlot st { st with
      memory := mem
      txq := iwlPcieTxqBuildTfd (st.txq.setEntry (iwlPcieGetCmdIndex st.txq.writePtr) entry)
        addr len reset } := by
  obtain ⟨tfd, built⟩ := buildTfd_eq
    (st.txq.setEntry (iwlPcieGetCmdIndex st.txq.writePtr) entry) addr len reset
  rw [built]
  exact ⟨rfl, rfl, rfl, rfl, rfl, fun slot other => setEntry_other _ _ _ other,
    fun i here _ => setTfd_other _ _ _ here⟩

/-- Another entry in the slot. -/
theorem OnlySlot.entry (st : IwlTrans) (entry : IwlPcieTxqEntry) :
    OnlySlot st { st with
      txq := st.txq.setEntry (iwlPcieGetCmdIndex st.txq.writePtr) entry } :=
  ⟨rfl, rfl, rfl, rfl, rfl, fun _ other => setEntry_other _ _ _ other, fun _ _ _ => rfl⟩

/-- The failed command is unmapped. -/
theorem OnlySlot.unmap (st : IwlTrans) :
    OnlySlot st { st with txq := iwlPcieTfdUnmap st.txq st.txq.writePtr } where
  writePtr := tfdUnmap_writePtr _ _
  readPtr := tfdUnmap_readPtr _ _
  cmdQueue := rfl
  status := rfl
  respPkt := rfl
  entries := fun slot other => (tfdUnmap_entries _ _ slot).resolve_right fun same => other same.1
  tfds := fun _ _ there => tfdUnmap_tfds _ _ there

theorem setCmdInFlight_txq (env : EnqueueEnv) (cmd : IwlHostCmd) (st : IwlTrans) :
    (iwlPcieSetCmdInFlight env cmd st).2.txq = st.txq ∧
      (iwlPcieSetCmdInFlight env cmd st).2.memory = st.memory ∧
      OnlySlot st (iwlPcieSetCmdInFlight env cmd st).2 := by
  unfold iwlPcieSetCmdInFlight
  dsimp only
  split <;> split <;> try split
  all_goals exact ⟨rfl, rfl, rfl, rfl, rfl, rfl, rfl, fun _ _ => rfl, fun _ _ _ => rfl⟩

/-- What the entry of a command says of its owner. -/
def Owned (cmd : IwlHostCmd) (info : IwlCmdMeta) : Prop :=
  info.source = if cmd.flags.wantSkb then some cmd.ptr else none

theorem startTfd_frame (cmd : IwlHostCmd) (out : HcmdCopy) (st : IwlTrans) :
    OnlySlot st (startTfd cmd out (iwlPcieGetCmdIndex st.txq.writePtr) st) ∧
      Owned cmd ((startTfd cmd out (iwlPcieGetCmdIndex st.txq.writePtr) st).txq.entries
        (iwlPcieGetCmdIndex st.txq.writePtr)).cmdMeta := by
  refine ⟨OnlySlot.build st _ _ _ _ _, ?_⟩
  unfold startTfd
  dsimp only
  obtain ⟨tfd, built⟩ := buildTfd_eq (st.txq.setEntry (iwlPcieGetCmdIndex st.txq.writePtr)
    ⟨out.cmd, (st.txq.entries (iwlPcieGetCmdIndex st.txq.writePtr)).freeBuf,
      { IwlCmdMeta.zero with source := if cmd.flags.wantSkb then some cmd.ptr else none }⟩)
    (iwlPcieGetFirstTbDma st.txq (iwlPcieGetCmdIndex st.txq.writePtr))
    (min out.copySize iwlFirstTbSize) true
  rw [built, setTfd_entries, setEntry_same]
  rfl

/-- One more TB keeps within the slot and its owner. -/
theorem mapPart_frame {env : EnqueueEnv} {cmd : IwlHostCmd} {st st' : IwlTrans}
    {part : Nat × List UInt8}
    (owned : Owned cmd (st.txq.entries (iwlPcieGetCmdIndex st.txq.writePtr)).cmdMeta)
    (mapped : mapPart env (iwlPcieGetCmdIndex st.txq.writePtr) st part = .ok st') :
    OnlySlot st st' ∧ Owned cmd (st'.txq.entries (iwlPcieGetCmdIndex st.txq.writePtr)).cmdMeta := by
  unfold mapPart at mapped
  split at mapped
  · cases mapped
  · rename_i dma _
    obtain rfl := Except.ok.inj mapped
    refine ⟨OnlySlot.build st _ _ _ _ _, ?_⟩
    obtain ⟨tfd, built⟩ := buildTfd_eq (st.txq.setEntry (iwlPcieGetCmdIndex st.txq.writePtr)
      ((st.txq.entries (iwlPcieGetCmdIndex st.txq.writePtr)).setDma part.1 ⟨dma, part.2.length⟩))
      dma part.2.length false
    dsimp only
    rw [built, setTfd_entries, setEntry_same]
    exact owned

theorem mapPart_error {env : EnqueueEnv} {idx : Slot} {st st' : IwlTrans} {part : Nat × List UInt8}
    (failed : mapPart env idx st part = .error st') : st' = st := by
  unfold mapPart at failed
  split at failed
  · exact (Except.error.inj failed).symm
  · cases failed

/-- All TBs keep within the slot and its owner, whether or not they all get a buffer. -/
theorem mapParts_frame (env : EnqueueEnv) (cmd : IwlHostCmd) (idx : Slot)
    (parts : List (Nat × List UInt8)) (st : IwlTrans)
    (here : idx = iwlPcieGetCmdIndex st.txq.writePtr)
    (owned : Owned cmd (st.txq.entries idx).cmdMeta) :
    match parts.foldlM (mapPart env idx) st with
    | .error st' => OnlySlot st st'
    | .ok st' => OnlySlot st st' ∧ Owned cmd (st'.txq.entries idx).cmdMeta := by
  induction parts generalizing st with
  | nil => exact ⟨OnlySlot.refl st, owned⟩
  | cons part rest ih =>
    rw [List.foldlM_cons]
    cases mapped : mapPart env idx st part with
    | error st' =>
      rw [mapPart_error mapped]
      exact OnlySlot.refl st
    | ok mid =>
      subst here
      obtain ⟨only, kept⟩ := mapPart_frame owned mapped
      have later := ih mid (by rw [only.writePtr]) kept
      show match rest.foldlM (mapPart env _) mid with
        | .error st' => OnlySlot st st'
        | .ok st' => OnlySlot st st' ∧ Owned cmd (st'.txq.entries _).cmdMeta
      split at later
      · exact only.trans later
      · exact ⟨only.trans later.1, later.2⟩

/-- An accepted command: its slot, with its flags and its owner, and the pointer moved. -/
structure Accepted (cmd : IwlHostCmd) (st st' : IwlTrans) : Prop where
  room : requiredSpace cmd ≤ iwlQueueSpace st.txq
  only : OnlySlot st { st' with txq := { st'.txq with writePtr := st.txq.writePtr } }
  writePtr : st'.txq.writePtr = iwlQueueIncWrap st.txq.writePtr
  flags : (st'.txq.entries (iwlPcieGetCmdIndex st.txq.writePtr)).cmdMeta.flags = cmd.flags
  owned : Owned cmd (st'.txq.entries (iwlPcieGetCmdIndex st.txq.writePtr)).cmdMeta

/-- What a call may do: refused, it touches at most the slot of `write_ptr`; accepted, it returns
that slot and moves `write_ptr` on. -/
def Outcome (cmd : IwlHostCmd) (st : IwlTrans) : Except HcmdError Slot × IwlTrans → Prop
  | (.error _, st') => OnlySlot st st'
  | (.ok idx, st') => idx = iwlPcieGetCmdIndex st.txq.writePtr ∧ Accepted cmd st st'

/-- The last steps: the slot is finished, the NIC held awake, the pointer moved. -/
theorem finish_outcome (env : EnqueueEnv) (cmd : IwlHostCmd) (plan : HcmdPlan) {st mid : IwlTrans}
    (room : requiredSpace cmd ≤ iwlQueueSpace st.txq) (only : OnlySlot st mid)
    (owned : Owned cmd (mid.txq.entries (iwlPcieGetCmdIndex st.txq.writePtr)).cmdMeta) :
    Outcome cmd st
      (match iwlPcieSetCmdInFlight env cmd
          (finishSlot cmd plan (iwlPcieGetCmdIndex st.txq.writePtr) mid) with
        | (.error e, last) => (.error e, last)
        | (.ok (), last) => (.ok (iwlPcieGetCmdIndex st.txq.writePtr),
          { last with
            txq := { last.txq with writePtr := iwlQueueIncWrap last.txq.writePtr } })) := by
  have finished : OnlySlot st (finishSlot cmd plan (iwlPcieGetCmdIndex st.txq.writePtr) mid) := by
    unfold finishSlot
    rw [← only.writePtr]
    exact only.trans (OnlySlot.entry mid _)
  obtain ⟨sameTxq, _, flight⟩ := setCmdInFlight_txq env cmd
    (finishSlot cmd plan (iwlPcieGetCmdIndex st.txq.writePtr) mid)
  cases woken : iwlPcieSetCmdInFlight env cmd
      (finishSlot cmd plan (iwlPcieGetCmdIndex st.txq.writePtr) mid) with
  | mk result last =>
    rw [woken] at sameTxq flight
    have only := finished.trans flight
    cases result with
    | error e => exact only
    | ok _ =>
      have entry : last.txq.entries (iwlPcieGetCmdIndex st.txq.writePtr) =
          finishEntry cmd plan (mid.txq.entries (iwlPcieGetCmdIndex st.txq.writePtr)) := by
        rw [sameTxq]
        exact setEntry_same _ _ _
      refine ⟨rfl, room, ⟨rfl, only.readPtr, only.cmdQueue, only.status, only.respPkt,
        only.entries, only.tfds⟩, congrArg iwlQueueIncWrap only.writePtr, ?_, ?_⟩
      · show (last.txq.entries _).cmdMeta.flags = _
        rw [entry]
        rfl
      · show Owned cmd (last.txq.entries _).cmdMeta
        rw [entry]
        exact owned

theorem enqueuePlanned_outcome (env : EnqueueEnv) (cmd : IwlHostCmd) (plan : HcmdPlan)
    (st : IwlTrans) (room : requiredSpace cmd ≤ iwlQueueSpace st.txq) :
    Outcome cmd st (enqueuePlanned env cmd plan st) := by
  unfold enqueuePlanned
  dsimp only
  generalize fillSlot cmd _ _ = out
  obtain ⟨started, owner⟩ := startTfd_frame cmd out st
  have mapped := mapParts_frame env cmd (iwlPcieGetCmdIndex st.txq.writePtr) (hcmdParts plan out)
    (startTfd cmd out (iwlPcieGetCmdIndex st.txq.writePtr) st) (by rw [started.writePtr]) owner
  cases parts : (hcmdParts plan out).foldlM (mapPart env (iwlPcieGetCmdIndex st.txq.writePtr))
      (startTfd cmd out (iwlPcieGetCmdIndex st.txq.writePtr) st) with
  | error mid =>
    rw [parts] at mapped
    exact (started.trans mapped).trans (OnlySlot.unmap mid)
  | ok mid =>
    rw [parts] at mapped
    exact finish_outcome env cmd plan room (started.trans mapped.1) mapped.2

/-- **A call keeps to its slot.** -/
theorem enqueue_outcome (env : EnqueueEnv) (cmd : IwlHostCmd) (st : IwlTrans) :
    Outcome cmd st (iwlPcieEnqueueHcmd env cmd st) := by
  unfold iwlPcieEnqueueHcmd
  split
  · exact OnlySlot.refl st
  · split
    · exact OnlySlot.refl st
    · split
      · exact OnlySlot.refl st
      · split
        · exact OnlySlot.refl st
        · rename_i room
          exact enqueuePlanned_outcome env cmd _ st (Nat.le_of_not_lt room)

/-- What no call changes. -/
theorem enqueue_same (env : EnqueueEnv) (cmd : IwlHostCmd) (st : IwlTrans) :
    (iwlPcieEnqueueHcmd env cmd st).2.cmdQueue = st.cmdQueue ∧
      (iwlPcieEnqueueHcmd env cmd st).2.status = st.status ∧
      (iwlPcieEnqueueHcmd env cmd st).2.respPkt = st.respPkt := by
  have outcome := enqueue_outcome env cmd st
  rcases done : iwlPcieEnqueueHcmd env cmd st with ⟨_ | _, st'⟩
  · rw [done] at outcome
    exact ⟨outcome.cmdQueue, outcome.status, outcome.respPkt⟩
  · rw [done] at outcome
    exact ⟨outcome.2.only.cmdQueue, outcome.2.only.status, outcome.2.only.respPkt⟩

end IntelWifi.Pcie
