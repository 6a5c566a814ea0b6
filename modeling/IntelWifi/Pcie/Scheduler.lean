/-
**The transmit scheduler and its memory.**

Each transmit queue has a status register, a read pointer, two words of context and four of status in the memory of the
scheduler, half a word of the map from receiver and TID to queue, and a bit in the registers for chain building and for
aggregation. The driver reaches all of it by address; `view` is what there is of one queue.

* `ScdReg.ofs_injective`, `ScdWord.ofs_injective`: no two registers share an address, and no two words of 20 queues.
* `unmapLoop_eq`: the entries that are unmapped when a queue is disabled, and when the loop over them ends.
* `view_enable`, `view_disable`, `view_start`: what each operation makes of each queue.
* `view_run`: so each queue has what its own calls gave it, in any order of calls.
* `enable_apart_iff`: from the twenty-first queue on, the context lies in the status of others.

The memory is given relative to `scd_base_addr`, the registers to `SCD_BASE`; NIC access is granted.
-/

import IntelWifi.Lib.Components

namespace IntelWifi.Pcie.Scd

open IntelWifi.Components

/-! ### Addresses -/

/-- `IWLAGN_NUM_QUEUES`. -/
def iwlagnNumQueues : Nat := 20

/-- The channels that `SCD_QUEUE_RDPTR` and `SCD_QUEUE_STATUS_BITS` are made for. -/
def scdNumChannels : Nat := 32

def scdDramBaseAddr : Nat := 0x8
def scdTxfact : Nat := 0x10
def scdQueuechainSel : Nat := 0xe8
def scdChainextEn : Nat := 0x244
def scdAggrSel : Nat := 0x248
def scdEnCtrl : Nat := 0x254

def scdQueueRdptr (chnl : Nat) : Nat := if chnl < 20 then 0x68 + chnl * 4 else 0x2B4 + chnl * 4
def scdQueueStatusBits (chnl : Nat) : Nat := if chnl < 20 then 0x10c + chnl * 4 else 0x334 + chnl * 4

def scdContextMemLowerBound : Nat := 0x600
def scdTxSttsMemLowerBound : Nat := 0x6A0
def scdTransTblMemLowerBound : Nat := 0x7E0

def scdContextQueueOffset (x : Nat) : Nat := scdContextMemLowerBound + x * 8
def scdTxSttsQueueOffset (x : Nat) : Nat := scdTxSttsMemLowerBound + x * 16
def scdTransTblOffsetQueue (x : Nat) : Nat := (scdTransTblMemLowerBound + x * 2) &&& 0xfffc

def scdQueueRaTidMapRatidMsk : UInt16 := 0x01FF
def scdQueueSttsRegMsk : UInt32 := 0x017F0000

/-- `SCD_QUEUE_STTS_REG_POS_ACTIVE`, `_TXF`, `_WSL` and `_SCD_ACT_EN`. -/
def activeBit : UInt32 := (1 : UInt32) <<< 3
def wslBit : UInt32 := (1 : UInt32) <<< 4
def actEnBit : UInt32 := (1 : UInt32) <<< 19

/-- `BIT(nr)`. -/
def bit (nr : Nat) : UInt32 := ⟨BitVec.twoPow 32 nr⟩

/-! ### The driver -/

/-- Of `struct iwl_txq`, with its bit of `queue_used`. The pointers stay below `TFD_QUEUE_SIZE_MAX`. -/
structure Txq where
  readPtr : UInt8
  writePtr : UInt8
  /-- `entries[idx].skb` is there. -/
  skb : UInt8 → Bool
  ampdu : Bool
  used : Bool

/-- The registers and the memory of the scheduler, the write index that `HBUS_TARG_WRPTR` gave each queue, and the
queues of the driver. -/
structure ScdState where
  prph : Nat → UInt32
  sram : Nat → UInt32
  targWrptr : Nat → UInt8
  txq : Nat → Txq

/-- `struct iwl_trans_txq_scd_cfg`. -/
structure TxqScdCfg where
  fifo : UInt8
  staId : UInt8
  tid : UInt8
  aggregate : Bool
  frameLimit : Int

/-- Of the transport. -/
structure ScdConfig where
  cmdQueue : Fin iwlagnNumQueues
  cmdFifo : UInt8
  scdSetActive : Bool
  mqRxSupported : Bool
  numOfQueues : Nat
  enough : iwlagnNumQueues ≤ numOfQueues ∧ numOfQueues ≤ scdNumChannels
  scdChainExtWa : Bool
  /-- `scd_bc_tbls->dma >> 10`. -/
  bcTbls : UInt32

/-- `iwl_write_prph`. -/
def ScdState.writePrph (st : ScdState) (ofs : Nat) (val : UInt32) : ScdState :=
  { st with prph := Function.update st.prph ofs val }

/-- `iwl_set_bits_prph`. -/
def ScdState.setBitsPrph (st : ScdState) (ofs : Nat) (mask : UInt32) : ScdState :=
  st.writePrph ofs (st.prph ofs ||| mask)

/-- `iwl_clear_bits_prph`. -/
def ScdState.clearBitsPrph (st : ScdState) (ofs : Nat) (mask : UInt32) : ScdState :=
  st.writePrph ofs (st.prph ofs &&& ~~~mask)

/-- `iwl_trans_write_mem32`. -/
def ScdState.writeMem32 (st : ScdState) (addr : Nat) (val : UInt32) : ScdState :=
  { st with sram := Function.update st.sram addr val }

/-- `iwl_trans_write_mem` of zeros. -/
def ScdState.clearMem (st : ScdState) (addr dwords : Nat) : ScdState :=
  { st with sram := fun a => if addr ≤ a ∧ a < addr + 4 * dwords ∧ (a - addr) % 4 = 0 then 0 else st.sram a }

def ScdState.setTxq (st : ScdState) (txqId : Nat) (txq : Txq) : ScdState :=
  { st with txq := Function.update st.txq txqId txq }

/-- `iwl_scd_txq_set_inactive`. -/
def iwlScdTxqSetInactive (txqId : Nat) (st : ScdState) : ScdState := st.writePrph (scdQueueStatusBits txqId) actEnBit

/-- A word of the map with one of its halves set. -/
def setHalf (odd : Bool) (scdQ2ratid tblDw : UInt32) : UInt32 :=
  if odd then scdQ2ratid <<< (16 : UInt32) ||| tblDw &&& (0x0000FFFF : UInt32)
  else scdQ2ratid ||| tblDw &&& (0xFFFF0000 : UInt32)

/-- `iwl_pcie_txq_set_ratid_map`. -/
def iwlPcieTxqSetRatidMap (raTid : UInt16) (txqId : Nat) (st : ScdState) : ScdState :=
  let scdQ2ratid := (raTid &&& scdQueueRaTidMapRatidMsk).toUInt32
  let tblDw := st.sram (scdTransTblOffsetQueue txqId)
  let tblDw := setHalf (txqId % 2 = 1) scdQ2ratid tblDw
  st.writeMem32 (scdTransTblOffsetQueue txqId) tblDw

/-- `BUILD_RAxTID`. -/
def buildRAxTID (staId tid : UInt8) : UInt16 := (staId.toUInt16 <<< (4 : UInt16)) + tid.toUInt16

/-- The second word of a context. -/
def contextReg2 (frameLimit : Int) : UInt32 :=
  let frameLimit : UInt32 := (UInt8.ofInt frameLimit).toUInt32
  frameLimit &&& (0x0000007F : UInt32) ||| (frameLimit <<< (16 : UInt32)) &&& (0x007F0000 : UInt32)

/-- The status bits of an active queue. -/
def activeStatus (fifo : UInt8) : UInt32 := activeBit ||| fifo.toUInt32 ||| wslBit ||| scdQueueSttsRegMsk

/-- Where the configuration begins: the queue is stopped, and chained and mapped. -/
def beginEnable (config : ScdConfig) (txqId : Nat) (cfg : TxqScdCfg) (st : ScdState) : ScdState :=
  let st := if txqId = config.cmdQueue.val ∧ config.scdSetActive then st.writePrph scdEnCtrl 0 else st
  let st := iwlScdTxqSetInactive txqId st
  let st := if txqId ≠ config.cmdQueue.val then st.setBitsPrph scdQueuechainSel (bit txqId) else st
  if cfg.aggregate then
    let st := iwlPcieTxqSetRatidMap (buildRAxTID cfg.staId cfg.tid) txqId st
    let st := st.setBitsPrph scdAggrSel (bit txqId)
    st.setTxq txqId { st.txq txqId with ampdu := true }
  else st.clearBitsPrph scdAggrSel (bit txqId)

/-- Where it ends: the read pointer, the context and the status, which activates the queue. -/
def endEnable (config : ScdConfig) (txqId : Nat) (ssn : UInt16) (cfg : TxqScdCfg) (st : ScdState) : ScdState :=
  let st := st.writePrph (scdQueueRdptr txqId) ssn.toUInt32
  let st := st.writeMem32 (scdContextQueueOffset txqId) 0
  let st := st.writeMem32 (scdContextQueueOffset txqId + 4) (contextReg2 cfg.frameLimit)
  let st := st.writePrph (scdQueueStatusBits txqId) (activeStatus cfg.fifo)
  if txqId = config.cmdQueue.val ∧ config.scdSetActive then st.writePrph scdEnCtrl (bit txqId) else st

/-- The pointers of the queue, on both sides. -/
def setPointers (txqId : Nat) (ssn : UInt16) (st : ScdState) : ScdState :=
  let st := st.setTxq txqId { st.txq txqId with readPtr := ssn.toUInt8, writePtr := ssn.toUInt8 }
  { st with targWrptr := Function.update st.targWrptr txqId ssn.toUInt8 }

/-- The write pointer would move by whole steps of `0x40`. -/
def scdBug (config : ScdConfig) (txq : Txq) (ssn : UInt16) : Bool :=
  !config.mqRxSupported && ((ssn.toNat : Int) - txq.writePtr.toNat) % 0x40 == 0 && ssn.toNat != txq.writePtr.toNat

/-- `iwl_trans_pcie_txq_enable`: `scd_bug`, and the scheduler. -/
def iwlTransPcieTxqEnable (config : ScdConfig) (txqId : Nat) (ssn : UInt16) (cfg : Option TxqScdCfg)
    (st : ScdState) : Bool × ScdState :=
  let st := st.setTxq txqId { st.txq txqId with used := true }
  match cfg with
  | some cfg =>
    let st := beginEnable config txqId cfg st
    let ssn := if cfg.aggregate then ssn else (st.txq txqId).readPtr.toUInt16
    (false, endEnable config txqId ssn cfg (setPointers txqId ssn st))
  | none =>
    let bug := scdBug config (st.txq txqId) ssn
    (bug, setPointers txqId (if bug then ssn + 1 else ssn) st)

/-- `iwl_pcie_get_cmd_index`: `n_window` is 32 for commands and 256 for frames. -/
def iwlPcieGetCmdIndex (isCmd : Bool) (index : UInt8) : UInt8 := if isCmd then index &&& 31 else index

/-- `iwl_pcie_txq_free_tfd`, of the entry. -/
def Txq.freeTfd (isCmd : Bool) (txq : Txq) : Txq :=
  { txq with skb := Function.update txq.skb (iwlPcieGetCmdIndex isCmd txq.readPtr) false }

/-- The loop of `iwl_pcie_txq_unmap`, for at most as many turns. It never gets past an entry of a queue for frames that
has no frame. -/
def unmapLoop (isCmd : Bool) : Nat → Txq → Option Txq
  | 0, _ => none
  | turns + 1, txq =>
    if txq.writePtr = txq.readPtr then some txq
    else if !isCmd && !txq.skb txq.readPtr then none
    else unmapLoop isCmd turns { txq.freeTfd isCmd with readPtr := txq.readPtr + 1 }

/-- `iwl_pcie_txq_unmap`: there are at most 255 entries between the pointers. -/
def iwlPcieTxqUnmap (isCmd : Bool) (txq : Txq) : Option Txq := unmapLoop isCmd 256 txq

/-- `iwl_trans_pcie_txq_disable`, if it returns. -/
def iwlTransPcieTxqDisable (config : ScdConfig) (txqId : Nat) (configureScd : Bool) (st : ScdState) : Option ScdState :=
  if !(st.txq txqId).used then some st
  else
    let st := st.setTxq txqId { st.txq txqId with used := false }
    let st :=
      if configureScd then (iwlScdTxqSetInactive txqId st).clearMem (scdTxSttsQueueOffset txqId) 4 else st
    (iwlPcieTxqUnmap (txqId = config.cmdQueue.val) (st.txq txqId)).map fun txq =>
      st.setTxq txqId { txq with ampdu := false }

/-- `iwl_trans_ac_txq_enable`. -/
def acTxqScdCfg (fifo : UInt8) : TxqScdCfg := ⟨fifo, 255, 8, false, 64⟩

/-- `iwl_pcie_tx_start`, of the scheduler. -/
def iwlPcieTxStart (config : ScdConfig) (st : ScdState) : ScdState :=
  let clearDwords := (scdTransTblOffsetQueue config.numOfQueues - scdContextMemLowerBound) / 4
  let st := { st with txq := fun txqId => { st.txq txqId with used := false } }
  let st := st.clearMem scdContextMemLowerBound clearDwords
  let st := st.writePrph scdDramBaseAddr config.bcTbls
  let st := if config.scdChainExtWa then st.writePrph scdChainextEn 0 else st
  let st := (iwlTransPcieTxqEnable config config.cmdQueue 0 (some (acTxqScdCfg config.cmdFifo)) st).2
  st.writePrph scdTxfact 0xff

/-! ### One queue of the scheduler -/

/-- What there is of a queue. -/
@[ext]
structure ScdQueue where
  status : UInt32
  rdptr : UInt32
  context : UInt32
  contextReg2 : UInt32
  raTid : UInt16
  stts : Fin 4 → UInt32
  chain : Bool
  agg : Bool
  targWrptr : UInt8
  txq : Txq

/-- The half of a word of the map. -/
def halfOf (odd : Bool) (word : UInt32) : UInt16 := if odd then (word >>> 16).toUInt16 else word.toUInt16

/-- **What the registers and the memory have of a queue.** -/
def ScdState.view (st : ScdState) (q : Fin iwlagnNumQueues) : ScdQueue where
  status := st.prph (scdQueueStatusBits q)
  rdptr := st.prph (scdQueueRdptr q)
  context := st.sram (scdContextQueueOffset q)
  contextReg2 := st.sram (scdContextQueueOffset q + 4)
  raTid := halfOf (q.val % 2 = 1) (st.sram (scdTransTblOffsetQueue q))
  stts := fun k => st.sram (scdTxSttsQueueOffset q + 4 * k)
  chain := (st.prph scdQueuechainSel).toBitVec.getLsbD q
  agg := (st.prph scdAggrSel).toBitVec.getLsbD q
  targWrptr := st.targWrptr q
  txq := st.txq q

/-- A queue that is enabled. -/
def ScdQueue.enabled (config : ScdConfig) (isCmd : Bool) (ssn : UInt16) (cfg : Option TxqScdCfg) (old : ScdQueue) :
    ScdQueue :=
  match cfg with
  | some cfg =>
    let ssn := if cfg.aggregate then ssn else old.txq.readPtr.toUInt16
    { old with
      status := activeStatus cfg.fifo
      rdptr := ssn.toUInt32
      context := 0
      contextReg2 := Scd.contextReg2 cfg.frameLimit
      raTid := if cfg.aggregate then buildRAxTID cfg.staId cfg.tid &&& scdQueueRaTidMapRatidMsk else old.raTid
      chain := old.chain || !isCmd
      agg := cfg.aggregate
      targWrptr := ssn.toUInt8
      txq := ⟨ssn.toUInt8, ssn.toUInt8, old.txq.skb, old.txq.ampdu || cfg.aggregate, true⟩ }
  | none =>
    let ssn := if scdBug config old.txq ssn then ssn + 1 else ssn
    { old with targWrptr := ssn.toUInt8, txq := ⟨ssn.toUInt8, ssn.toUInt8, old.txq.skb, old.txq.ampdu, true⟩ }

/-- The entries from the read pointer up to the write pointer. -/
def Txq.pending (txq : Txq) : List UInt8 :=
  (List.range (txq.writePtr - txq.readPtr).toNat).map fun i => txq.readPtr + UInt8.ofNat i

/-- A queue for frames has one in each of these. -/
def Txq.filled (isCmd : Bool) (txq : Txq) : Bool := isCmd || txq.pending.all txq.skb

/-- The queue without them. -/
def Txq.emptied (isCmd : Bool) (txq : Txq) : Txq :=
  { txq with
    readPtr := txq.writePtr
    skb := fun i => txq.skb i && !(txq.pending.map (iwlPcieGetCmdIndex isCmd)).contains i }

/-- A queue that is disabled, if its entries are filled. -/
def ScdQueue.disabled (isCmd configureScd : Bool) (old : ScdQueue) : Option ScdQueue :=
  if !old.txq.used then some old
  else if old.txq.filled isCmd then
    some { old with
      status := if configureScd then actEnBit else old.status
      stts := if configureScd then fun _ => 0 else old.stts
      txq := { old.txq.emptied isCmd with used := false, ampdu := false } }
  else none

/-- A queue whose memory is cleared. -/
def ScdQueue.cleared (old : ScdQueue) : ScdQueue :=
  { old with
    context := 0
    contextReg2 := 0
    raTid := 0
    stts := fun _ => 0
    txq := { old.txq with used := false } }

/-! ### No two share an address -/

/-- The registers of the scheduler, by what they are. -/
inductive ScdReg where
  | dramBaseAddr
  | txfact
  | queuechainSel
  | chainextEn
  | aggrSel
  | enCtrl
  | queueRdptr (chnl : Fin scdNumChannels)
  | queueStatusBits (chnl : Fin scdNumChannels)
  deriving DecidableEq

def ScdReg.ofs : ScdReg → Nat
  | .dramBaseAddr => scdDramBaseAddr
  | .txfact => scdTxfact
  | .queuechainSel => scdQueuechainSel
  | .chainextEn => scdChainextEn
  | .aggrSel => scdAggrSel
  | .enCtrl => scdEnCtrl
  | .queueRdptr chnl => scdQueueRdptr chnl
  | .queueStatusBits chnl => scdQueueStatusBits chnl

/-- The words of the scheduler's memory, by what they are. Two queues share one of the map. -/
inductive ScdWord where
  | context (q : Fin iwlagnNumQueues)
  | contextReg2 (q : Fin iwlagnNumQueues)
  | txStts (q : Fin iwlagnNumQueues) (k : Fin 4)
  | transTbl (pair : Fin 10)
  deriving DecidableEq

def ScdWord.ofs : ScdWord → Nat
  | .context q => scdContextQueueOffset q
  | .contextReg2 q => scdContextQueueOffset q + 4
  | .txStts q k => scdTxSttsQueueOffset q + 4 * k
  | .transTbl pair => scdTransTblMemLowerBound + 4 * pair

theorem scdQueueRdptr_range (chnl : Fin scdNumChannels) :
    scdQueueRdptr chnl = 0x68 + chnl * 4 ∧ chnl.val < 20 ∨ scdQueueRdptr chnl = 0x2B4 + chnl * 4 ∧ 20 ≤ chnl.val := by
  unfold scdQueueRdptr
  split
  · exact .inl ⟨rfl, ‹_›⟩
  · exact .inr ⟨rfl, Nat.le_of_not_lt ‹_›⟩

theorem scdQueueStatusBits_range (chnl : Fin scdNumChannels) :
    scdQueueStatusBits chnl = 0x10c + chnl * 4 ∧ chnl.val < 20 ∨
      scdQueueStatusBits chnl = 0x334 + chnl * 4 ∧ 20 ≤ chnl.val := by
  unfold scdQueueStatusBits
  split
  · exact .inl ⟨rfl, ‹_›⟩
  · exact .inr ⟨rfl, Nat.le_of_not_lt ‹_›⟩

/-- **No two registers share an address.** -/
theorem ScdReg.ofs_injective : Function.Injective ScdReg.ofs := by
  have channels : scdNumChannels = 32 := rfl
  intro r s same
  cases r with
  | queueRdptr c =>
    have atC := scdQueueRdptr_range c
    cases s with
    | queueRdptr d =>
      have atD := scdQueueRdptr_range d
      simp only [ofs] at same
      exact congrArg _ (Fin.ext (by omega))
    | queueStatusBits d =>
      have atD := scdQueueStatusBits_range d
      simp only [ofs] at same
      omega
    | _ =>
      simp only [ofs, scdDramBaseAddr, scdTxfact, scdQueuechainSel, scdChainextEn, scdAggrSel, scdEnCtrl] at same
      omega
  | queueStatusBits c =>
    have atC := scdQueueStatusBits_range c
    cases s with
    | queueRdptr d =>
      have atD := scdQueueRdptr_range d
      simp only [ofs] at same
      omega
    | queueStatusBits d =>
      have atD := scdQueueStatusBits_range d
      simp only [ofs] at same
      exact congrArg _ (Fin.ext (by omega))
    | _ =>
      simp only [ofs, scdDramBaseAddr, scdTxfact, scdQueuechainSel, scdChainextEn, scdAggrSel, scdEnCtrl] at same
      omega
  | _ =>
    cases s with
    | queueRdptr d =>
      have atD := scdQueueRdptr_range d
      simp only [ofs, scdDramBaseAddr, scdTxfact, scdQueuechainSel, scdChainextEn, scdAggrSel, scdEnCtrl] at same
      omega
    | queueStatusBits d =>
      have atD := scdQueueStatusBits_range d
      simp only [ofs, scdDramBaseAddr, scdTxfact, scdQueuechainSel, scdChainextEn, scdAggrSel, scdEnCtrl] at same
      omega
    | _ => first | rfl | (exfalso; revert same; decide)

/-- **No two words share an address.** -/
theorem ScdWord.ofs_injective : Function.Injective ScdWord.ofs := by
  have bases : scdContextMemLowerBound = 0x600 ∧ scdTxSttsMemLowerBound = 0x6A0 ∧ scdTransTblMemLowerBound = 0x7E0 :=
    ⟨rfl, rfl, rfl⟩
  have queues : iwlagnNumQueues = 20 := rfl
  intro w v same
  cases w with
  | context q =>
    cases v <;> simp only [ofs, scdContextQueueOffset, scdTxSttsQueueOffset] at same
    case context q' => exact congrArg _ (Fin.ext (by omega))
    all_goals omega
  | contextReg2 q =>
    cases v <;> simp only [ofs, scdContextQueueOffset, scdTxSttsQueueOffset] at same
    case contextReg2 q' => exact congrArg _ (Fin.ext (by omega))
    all_goals omega
  | txStts q k =>
    cases v <;> simp only [ofs, scdContextQueueOffset, scdTxSttsQueueOffset] at same
    case txStts q' k' =>
      have sameQueue : q = q' := Fin.ext (by omega)
      have sameWord : k = k' := Fin.ext (by omega)
      rw [sameQueue, sameWord]
    all_goals omega
  | transTbl pair =>
    cases v <;> simp only [ofs, scdContextQueueOffset, scdTxSttsQueueOffset] at same
    case transTbl pair' => exact congrArg _ (Fin.ext (by omega))
    all_goals omega

/-! ### What a write changes -/

def ScdState.reg (st : ScdState) (r : ScdReg) : UInt32 := st.prph r.ofs

def ScdState.word (st : ScdState) (w : ScdWord) : UInt32 := st.sram w.ofs

/-- The channel of a queue. -/
def channel (q : Fin iwlagnNumQueues) : Fin scdNumChannels := q.castLE (by decide)

/-- The word of the map that has a queue. -/
def pairOf (q : Fin iwlagnNumQueues) : Fin 10 := ⟨q / 2, Nat.div_lt_of_lt_mul q.isLt⟩

theorem channel_inj {q q' : Fin iwlagnNumQueues} : channel q = channel q' ↔ q = q' := by
  simp only [channel, Fin.ext_iff, Fin.val_castLE]

theorem scdTransTblOffsetQueue_eq (q : Fin iwlagnNumQueues) :
    scdTransTblOffsetQueue q = (ScdWord.transTbl (pairOf q)).ofs := by
  revert q
  decide

theorem reg_writePrph (st : ScdState) (r s : ScdReg) (val : UInt32) :
    (st.writePrph r.ofs val).reg s = if s = r then val else st.reg s := by
  simp only [ScdState.reg, ScdState.writePrph, Function.update_apply, ScdReg.ofs_injective.eq_iff]

theorem word_writeMem32 (st : ScdState) (w v : ScdWord) (val : UInt32) :
    (st.writeMem32 w.ofs val).word v = if v = w then val else st.word v := by
  simp only [ScdState.word, ScdState.writeMem32, Function.update_apply, ScdWord.ofs_injective.eq_iff]

@[simp]
theorem word_writePrph (st : ScdState) (ofs : Nat) (val : UInt32) (w : ScdWord) :
    (st.writePrph ofs val).word w = st.word w := rfl

@[simp]
theorem reg_writeMem32 (st : ScdState) (addr : Nat) (val : UInt32) (r : ScdReg) :
    (st.writeMem32 addr val).reg r = st.reg r := rfl

@[simp]
theorem txq_writePrph (st : ScdState) (ofs : Nat) (val : UInt32) : (st.writePrph ofs val).txq = st.txq := rfl

@[simp]
theorem txq_writeMem32 (st : ScdState) (addr : Nat) (val : UInt32) : (st.writeMem32 addr val).txq = st.txq := rfl

@[simp]
theorem targWrptr_writePrph (st : ScdState) (ofs : Nat) (val : UInt32) :
    (st.writePrph ofs val).targWrptr = st.targWrptr := rfl

@[simp]
theorem targWrptr_writeMem32 (st : ScdState) (addr : Nat) (val : UInt32) :
    (st.writeMem32 addr val).targWrptr = st.targWrptr := rfl

theorem view_def (st : ScdState) (q : Fin iwlagnNumQueues) :
    st.view q =
      { status := st.reg (.queueStatusBits (channel q))
        rdptr := st.reg (.queueRdptr (channel q))
        context := st.word (.context q)
        contextReg2 := st.word (.contextReg2 q)
        raTid := halfOf (q.val % 2 = 1) (st.word (.transTbl (pairOf q)))
        stts := fun k => st.word (.txStts q k)
        chain := (st.reg .queuechainSel).toBitVec.getLsbD q
        agg := (st.reg .aggrSel).toBitVec.getLsbD q
        targWrptr := st.targWrptr q
        txq := st.txq q } := by
  simp only [ScdState.view, scdTransTblOffsetQueue_eq]
  rfl

theorem getLsbD_bit (q q' : Fin iwlagnNumQueues) : (bit q).toBitVec.getLsbD q' = decide (q' = q) := by
  have inWord : q.val < 32 := Nat.lt_trans q.isLt (by decide)
  simp only [bit, BitVec.getLsbD_twoPow, inWord, decide_true, Bool.true_and, Fin.ext_iff, eq_comm]

/-- The half that is set is what is set, and the other half stays. -/
theorem halfOf_setHalf (odd odd' : Bool) (ratid : UInt16) (word : UInt32) :
    halfOf odd' (setHalf odd ratid.toUInt32 word) = if odd' = odd then ratid else halfOf odd' word := by
  apply UInt16.toBitVec_inj.mp
  apply BitVec.eq_of_getLsbD_eq
  intro i inHalf
  have masks : (0xFFFF0000#32).getLsbD (16 + i) = true ∧ (0xFFFF#32).getLsbD (16 + i) = false ∧
      (0xFFFF#16).getLsbD i = true := by
    revert i
    decide
  have inWord : 16 + i < 32 ∧ i < 32 ∧ ¬ 16 + i < 16 := by omega
  cases odd <;> cases odd' <;> simp [halfOf, setHalf, inHalf]
  case false.true => simp only [masks, implies_true]
  case true.false => exact fun _ => masks.2.2
  case true.true =>
    simp only [inWord, decide_true, Bool.true_and]
    cases word.toBitVec.getLsbD (16 + i) <;> simp [masks.2.1]

/-- What is cleared at the status of a queue. -/
theorem stts_range (q : Fin iwlagnNumQueues) (w : ScdWord) :
    (scdTxSttsQueueOffset q ≤ w.ofs ∧ w.ofs < scdTxSttsQueueOffset q + 4 * 4 ∧
        (w.ofs - scdTxSttsQueueOffset q) % 4 = 0) ↔
      ∃ k, w = .txStts q k := by
  have bases : scdContextMemLowerBound = 0x600 ∧ scdTxSttsMemLowerBound = 0x6A0 ∧ scdTransTblMemLowerBound = 0x7E0 :=
    ⟨rfl, rfl, rfl⟩
  have queues : iwlagnNumQueues = 20 := rfl
  simp only [scdTxSttsQueueOffset]
  constructor
  · rintro ⟨above, below, -⟩
    cases w with
    | context q' | contextReg2 q' =>
      simp only [ScdWord.ofs, scdContextQueueOffset] at above below
      omega
    | txStts q' k =>
      simp only [ScdWord.ofs, scdTxSttsQueueOffset] at above below
      have sameQueue : q' = q := Fin.ext (by omega)
      exact ⟨k, by rw [sameQueue]⟩
    | transTbl pair =>
      simp only [ScdWord.ofs] at above below
      omega
  · rintro ⟨k, rfl⟩
    simp only [ScdWord.ofs, scdTxSttsQueueOffset]
    omega

/-- All words are cleared when the transmit side starts. -/
theorem start_range (config : ScdConfig) (w : ScdWord) :
    scdContextMemLowerBound ≤ w.ofs ∧
      w.ofs < scdContextMemLowerBound +
        4 * ((scdTransTblOffsetQueue config.numOfQueues - scdContextMemLowerBound) / 4) ∧
      (w.ofs - scdContextMemLowerBound) % 4 = 0 := by
  have bases : scdContextMemLowerBound = 0x600 ∧ scdTxSttsMemLowerBound = 0x6A0 ∧ scdTransTblMemLowerBound = 0x7E0 :=
    ⟨rfl, rfl, rfl⟩
  have queues : iwlagnNumQueues = 20 := rfl
  have upTo : ∀ nq < 33, 20 ≤ nq → 0x808 ≤ scdTransTblOffsetQueue nq := by decide
  have upper := upTo config.numOfQueues (Nat.lt_succ_of_le config.enough.2) config.enough.1
  cases w with
  | context q =>
    simp only [ScdWord.ofs, scdContextQueueOffset]
    omega
  | contextReg2 q =>
    simp only [ScdWord.ofs, scdContextQueueOffset]
    omega
  | txStts q k =>
    simp only [ScdWord.ofs, scdTxSttsQueueOffset]
    omega
  | transTbl pair =>
    simp only [ScdWord.ofs]
    omega

/-- One queue of a table is changed. -/
def onQueue (q : Fin iwlagnNumQueues) (change : ScdQueue → ScdQueue) (table : Fin iwlagnNumQueues → ScdQueue) :
    Fin iwlagnNumQueues → ScdQueue :=
  Function.update table q (change (table q))

theorem onQueue_onQueue (q : Fin iwlagnNumQueues) (first second : ScdQueue → ScdQueue)
    (table : Fin iwlagnNumQueues → ScdQueue) :
    onQueue q second (onQueue q first table) = onQueue q (second ∘ first) table := by
  simp only [onQueue, Function.update_self, Function.update_idem, Function.comp_apply]

theorem onQueue_congr {q : Fin iwlagnNumQueues} {change change' : ScdQueue → ScdQueue}
    {table : Fin iwlagnNumQueues → ScdQueue} (same : change (table q) = change' (table q)) :
    onQueue q change table = onQueue q change' table :=
  congrArg (Function.update table q) same

@[simp]
theorem onQueue_self (q : Fin iwlagnNumQueues) (change : ScdQueue → ScdQueue)
    (table : Fin iwlagnNumQueues → ScdQueue) : onQueue q change table q = change (table q) :=
  Function.update_self q _ table

theorem onQueue_id (q : Fin iwlagnNumQueues) (table : Fin iwlagnNumQueues → ScdQueue) : onQueue q id table = table :=
  Function.update_eq_self q table

section Writes

variable (st : ScdState) (q : Fin iwlagnNumQueues)

/-- Of a register, or a word, that is of one queue only. -/
theorem view_eq_onQueue {st st' : ScdState} {q : Fin iwlagnNumQueues} {change : ScdQueue → ScdQueue}
    (here : st'.view q = change (st.view q)) (elsewhere : ∀ q', q' ≠ q → st'.view q' = st.view q') :
    st'.view = onQueue q change st.view := by
  funext q'
  by_cases same : q' = q
  · rw [same, onQueue, Function.update_self, here]
  · rw [onQueue, Function.update_of_ne same, elsewhere q' same]

theorem view_writeStatus (val : UInt32) :
    (st.writePrph (scdQueueStatusBits q) val).view = onQueue q (fun old => { old with status := val }) st.view := by
  have address : scdQueueStatusBits q = (ScdReg.queueStatusBits (channel q)).ofs := rfl
  rw [address]
  refine view_eq_onQueue ?_ fun q' other => ?_
  · simp [view_def, reg_writePrph]
  · simp [view_def, reg_writePrph, channel_inj, other]

theorem view_writeRdptr (val : UInt32) :
    (st.writePrph (scdQueueRdptr q) val).view = onQueue q (fun old => { old with rdptr := val }) st.view := by
  have address : scdQueueRdptr q = (ScdReg.queueRdptr (channel q)).ofs := rfl
  rw [address]
  refine view_eq_onQueue ?_ fun q' other => ?_
  · simp [view_def, reg_writePrph]
  · simp [view_def, reg_writePrph, channel_inj, other]

theorem view_writeContext (val : UInt32) :
    (st.writeMem32 (scdContextQueueOffset q) val).view = onQueue q (fun old => { old with context := val }) st.view := by
  have address : scdContextQueueOffset q = (ScdWord.context q).ofs := rfl
  rw [address]
  refine view_eq_onQueue ?_ fun q' other => ?_
  · simp [view_def, word_writeMem32]
  · simp [view_def, word_writeMem32, other]

theorem view_writeContextReg2 (val : UInt32) :
    (st.writeMem32 (scdContextQueueOffset q + 4) val).view =
      onQueue q (fun old => { old with contextReg2 := val }) st.view := by
  have address : scdContextQueueOffset q + 4 = (ScdWord.contextReg2 q).ofs := rfl
  rw [address]
  refine view_eq_onQueue ?_ fun q' other => ?_
  · simp [view_def, word_writeMem32]
  · simp [view_def, word_writeMem32, other]

/-- Registers that are of no queue. -/
theorem view_writeShared (r : ScdReg) (val : UInt32)
    (shared : r = .dramBaseAddr ∨ r = .txfact ∨ r = .chainextEn ∨ r = .enCtrl) :
    (st.writePrph r.ofs val).view = st.view := by
  funext q'
  obtain rfl | rfl | rfl | rfl := shared <;> simp [view_def, reg_writePrph]

theorem view_setChain :
    (st.setBitsPrph scdQueuechainSel (bit q)).view = onQueue q (fun old => { old with chain := true }) st.view := by
  change (st.writePrph ScdReg.queuechainSel.ofs (st.reg .queuechainSel ||| bit q)).view = _
  refine view_eq_onQueue ?_ fun q' other => ?_
  · simp [view_def, reg_writePrph, getLsbD_bit]
  · simp [view_def, reg_writePrph, getLsbD_bit, other]

theorem view_enableAgg :
    (st.setBitsPrph scdAggrSel (bit q)).view = onQueue q (fun old => { old with agg := true }) st.view := by
  change (st.writePrph ScdReg.aggrSel.ofs (st.reg .aggrSel ||| bit q)).view = _
  refine view_eq_onQueue ?_ fun q' other => ?_
  · simp [view_def, reg_writePrph, getLsbD_bit]
  · simp [view_def, reg_writePrph, getLsbD_bit, other]

theorem view_disableAgg :
    (st.clearBitsPrph scdAggrSel (bit q)).view = onQueue q (fun old => { old with agg := false }) st.view := by
  change (st.writePrph ScdReg.aggrSel.ofs (st.reg .aggrSel &&& ~~~bit q)).view = _
  refine view_eq_onQueue ?_ fun q' other => ?_
  · simp [view_def, reg_writePrph, getLsbD_bit]
  · have inWord : q'.val < 32 := (channel q').isLt
    have clear : (bit q).toBitVec.getLsbD q' = false := (getLsbD_bit q q').trans (decide_eq_false other)
    rw [BitVec.getLsbD_eq_getElem inWord] at clear
    simp [view_def, reg_writePrph, clear, inWord]

/-- Two queues share a word of the map, and each keeps its half. -/
theorem view_setRatidMap (raTid : UInt16) :
    (iwlPcieTxqSetRatidMap raTid q st).view =
      onQueue q (fun old => { old with raTid := raTid &&& scdQueueRaTidMapRatidMsk }) st.view := by
  simp only [iwlPcieTxqSetRatidMap, scdTransTblOffsetQueue_eq]
  change (st.writeMem32 _ (setHalf _ _ (st.word (.transTbl (pairOf q))))).view = _
  generalize raTid &&& scdQueueRaTidMapRatidMsk = scdQ2ratid
  refine view_eq_onQueue ?_ fun q' other => ?_
  · simp [view_def, word_writeMem32, halfOf_setHalf]
  · have apart : pairOf q' = pairOf q → decide (q'.val % 2 = 1) ≠ decide (q.val % 2 = 1) := by
      intro samePair sameHalf
      have quotients : q'.val / 2 = q.val / 2 := congrArg Fin.val samePair
      have remainders : q'.val % 2 = 1 ↔ q.val % 2 = 1 := decide_eq_decide.mp sameHalf
      exact other (Fin.ext (by omega))
    by_cases samePair : pairOf q' = pairOf q
    · simp [view_def, word_writeMem32, halfOf_setHalf, samePair, apart samePair]
    · simp [view_def, word_writeMem32, samePair]

theorem view_setTxq (change : Txq → Txq) :
    (st.setTxq q (change (st.txq q))).view = onQueue q (fun old => { old with txq := change old.txq }) st.view := by
  refine view_eq_onQueue ?_ fun q' other => ?_
  · simp [ScdState.view, ScdState.setTxq]
  · have apart : q'.val ≠ q.val := Fin.val_ne_of_ne other
    simp [ScdState.view, ScdState.setTxq, apart]

theorem view_writeTargWrptr (index : UInt8) :
    ({ st with targWrptr := Function.update st.targWrptr q index } : ScdState).view =
      onQueue q (fun old => { old with targWrptr := index }) st.view := by
  refine view_eq_onQueue ?_ fun q' other => ?_
  · simp [ScdState.view]
  · have apart : q'.val ≠ q.val := Fin.val_ne_of_ne other
    simp [ScdState.view, apart]

theorem view_clearStts :
    (st.clearMem (scdTxSttsQueueOffset q) 4).view = onQueue q (fun old => { old with stts := fun _ => 0 }) st.view := by
  have cleared : ∀ w, (st.clearMem (scdTxSttsQueueOffset q) 4).word w =
      if ∃ k, w = .txStts q k then 0 else st.word w := by
    intro w
    simp only [ScdState.word, ScdState.clearMem, stts_range]
  have kept : ∀ r, (st.clearMem (scdTxSttsQueueOffset q) 4).reg r = st.reg r := fun _ => rfl
  have pointers : (st.clearMem (scdTxSttsQueueOffset q) 4).targWrptr = st.targWrptr := rfl
  have queues : (st.clearMem (scdTxSttsQueueOffset q) 4).txq = st.txq := rfl
  refine view_eq_onQueue ?_ fun q' other => ?_
  · simp [view_def, cleared, kept, pointers, queues]
  · simp [view_def, cleared, kept, pointers, queues, other]

end Writes

/-! ### The entries of a queue -/

section Entries

variable {isCmd : Bool} {txq : Txq}

theorem pending_empty (done : txq.writePtr = txq.readPtr) : txq.pending = [] := by
  unfold Txq.pending
  rw [done, UInt8.sub_self]
  rfl

/-- The first entry, and those behind it. -/
theorem pending_cons (some : txq.writePtr ≠ txq.readPtr) (skb : UInt8 → Bool) :
    txq.pending = txq.readPtr :: { txq with readPtr := txq.readPtr + 1, skb := skb }.pending ∧
      (txq.writePtr - txq.readPtr).toNat = (txq.writePtr - (txq.readPtr + 1)).toNat + 1 := by
  have count : (txq.writePtr - txq.readPtr).toNat = (txq.writePtr - (txq.readPtr + 1)).toNat + 1 := by
    have apart : txq.writePtr.toNat ≠ txq.readPtr.toNat := fun same => some (UInt8.toNat_inj.mp same)
    have bounds := And.intro txq.writePtr.toNat_lt txq.readPtr.toNat_lt
    rw [UInt8.toNat_sub, UInt8.toNat_sub, UInt8.toNat_add, UInt8.toNat_one]
    omega
  refine ⟨?_, count⟩
  unfold Txq.pending
  rw [count, List.range_succ_eq_map, List.map_cons, List.map_map]
  refine congrArg₂ _ (UInt8.add_zero _) (List.map_congr_left fun i _ => ?_)
  show txq.readPtr + UInt8.ofNat (i + 1) = txq.readPtr + 1 + UInt8.ofNat i
  rw [UInt8.ofNat_add, UInt8.add_comm (UInt8.ofNat i), UInt8.add_assoc]
  rfl

/-- An entry that is freed is none of those behind it. -/
theorem not_mem_pending (some : txq.writePtr ≠ txq.readPtr) (skb : UInt8 → Bool) :
    txq.readPtr ∉ { txq with readPtr := txq.readPtr + 1, skb := skb }.pending := by
  intro member
  obtain ⟨i, below, same⟩ := List.mem_map.mp member
  have below : i < (txq.writePtr - (txq.readPtr + 1)).toNat := List.mem_range.mp below
  have count := (pending_cons some skb).2
  have few := (txq.writePtr - txq.readPtr).toNat_lt
  have around := congrArg UInt8.toNat same
  rw [UInt8.toNat_add, UInt8.toNat_add, UInt8.toNat_one, UInt8.toNat_ofNat'] at around
  have bound := txq.readPtr.toNat_lt
  omega

/-- What is to be filled is, when the first entry was. -/
theorem filled_next (some : txq.writePtr ≠ txq.readPtr) (passed : ¬ (!isCmd && !txq.skb txq.readPtr) = true) :
    { txq.freeTfd isCmd with readPtr := txq.readPtr + 1 }.filled isCmd = txq.filled isCmd := by
  cases isCmd with
  | true => rfl
  | false =>
    have here : txq.skb txq.readPtr = true := by simpa using passed
    unfold Txq.filled
    rw [(pending_cons some (txq.freeTfd false).skb).1, List.all_cons, here, Bool.true_and]
    rw [Bool.false_or, Bool.false_or, Bool.eq_iff_iff, List.all_eq_true, List.all_eq_true]
    refine forall₂_congr fun i member => ?_
    have other : i ≠ txq.readPtr := fun same => not_mem_pending some _ (same ▸ member)
    exact iff_of_eq (congrArg (· = true) (Function.update_of_ne other ..))

/-- And it makes no difference when the first entry is freed. -/
theorem emptied_next (some : txq.writePtr ≠ txq.readPtr) :
    { txq.freeTfd isCmd with readPtr := txq.readPtr + 1 }.emptied isCmd = txq.emptied isCmd := by
  unfold Txq.emptied
  rw [(pending_cons some (txq.freeTfd isCmd).skb).1]
  refine congrArg (fun skb => { txq with readPtr := txq.writePtr, skb := skb }) (funext fun i => ?_)
  rw [List.map_cons, List.contains_cons]
  show (Function.update txq.skb (iwlPcieGetCmdIndex isCmd txq.readPtr) false i && _) = _
  by_cases freed : i = iwlPcieGetCmdIndex isCmd txq.readPtr
  · subst freed
    rw [Function.update_self, beq_self_eq_true, Bool.true_or, Bool.not_true, Bool.and_false]
    rfl
  · rw [Function.update_of_ne freed, beq_eq_false_iff_ne.mpr freed, Bool.false_or]
    rfl

/-- **The entries are unmapped** when a queue for frames has one in each; else the loop does not end. -/
theorem unmapLoop_eq (isCmd : Bool) (txq : Txq) {turns : Nat} (enough : (txq.writePtr - txq.readPtr).toNat < turns) :
    unmapLoop isCmd turns txq = if txq.filled isCmd then some (txq.emptied isCmd) else none := by
  induction turns generalizing txq with
  | zero => exact absurd enough (Nat.not_lt_zero _)
  | succ turns ih =>
    unfold unmapLoop
    by_cases done : txq.writePtr = txq.readPtr
    · have none := pending_empty done
      have same : txq.emptied isCmd = txq := by
        obtain ⟨readPtr, writePtr, skb, ampdu, used⟩ := txq
        obtain rfl : writePtr = readPtr := done
        unfold Txq.emptied
        rw [none]
        simp
      rw [if_pos done, same]
      unfold Txq.filled
      rw [none]
      simp
    · rw [if_neg done]
      let next : Txq := { txq.freeTfd isCmd with readPtr := txq.readPtr + 1 }
      obtain ⟨first, count⟩ := pending_cons done next.skb
      by_cases stuck : (!isCmd && !txq.skb txq.readPtr) = true
      · rw [if_pos stuck]
        rw [Bool.and_eq_true, Bool.not_eq_true', Bool.not_eq_true'] at stuck
        unfold Txq.filled
        rw [first, List.all_cons, stuck.1, stuck.2]
        rfl
      · rw [if_neg stuck, ih next (by show (txq.writePtr - (txq.readPtr + 1)).toNat < turns; omega),
          filled_next done stuck, emptied_next done]

theorem iwlPcieTxqUnmap_eq (isCmd : Bool) (txq : Txq) :
    iwlPcieTxqUnmap isCmd txq = if txq.filled isCmd then some (txq.emptied isCmd) else none :=
  unmapLoop_eq isCmd txq (UInt8.toNat_lt _)

end Entries

/-! ### What an operation makes of a queue -/

section Operations

variable (config : ScdConfig) (st : ScdState) (q : Fin iwlagnNumQueues)

theorem view_setInactive :
    (iwlScdTxqSetInactive q st).view = onQueue q (fun old => { old with status := actEnBit }) st.view :=
  view_writeStatus st q actEnBit

theorem view_writeEnCtrl (val : UInt32) : (st.writePrph scdEnCtrl val).view = st.view :=
  view_writeShared st .enCtrl val (.inr (.inr (.inr rfl)))

/-- The queue is stopped, and the scheduler before it where the queue is for commands. -/
theorem view_stopped :
    (iwlScdTxqSetInactive q
        (if q.val = config.cmdQueue.val ∧ config.scdSetActive then st.writePrph scdEnCtrl 0 else st)).view =
      onQueue q (fun old => { old with status := actEnBit }) st.view := by
  rw [view_setInactive]
  split
  · rw [view_writeEnCtrl]
  · rfl

theorem view_chained :
    (if q.val ≠ config.cmdQueue.val then st.setBitsPrph scdQueuechainSel (bit q) else st).view =
      onQueue q (fun old => { old with chain := old.chain || decide (q ≠ config.cmdQueue) }) st.view := by
  by_cases isCmd : q = config.cmdQueue
  · simp only [isCmd, ne_eq, not_true_eq_false, if_false, decide_false, Bool.or_false]
    exact (onQueue_id _ _).symm
  · have apart : q.val ≠ config.cmdQueue.val := Fin.val_ne_of_ne isCmd
    rw [if_pos apart, view_setChain]
    simp only [ne_eq, isCmd, not_false_eq_true, decide_true, Bool.or_true]

theorem view_beginEnable (cfg : TxqScdCfg) :
    (beginEnable config q cfg st).view =
      onQueue q (fun old =>
        { old with
          status := actEnBit
          raTid := if cfg.aggregate then buildRAxTID cfg.staId cfg.tid &&& scdQueueRaTidMapRatidMsk else old.raTid
          chain := old.chain || decide (q ≠ config.cmdQueue)
          agg := cfg.aggregate
          txq := { old.txq with ampdu := old.txq.ampdu || cfg.aggregate } }) st.view := by
  obtain ⟨fifo, staId, tid, aggregate, frameLimit⟩ := cfg
  cases aggregate with
  | false =>
    simp only [beginEnable, Bool.false_eq_true, if_false]
    rw [view_disableAgg, view_chained, view_stopped, onQueue_onQueue, onQueue_onQueue]
    simp only [Bool.or_false]
    rfl
  | true =>
    simp only [beginEnable, if_true]
    rw [view_setTxq _ q fun txq => { txq with ampdu := true }, view_enableAgg, view_setRatidMap, view_chained,
      view_stopped, onQueue_onQueue, onQueue_onQueue, onQueue_onQueue, onQueue_onQueue]
    simp only [Bool.or_true]
    rfl

theorem view_endEnable (ssn : UInt16) (cfg : TxqScdCfg) :
    (endEnable config q ssn cfg st).view =
      onQueue q (fun old =>
        { old with
          status := activeStatus cfg.fifo
          rdptr := ssn.toUInt32
          context := 0
          contextReg2 := contextReg2 cfg.frameLimit }) st.view := by
  have written : ((((st.writePrph (scdQueueRdptr q) ssn.toUInt32).writeMem32 (scdContextQueueOffset q) 0).writeMem32
      (scdContextQueueOffset q + 4) (contextReg2 cfg.frameLimit)).writePrph (scdQueueStatusBits q)
        (activeStatus cfg.fifo)).view =
      onQueue q (fun old =>
        { old with
          status := activeStatus cfg.fifo
          rdptr := ssn.toUInt32
          context := 0
          contextReg2 := contextReg2 cfg.frameLimit }) st.view := by
    rw [view_writeStatus, view_writeContextReg2, view_writeContext, view_writeRdptr, onQueue_onQueue, onQueue_onQueue,
      onQueue_onQueue]
    rfl
  simp only [endEnable]
  split
  · rw [view_writeEnCtrl, written]
  · exact written

theorem view_setPointers (ssn : UInt16) :
    (setPointers q ssn st).view =
      onQueue q (fun old =>
        { old with
          targWrptr := ssn.toUInt8
          txq := { old.txq with readPtr := ssn.toUInt8, writePtr := ssn.toUInt8 } }) st.view := by
  simp only [setPointers]
  rw [view_writeTargWrptr, view_setTxq st q fun txq =>
    { txq with readPtr := ssn.toUInt8, writePtr := ssn.toUInt8 }, onQueue_onQueue]
  rfl

/-- **What enabling makes of the queues.** -/
theorem view_enable (ssn : UInt16) (cfg : Option TxqScdCfg) :
    (iwlTransPcieTxqEnable config q ssn cfg st).2.view =
      onQueue q (ScdQueue.enabled config (q = config.cmdQueue) ssn cfg) st.view := by
  have used := view_setTxq st q fun txq => { txq with used := true }
  cases cfg with
  | none =>
    have own : (st.setTxq q { st.txq q with used := true }).txq q = { st.txq q with used := true } :=
      Function.update_self _ _ _
    simp only [iwlTransPcieTxqEnable]
    rw [view_setPointers, used, onQueue_onQueue, own]
    exact onQueue_congr rfl
  | some cfg =>
    have begun := view_beginEnable config (st.setTxq q { st.txq q with used := true }) q cfg
    rw [used, onQueue_onQueue] at begun
    have own := congrArg ScdQueue.txq (congrFun begun q)
    have pointer : ((beginEnable config q cfg (st.setTxq q { st.txq q with used := true })).txq q).readPtr =
        (st.txq q).readPtr := by
      rw [onQueue_self] at own
      have readPtr := congrArg Txq.readPtr own
      exact readPtr
    simp only [iwlTransPcieTxqEnable]
    rw [view_endEnable, view_setPointers, begun, onQueue_onQueue, onQueue_onQueue, pointer]
    refine onQueue_congr ?_
    by_cases isCmd : q = config.cmdQueue
    · simp [ScdQueue.enabled, isCmd, ScdState.view]
    · simp [ScdQueue.enabled, isCmd, ScdState.view]

/-- The scheduler's side of a queue that is disabled. -/
theorem view_configureScd (configureScd : Bool) :
    (if configureScd then (iwlScdTxqSetInactive q st).clearMem (scdTxSttsQueueOffset q) 4 else st).view =
      onQueue q (fun old =>
        { old with
          status := if configureScd then actEnBit else old.status
          stts := if configureScd then fun _ => 0 else old.stts }) st.view := by
  cases configureScd with
  | false => exact (onQueue_id q st.view).symm
  | true =>
    rw [if_pos rfl, view_clearStts, view_setInactive, onQueue_onQueue]
    rfl

/-- **What disabling makes of the queues.** -/
theorem view_disable (configureScd : Bool) :
    (iwlTransPcieTxqDisable config q configureScd st).map ScdState.view =
      (ScdQueue.disabled (q = config.cmdQueue) configureScd (st.view q)).map (Function.update st.view q) := by
  have isCmd : decide (q.val = config.cmdQueue.val) = decide (q = config.cmdQueue) := by simp only [Fin.ext_iff]
  cases inUse : (st.txq q).used with
  | false =>
    have same : ScdQueue.disabled (q = config.cmdQueue) configureScd (st.view q) = some (st.view q) := by
      simp [ScdQueue.disabled, ScdState.view, inUse]
    simp only [iwlTransPcieTxqDisable, inUse, Bool.not_false, if_true]
    rw [same, Option.map_some, Option.map_some, Function.update_eq_self]
  | true =>
    simp only [iwlTransPcieTxqDisable, inUse, Bool.not_true, Bool.false_eq_true, if_false]
    have stopped := view_configureScd (st.setTxq q { st.txq q with used := false }) q configureScd
    rw [view_setTxq st q fun txq => { txq with used := false }, onQueue_onQueue] at stopped
    generalize (if configureScd then _ else _ : ScdState) = next at stopped ⊢
    have own : next.txq q = { st.txq q with used := false } := by
      have here := congrArg ScdQueue.txq (congrFun stopped q)
      rw [onQueue_self] at here
      exact here
    have filled : Txq.filled (q = config.cmdQueue) { st.txq q with used := false } =
        (st.txq q).filled (q = config.cmdQueue) := rfl
    rw [own, isCmd, iwlPcieTxqUnmap_eq, filled]
    unfold ScdQueue.disabled
    rw [show (st.view q).txq = st.txq q from rfl, inUse]
    cases (st.txq q).filled (q = config.cmdQueue) with
    | false => rfl
    | true =>
      rw [if_pos rfl, if_neg (by decide), if_pos rfl, Option.map_some, Option.map_some, Option.map_some,
        view_setTxq next q fun _ => _, stopped, onQueue_onQueue]
      rfl

/-- **What the start makes of the queues**: all are cleared, and the command queue is enabled. -/
theorem view_start :
    (iwlPcieTxStart config st).view =
      onQueue config.cmdQueue (ScdQueue.enabled config true 0 (some (acTxqScdCfg config.cmdFifo)))
        fun q => (st.view q).cleared := by
  have cleared : (({ st with txq := fun txqId => { st.txq txqId with used := false } } : ScdState).clearMem
      scdContextMemLowerBound
        ((scdTransTblOffsetQueue config.numOfQueues - scdContextMemLowerBound) / 4)).view =
      fun q => (st.view q).cleared := by
    have zeroed : ∀ w, (({ st with txq := fun txqId => { st.txq txqId with used := false } } : ScdState).clearMem
        scdContextMemLowerBound
          ((scdTransTblOffsetQueue config.numOfQueues - scdContextMemLowerBound) / 4)).word w = 0 :=
      fun w => if_pos (start_range config w)
    have halves : ∀ odd, halfOf odd 0 = 0 := by decide
    funext q'
    simp only [view_def, zeroed, halves]
    rfl
  have chainExt : ∀ st : ScdState,
      (if config.scdChainExtWa then st.writePrph scdChainextEn 0 else st).view = st.view := by
    intro st
    split
    · exact view_writeShared st .chainextEn 0 (.inr (.inr (.inl rfl)))
    · rfl
  have based : ∀ st : ScdState, (st.writePrph scdDramBaseAddr config.bcTbls).view = st.view :=
    fun st => view_writeShared st .dramBaseAddr _ (.inl rfl)
  have active : ∀ st : ScdState, (st.writePrph scdTxfact 0xff).view = st.view :=
    fun st => view_writeShared st .txfact _ (.inr (.inl rfl))
  simp only [iwlPcieTxStart]
  rw [active, view_enable, chainExt, based, cleared, decide_eq_true rfl]

end Operations

/-! ### Runs -/

/-- The calls of an op mode, the start, and what happens to a queue between them. -/
inductive ScdCall where
  | start
  | enable (q : Fin iwlagnNumQueues) (ssn : UInt16) (cfg : Option TxqScdCfg)
  | disable (q : Fin iwlagnNumQueues) (configureScd : Bool)
  /-- Entries of a queue are filled and reclaimed, and the device is told the write index. -/
  | moved (q : Fin iwlagnNumQueues) (readPtr writePtr : UInt8) (skb : UInt8 → Bool) (told : UInt8)

def step (config : ScdConfig) (st : ScdState) : ScdCall → Option ScdState
  | .start => some (iwlPcieTxStart config st)
  | .enable q ssn cfg => some (iwlTransPcieTxqEnable config q ssn cfg st).2
  | .disable q configureScd => iwlTransPcieTxqDisable config q configureScd st
  | .moved q readPtr writePtr skb told =>
    let st := st.setTxq q { st.txq q with readPtr := readPtr, writePtr := writePtr, skb := skb }
    some { st with targWrptr := Function.update st.targWrptr q told }

/-- The calls that are for a queue. -/
def ScdCall.isFor (q : Fin iwlagnNumQueues) : ScdCall → Bool
  | .start => true
  | .enable q' _ _ | .disable q' _ | .moved q' _ _ _ _ => q = q'

/-- What a call that is for a queue makes of it. -/
def ScdCall.own (config : ScdConfig) (q : Fin iwlagnNumQueues) (old : ScdQueue) : ScdCall → Option ScdQueue
  | .start =>
    some <| if q = config.cmdQueue then old.cleared.enabled config true 0 (some (acTxqScdCfg config.cmdFifo))
      else old.cleared
  | .enable _ ssn cfg => some (old.enabled config (q = config.cmdQueue) ssn cfg)
  | .disable _ configureScd => old.disabled (q = config.cmdQueue) configureScd
  | .moved _ readPtr writePtr skb told =>
    some { old with
      targWrptr := told
      txq := { old.txq with readPtr := readPtr, writePtr := writePtr, skb := skb } }

/-- A call does to each queue its own. -/
theorem view_step (config : ScdConfig) (st : ScdState) (call : ScdCall) :
    Together (fun q => ownStep (ScdCall.isFor q) (ScdCall.own config q) (st.view q) call)
      ((step config st call).map ScdState.view) := by
  have ofOne {q : Fin iwlagnNumQueues} {new : Option ScdQueue} {call : ScdCall}
      (mine : ∀ q', ScdCall.isFor q' call = decide (q' = q)) (does : ScdCall.own config q (st.view q) call = new) :
      Together (fun q => ownStep (ScdCall.isFor q) (ScdCall.own config q) (st.view q) call)
        (new.map (Function.update st.view q)) := by
    refine together_update ?_ fun q' other => ?_
    · unfold ownStep
      rw [mine, decide_eq_true rfl, if_pos rfl, does]
    · unfold ownStep
      rw [mine, decide_eq_false other, if_neg Bool.false_ne_true]
  cases call with
  | start =>
    intro q
    simp only [ownStep, view_start, ScdCall.isFor, ScdCall.own, if_true]
    by_cases isCmd : q = config.cmdQueue
    · rw [if_pos isCmd, isCmd, onQueue_self]
    · rw [if_neg isCmd, onQueue, Function.update_of_ne isCmd]
  | enable q ssn cfg =>
    unfold step
    rw [Option.map_some, view_enable]
    exact @ofOne q (some _) _ (fun _ => rfl) rfl
  | disable q configureScd =>
    unfold step
    rw [view_disable]
    exact ofOne (fun _ => rfl) rfl
  | moved q readPtr writePtr skb told =>
    unfold step
    dsimp only
    rw [Option.map_some, view_writeTargWrptr, view_setTxq st q fun txq =>
      { txq with readPtr := readPtr, writePtr := writePtr, skb := skb }, onQueue_onQueue]
    exact @ofOne q (some _) _ (fun _ => rfl) rfl

/-- **Each queue has what its own calls gave it**: for any calls in any order, the registers and the memory have of a
queue what the calls that are for it, alone, make of what they had; and a call does not return just when one of a
queue's own does not. -/
theorem view_run (config : ScdConfig) (st : ScdState) (calls : List ScdCall) :
    Together (fun q => Machine.run (ScdCall.own config q) (st.view q) (calls.filter (ScdCall.isFor q)))
      ((Machine.run (step config) st calls).map ScdState.view) :=
  together_run (view_step config) st calls

/-! ### More queues than the memory has room for -/

/-- The first word of the context is cleared, wherever it lies. -/
theorem endEnable_context (config : ScdConfig) (txqId : Nat) (ssn : UInt16) (cfg : TxqScdCfg) (st : ScdState) :
    (endEnable config txqId ssn cfg st).sram (scdContextQueueOffset txqId) = 0 := by
  simp only [endEnable]
  split <;> simp [ScdState.writePrph, ScdState.writeMem32]

/-- **The context of a twenty-first queue lies in the status of others**: a queue that is configured leaves every other
as it is, whatever the state, exactly when it is one of the twenty. -/
theorem enable_apart_iff (config : ScdConfig) (txqId : Nat) (ssn : UInt16) (cfg : TxqScdCfg)
    (known : txqId < scdNumChannels) :
    (∀ (st : ScdState) (q : Fin iwlagnNumQueues), q.val ≠ txqId →
        (iwlTransPcieTxqEnable config txqId ssn (some cfg) st).2.view q = st.view q) ↔
      txqId < iwlagnNumQueues := by
  constructor
  · intro apart
    by_contra beyond
    have bounds : 20 ≤ txqId ∧ txqId < 32 := ⟨Nat.le_of_not_lt beyond, known⟩
    -- the word of the status that the context falls into
    let q : Fin iwlagnNumQueues := ⟨(txqId - 20) / 2, by simp only [iwlagnNumQueues]; omega⟩
    let k : Fin 4 := ⟨2 * (txqId % 2), by omega⟩
    let ones : ScdState := ⟨fun _ => 0, fun _ => 1, fun _ => 0, fun _ => ⟨0, 0, fun _ => false, false, false⟩⟩
    have falls : scdTxSttsQueueOffset q + 4 * k = scdContextQueueOffset txqId := by
      simp only [scdTxSttsQueueOffset, scdContextQueueOffset, scdTxSttsMemLowerBound, scdContextMemLowerBound, q, k]
      omega
    have other : q.val ≠ txqId := by
      simp only [q]
      omega
    have kept := congrFun (congrArg ScdQueue.stts (apart ones q other)) k
    have cleared : ((iwlTransPcieTxqEnable config txqId ssn (some cfg) ones).2.view q).stts k = 0 := by
      simp only [ScdState.view, falls]
      exact endEnable_context config txqId _ cfg _
    have one : (ones.view q).stts k = 1 := rfl
    rw [cleared, one] at kept
    exact absurd kept (by decide)
  · intro within st q other
    have apart : q ≠ ⟨txqId, within⟩ := fun same => other (congrArg Fin.val same)
    have views := congrFun (view_enable config st ⟨txqId, within⟩ ssn (some cfg)) q
    rw [views, onQueue, Function.update_of_ne apart]

end IntelWifi.Pcie.Scd
