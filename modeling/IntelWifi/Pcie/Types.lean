/-
**The command queue and what it holds.**

The ring has 256 indices and a descriptor (TFD) for each, but only 32 command slots: an index uses
the slot that is its remainder. An index is a `RingIndex` and a slot a `Slot`, so neither can be out
of its table; a slot's buffer is a `IwlDeviceCmd`, which always has the 324 bytes of the C
structure.
-/

import IntelWifi.Lib.Memory
import IntelWifi.Pcie.RxFrames

namespace IntelWifi.Pcie

open IntelWifi.Memory

/-- `TFD_QUEUE_SIZE_MAX`. -/
def tfdQueueSizeMax : Nat := 256

/-- `TFD_CMD_SLOTS`, which is `n_window` of the command queue. -/
def tfdCmdSlots : Nat := 32

/-- `IWL_NUM_OF_TBS`, which is `max_tbs` without TFH. -/
def iwlNumOfTbs : Nat := 20

/-- `IWL_FIRST_TB_SIZE`. -/
def iwlFirstTbSize : Nat := 20

/-- `sizeof(struct iwl_pcie_first_tb_buf)`: aligned to `IWL_FIRST_TB_SIZE_ALIGN`. -/
def firstTbBufSize : Nat := 64

/-- `TFD_MAX_PAYLOAD_SIZE`, which is `sizeof(struct iwl_device_cmd)`. -/
def tfdMaxPayloadSize : Nat := 324

/-- `IWL_ALWAYS_LONG_GROUP`. -/
def iwlAlwaysLongGroup : Nat := 1

abbrev RingIndex := Fin tfdQueueSizeMax

abbrev Slot := Fin tfdCmdSlots

instance : NeZero tfdQueueSizeMax := ⟨by decide⟩

instance : NeZero tfdCmdSlots := ⟨by decide⟩

/-! ### Commands -/

/-- `data[i]`, `len[i]` and `dataflags[i]` of a host command. `len` is a `u16`. -/
structure IwlFragment where
  data : List UInt8
  len_lt : data.length < 2 ^ 16
  nocopy : Bool
  dup : Bool

/-- The second fragment of most commands. -/
theorem nil_short : ([] : List UInt8).length < 2 ^ 16 := by decide

/-- The flags `CMD_*`. -/
structure CmdFlags where
  async : Bool
  wantSkb : Bool
  sendInRfkill : Bool
  highPrio : Bool
  sendInIdle : Bool
  makeTransIdle : Bool
  wakeUpTrans : Bool
  wantAsyncCallback : Bool
  deriving DecidableEq, Repr

/-- No flag is set. -/
def CmdFlags.none : CmdFlags := ⟨false, false, false, false, false, false, false, false⟩

/-- `struct iwl_host_cmd`. `ptr` is its address, which the slot keeps when a response is wanted. -/
structure IwlHostCmd where
  ptr : Nat
  id : BitVec 32
  flags : CmdFlags
  first : IwlFragment
  second : IwlFragment

/-- The fragments in the order of the loops over `IWL_MAX_CMD_TBS_PER_TFD`. -/
def IwlHostCmd.fragments (cmd : IwlHostCmd) : List IwlFragment := [cmd.first, cmd.second]

/-! ### Slots -/

/-- The buffer of a slot, `struct iwl_device_cmd`. -/
structure IwlDeviceCmd where
  bytes : List UInt8
  length_eq : bytes.length = tfdMaxPayloadSize
  deriving DecidableEq

/-- `struct iwl_dma_ptr`: its bus address and its size. -/
structure IwlDmaPtr where
  dma : Nat
  size : Nat
  deriving DecidableEq, Repr

/-- `struct iwl_cmd_meta`. `source` is the host command that wants the response. -/
structure IwlCmdMeta where
  source : Option Nat
  flags : CmdFlags
  dma : List (Option IwlDmaPtr)
  deriving DecidableEq

/-- After `memset(out_meta, 0, sizeof(*out_meta))`. -/
def IwlCmdMeta.zero : IwlCmdMeta := ⟨none, .none, [none, none, none]⟩

/-- `struct iwl_pcie_txq_entry` of the command queue. `freeBuf` is the address of the copy that a
DUP fragment made. -/
structure IwlPcieTxqEntry where
  cmd : IwlDeviceCmd
  freeBuf : Option Nat
  cmdMeta : IwlCmdMeta
  deriving DecidableEq

/-! ### Descriptors -/

/-- `struct iwl_tfd_tb`: the low half of the address, and its high bits with the length. -/
structure IwlTfdTb where
  lo : Nat
  hiNLen : Nat
  deriving DecidableEq, Repr

/-- `struct iwl_tfd`. -/
structure IwlTfd where
  numTbs : Nat
  tbs : List IwlTfdTb
  deriving DecidableEq, Repr

/-- After `memset(tfd, 0, trans_pcie->tfd_size)`. -/
def IwlTfd.zero : IwlTfd := ⟨0, List.replicate iwlNumOfTbs ⟨0, 0⟩⟩

/-! ### The transport -/

/-- `struct iwl_txq`. `firstTbDma` is the bus address of the first-TB buffers. -/
structure IwlTxq where
  writePtr : RingIndex
  readPtr : RingIndex
  entries : Slot → IwlPcieTxqEntry
  tfds : RingIndex → IwlTfd
  firstTbDma : Nat

/-- The bits of `trans->status` that the command path looks at. -/
structure TransStatus where
  syncHcmdActive : Bool
  fwError : Bool
  rfkillHw : Bool
  rfkillOpmode : Bool
  transIdle : Bool
  deriving DecidableEq, Repr

/-- The transport, as the command path sees it: its command queue `txq`, the memory the device
reads, and `respPkt`, the field of that name of the host command at an address. -/
structure IwlTrans where
  txq : IwlTxq
  cmdQueue : Fin 32
  wideCmdHeader : Bool
  apmgWakeUpWa : Bool
  refCmdInFlight : Bool
  cmdHoldNicAwake : Bool
  status : TransStatus
  memory : Ram
  respPkt : Nat → Option RxPacket

/-- An entry as allocated: `iwh_zalloc` clears it. -/
def IwlPcieTxqEntry.zero : IwlPcieTxqEntry :=
  ⟨⟨List.replicate tfdMaxPayloadSize 0, List.length_replicate⟩, none, .zero⟩

/-- The command queue after `iwl_pcie_txq_init`. -/
def IwlTxq.init (firstTbDma : Nat) : IwlTxq :=
  ⟨0, 0, fun _ => .zero, fun _ => .zero, firstTbDma⟩

/-- The transport with an empty command queue and no status bit set. -/
def IwlTrans.init (cmdQueue : Fin 32) (wideCmdHeader apmgWakeUpWa : Bool) (firstTbDma : Nat) :
    IwlTrans where
  txq := .init firstTbDma
  cmdQueue := cmdQueue
  wideCmdHeader := wideCmdHeader
  apmgWakeUpWa := apmgWakeUpWa
  refCmdInFlight := false
  cmdHoldNicAwake := false
  status := ⟨false, false, false, false, false⟩
  memory := fun _ => 0
  respPkt := fun _ => none

/-- The queue with another entry in a slot. -/
def IwlTxq.setEntry (txq : IwlTxq) (slot : Slot) (entry : IwlPcieTxqEntry) : IwlTxq :=
  { txq with entries := fun s => if s = slot then entry else txq.entries s }

/-- The queue with another descriptor at an index. -/
def IwlTxq.setTfd (txq : IwlTxq) (index : RingIndex) (tfd : IwlTfd) : IwlTxq :=
  { txq with tfds := fun i => if i = index then tfd else txq.tfds i }

/-! ### Updates of one entry or one descriptor -/

section Updates

variable (txq : IwlTxq) (slot : Slot) (entry : IwlPcieTxqEntry) (index : RingIndex) (tfd : IwlTfd)

@[simp] theorem setEntry_writePtr : (txq.setEntry slot entry).writePtr = txq.writePtr := rfl

@[simp] theorem setEntry_readPtr : (txq.setEntry slot entry).readPtr = txq.readPtr := rfl

@[simp] theorem setEntry_tfds : (txq.setEntry slot entry).tfds = txq.tfds := rfl

@[simp] theorem setEntry_firstTbDma : (txq.setEntry slot entry).firstTbDma = txq.firstTbDma := rfl

@[simp] theorem setEntry_same : (txq.setEntry slot entry).entries slot = entry := if_pos rfl

theorem setEntry_other {other : Slot} (differ : other ≠ slot) :
    (txq.setEntry slot entry).entries other = txq.entries other := if_neg differ

@[simp] theorem setTfd_writePtr : (txq.setTfd index tfd).writePtr = txq.writePtr := rfl

@[simp] theorem setTfd_readPtr : (txq.setTfd index tfd).readPtr = txq.readPtr := rfl

@[simp] theorem setTfd_entries : (txq.setTfd index tfd).entries = txq.entries := rfl

@[simp] theorem setTfd_firstTbDma : (txq.setTfd index tfd).firstTbDma = txq.firstTbDma := rfl

@[simp] theorem setTfd_same : (txq.setTfd index tfd).tfds index = tfd := if_pos rfl

theorem setTfd_other {other : RingIndex} (differ : other ≠ index) :
    (txq.setTfd index tfd).tfds other = txq.tfds other := if_neg differ

end Updates

end IntelWifi.Pcie
