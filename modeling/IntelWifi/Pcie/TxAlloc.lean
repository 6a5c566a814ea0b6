/-
**Failing to allocate the TX queues.**

`iwl_pcie_tx_alloc` with one allocation that fails. All other memory is that of `Heap`: a block is named
by the allocation that makes it. `iwl_pcie_txq_unmap` and `free_buf` have nothing to release here, since
the queues are as `iwh_zalloc` left them.
-/

import IntelWifi.Lib.Checked
import IntelWifi.Lib.Heap

namespace IntelWifi.Pcie.TxAlloc

open IntelWifi.Heap
open IntelWifi.Checked (bind_eq_ok foldlM_does)

/-- What is allocated: the byte-count tables, the keep-warm buffer, `txq_memory`; of each queue its
`entries`, its `tfds` and its `first_tb_bufs`; and the commands of the command queue. -/
inductive Block where
  | scdBcTbls
  | kw
  | txqMemory
  | entries (txqId : Nat)
  | cmd (i : Nat)
  | tfds (txqId : Nat)
  | firstTb (txqId : Nat)
  deriving DecidableEq

/-- How `allocate_dma_buf` fails: the segments cannot be generated, and it returns NULL; or one of its
objects is not allocated, and it uses it all the same. -/
inductive DmaFailure where
  | noSegments
  | noObject
  deriving DecidableEq

/-- The allocation that fails. -/
inductive Failure where
  | zalloc (block : Block)
  | dma (block : Block) (how : DmaFailure)
  deriving DecidableEq

/-- `struct iwl_txq`. `cmd` are the `entries[i].cmd`, in the block of `entries`. -/
structure IwlTxq where
  nWindow : Nat
  entries : Pointer Block
  cmd : Nat → Pointer Block
  tfdsDmaPtr : Pointer Block
  hasTfds : Bool
  firstTbDmaPtr : Pointer Block

/-- A queue as it is zeroed. -/
def IwlTxq.zero : IwlTxq := ⟨0, none, fun _ => none, none, false, none⟩

/-- The transport: which `txq[txq_id]` point to the queues in `txq_memory`, and those. -/
structure IwlTransPcie where
  heap : Blocks Block
  scdBcTbls : Pointer Block
  kw : Pointer Block
  txqMemory : Pointer Block
  txq : Nat → Bool
  queue : Nat → IwlTxq

/-- The transport as it is allocated. -/
def IwlTransPcie.zero : IwlTransPcie := ⟨fun _ => .fresh, none, none, none, fun _ => false, fun _ => .zero⟩

/-- `TFD_CMD_SLOTS`. -/
def tfdCmdSlots : Nat := 32

/-- `TFD_TX_CMD_SLOTS`. -/
def tfdTxCmdSlots : Nat := 256

/-- Fields of a queue are written. -/
def IwlTransPcie.modifyQueue (st : IwlTransPcie) (txqId : Nat) (write : IwlTxq → IwlTxq) : IwlTransPcie :=
  { st with queue := Function.update st.queue txqId (write (st.queue txqId)) }

/-! ### Allocating and releasing -/

/-- `iwh_zalloc`. -/
def iwhZalloc (failure : Failure) (block : Block) (st : IwlTransPcie) : Pointer Block × IwlTransPcie :=
  if failure = .zalloc block then (none, st) else (some block, { st with heap := allocate st.heap block })

/-- `iwh_free`. -/
def iwhFree (pointer : Pointer Block) (st : IwlTransPcie) : Except Fault IwlTransPcie :=
  (release st.heap pointer).map fun heap => { st with heap := heap }

/-- `allocate_dma_buf`. Its callers' `iwl_pcie_alloc_dma_ptr` always has a NULL to put it in. -/
def allocateDmaBuf (failure : Failure) (block : Block) (st : IwlTransPcie) :
    Except Fault (Pointer Block × IwlTransPcie) :=
  if failure = .dma block .noObject then .error .null
  else if failure = .dma block .noSegments then .ok (none, st)
  else .ok (some block, { st with heap := allocate st.heap block })

/-- `free_dma_buf`. -/
def freeDmaBuf (pointer : Pointer Block) (st : IwlTransPcie) : Except Fault IwlTransPcie := do
  access st.heap pointer
  iwhFree pointer st

/-- `iwl_pcie_free_dma_ptr`, which reads `addr` first. -/
def iwlPcieFreeDmaPtr (pointer : Pointer Block) (st : IwlTransPcie) : Except Fault IwlTransPcie := do
  access st.heap pointer
  freeDmaBuf pointer st

/-! ### `iwl_pcie_txq_alloc` -/

/-- One turn of the loop that frees the commands. -/
def freeCmd (txqId : Nat) (st : IwlTransPcie) (i : Nat) : Except Fault IwlTransPcie := do
  access st.heap (st.queue txqId).entries
  iwhFree ((st.queue txqId).cmd i) st

/-- The loop that frees the commands. -/
def freeCmds (txqId n : Nat) (st : IwlTransPcie) : Except Fault IwlTransPcie :=
  (List.range n).foldlM (freeCmd txqId) st

/-- From the label `error` on. -/
def txqAllocError (txqId slotsNum : Nat) (cmdQueue : Bool) (st : IwlTransPcie) :
    Except Fault IwlTransPcie := do
  let st ← (if (st.queue txqId).entries.isSome && cmdQueue then freeCmds txqId slotsNum st else .ok st)
  let st ← iwhFree (st.queue txqId).entries st
  return st.modifyQueue txqId fun txq => { txq with entries := none }

/-- The loop that allocates the commands: whether it ends. -/
def allocCmds (failure : Failure) (txqId : Nat) : List Nat → IwlTransPcie → Bool × IwlTransPcie
  | [], st => (true, st)
  | i :: later, st =>
    let (cmd, st) := iwhZalloc failure (.cmd i) st
    let st := st.modifyQueue txqId fun txq => { txq with cmd := Function.update txq.cmd i cmd }
    if cmd.isNone then (false, st) else allocCmds failure txqId later st

/-- The part of `iwl_pcie_txq_alloc` for DMA memory. The result says whether it succeeds. -/
def allocTfds (failure : Failure) (txqId slotsNum : Nat) (cmdQueue : Bool) (st : IwlTransPcie) :
    Except Fault (Bool × IwlTransPcie) := do
  let (tfdsDma, st) ← allocateDmaBuf failure (.tfds txqId) st
  if tfdsDma.isNone then
    return (false, ← txqAllocError txqId slotsNum cmdQueue st)
  else
    let st := st.modifyQueue txqId fun txq => { txq with tfdsDmaPtr := tfdsDma, hasTfds := true }
    let (firstTbBufsDma, st) ← allocateDmaBuf failure (.firstTb txqId) st
    if firstTbBufsDma.isNone then
      let st ← freeDmaBuf (st.queue txqId).tfdsDmaPtr st
      return (false, ← txqAllocError txqId slotsNum cmdQueue st)
    else
      return (true, st.modifyQueue txqId fun txq => { txq with firstTbDmaPtr := firstTbBufsDma })

/-- `iwl_pcie_txq_alloc`. -/
def iwlPcieTxqAlloc (failure : Failure) (txqId slotsNum : Nat) (cmdQueue : Bool) (st : IwlTransPcie) :
    Except Fault (Bool × IwlTransPcie) := do
  if (st.queue txqId).entries.isSome || (st.queue txqId).hasTfds then return (false, st)
  else
    let (entries, st) := iwhZalloc failure (.entries txqId) st
    let st := st.modifyQueue txqId fun txq =>
      { txq with nWindow := slotsNum, entries := entries, cmd := fun _ => none }
    if entries.isNone then
      return (false, ← txqAllocError txqId slotsNum cmdQueue st)
    else
      let (ended, st) := if cmdQueue then allocCmds failure txqId (List.range slotsNum) st else (true, st)
      if !ended then return (false, ← txqAllocError txqId slotsNum cmdQueue st)
      else allocTfds failure txqId slotsNum cmdQueue st

/-! ### `iwl_pcie_tx_free` -/

/-- What `iwl_pcie_txq_free` does if there are `tfds`. -/
def freeTfds (txqId : Nat) (st : IwlTransPcie) : Except Fault IwlTransPcie := do
  let st ← freeDmaBuf (st.queue txqId).tfdsDmaPtr st
  freeDmaBuf (st.queue txqId).firstTbDmaPtr st

/-- `iwl_pcie_txq_free`. -/
def iwlPcieTxqFree (cmdQueue txqId : Nat) (st : IwlTransPcie) : Except Fault IwlTransPcie := do
  if !st.txq txqId then return st
  else
    let st ← (if txqId = cmdQueue then freeCmds txqId (st.queue txqId).nWindow st else .ok st)
    let st ← (if (st.queue txqId).hasTfds then freeTfds txqId st else .ok st)
    let st ← iwhFree (st.queue txqId).entries st
    return st.modifyQueue txqId fun _ => .zero

/-- One turn of the loop of `iwl_pcie_tx_free`. -/
def freeQueue (cmdQueue : Nat) (st : IwlTransPcie) (txqId : Nat) : Except Fault IwlTransPcie := do
  let st ← iwlPcieTxqFree cmdQueue txqId st
  return { st with txq := Function.update st.txq txqId false }

/-- `iwl_pcie_tx_free` after its loop. -/
def freeRest (st : IwlTransPcie) : Except Fault IwlTransPcie := do
  let st ← iwhFree st.txqMemory st
  let st := { st with txqMemory := none }
  let st ← iwlPcieFreeDmaPtr st.kw st
  iwlPcieFreeDmaPtr st.scdBcTbls st

/-- `iwl_pcie_tx_free`. -/
def iwlPcieTxFree (numOfQueues cmdQueue : Nat) (st : IwlTransPcie) : Except Fault IwlTransPcie := do
  let st ← (if st.txqMemory.isSome then (List.range numOfQueues).foldlM (freeQueue cmdQueue) st else .ok st)
  freeRest st

/-! ### `iwl_pcie_tx_alloc` -/

/-- The loop that allocates the queues: whether it ends. -/
def allocQueues (failure : Failure) (cmdQueue : Nat) :
    List Nat → IwlTransPcie → Except Fault (Bool × IwlTransPcie)
  | [], st => .ok (true, st)
  | txqId :: later, st => do
    let slotsNum := if txqId = cmdQueue then tfdCmdSlots else tfdTxCmdSlots
    let st := { st with txq := Function.update st.txq txqId true }
    let (ended, st) ← iwlPcieTxqAlloc failure txqId slotsNum (txqId = cmdQueue) st
    if ended then allocQueues failure cmdQueue later st else return (false, st)

/-- `iwl_pcie_tx_alloc` up to its label `error`: whether it gets there. -/
def txAllocUntilError (failure : Failure) (numOfQueues cmdQueue : Nat) (st : IwlTransPcie) :
    Except Fault (Bool × IwlTransPcie) := do
  if st.txqMemory.isSome then return (false, st)
  else
    let (scdBcTbls, st) ← allocateDmaBuf failure .scdBcTbls st
    let st := { st with scdBcTbls := scdBcTbls }
    if scdBcTbls.isNone then return (false, st)
    else
      let (kw, st) ← allocateDmaBuf failure .kw st
      let st := { st with kw := kw }
      if kw.isNone then return (false, st)
      else
        let (txqMemory, st) := iwhZalloc failure .txqMemory st
        let st := { st with txqMemory := txqMemory, queue := fun _ => .zero }
        if txqMemory.isNone then return (false, st)
        else allocQueues failure cmdQueue (List.range numOfQueues) st

/-- `iwl_pcie_tx_alloc`: whether it succeeds. -/
def iwlPcieTxAlloc (failure : Failure) (numOfQueues cmdQueue : Nat) (st : IwlTransPcie) :
    Except Fault (Bool × IwlTransPcie) := do
  let (ended, st) ← txAllocUntilError failure numOfQueues cmdQueue st
  if ended then return (true, st)
  else return (false, ← iwlPcieTxFree numOfQueues cmdQueue st)


/-! ### What concerns one queue -/

/-- The queue a block belongs to. -/
def Block.owner (cmdQueue : Nat) : Block → Option Nat
  | .entries txqId => some txqId
  | .tfds txqId => some txqId
  | .firstTb txqId => some txqId
  | .cmd _ => some cmdQueue
  | _ => none

/-- Only this queue is touched, and its blocks. -/
structure OnlyQueue (cmdQueue txqId : Nat) (st st' : IwlTransPcie) : Prop where
  heap : ∀ block : Block, block.owner cmdQueue ≠ some txqId → st'.heap block = st.heap block
  queue : ∀ k, k ≠ txqId → st'.queue k = st.queue k
  txq : ∀ k, k ≠ txqId → st'.txq k = st.txq k
  txqMemory : st'.txqMemory = st.txqMemory
  kw : st'.kw = st.kw
  scdBcTbls : st'.scdBcTbls = st.scdBcTbls

variable {cmdQueue txqId : Nat} {st st' st'' : IwlTransPcie}

theorem OnlyQueue.refl (cmdQueue txqId : Nat) (st : IwlTransPcie) : OnlyQueue cmdQueue txqId st st :=
  ⟨fun _ _ => rfl, fun _ _ => rfl, fun _ _ => rfl, rfl, rfl, rfl⟩

theorem OnlyQueue.trans (first : OnlyQueue cmdQueue txqId st st')
    (second : OnlyQueue cmdQueue txqId st' st'') : OnlyQueue cmdQueue txqId st st'' where
  heap := fun block other => (second.heap block other).trans (first.heap block other)
  queue := fun k other => (second.queue k other).trans (first.queue k other)
  txq := fun k other => (second.txq k other).trans (first.txq k other)
  txqMemory := second.txqMemory.trans first.txqMemory
  kw := second.kw.trans first.kw
  scdBcTbls := second.scdBcTbls.trans first.scdBcTbls

theorem OnlyQueue.modifyQueue (cmdQueue txqId : Nat) (st : IwlTransPcie) (write : IwlTxq → IwlTxq) :
    OnlyQueue cmdQueue txqId st (st.modifyQueue txqId write) :=
  ⟨fun _ _ => rfl, fun _ other => Function.update_of_ne other _ _, fun _ _ => rfl, rfl, rfl, rfl⟩

/-- A block of the queue has another state. -/
theorem OnlyQueue.update {block : Block} (own : block.owner cmdQueue = some txqId) (cell : Cell) :
    OnlyQueue cmdQueue txqId st { st with heap := Function.update st.heap block cell } :=
  ⟨fun _ other => Function.update_of_ne (fun same => other (by rw [same]; exact own)) _ _,
    fun _ _ => rfl, fun _ _ => rfl, rfl, rfl, rfl⟩

@[simp] theorem modifyQueue_queue (st : IwlTransPcie) (txqId : Nat) (write : IwlTxq → IwlTxq) :
    (st.modifyQueue txqId write).queue txqId = write (st.queue txqId) := Function.update_self _ _ _

theorem modifyQueue_twice (st : IwlTransPcie) (txqId : Nat) (write write' : IwlTxq → IwlTxq) :
    (st.modifyQueue txqId write).modifyQueue txqId write' = st.modifyQueue txqId (write' ∘ write) := by
  unfold IwlTransPcie.modifyQueue
  rw [Function.update_idem]
  dsimp only
  rw [Function.update_self]
  rfl

/-! ### Releasing -/

/-- NULL, or a block that is allocated. -/
def Releasable (heap : Blocks Block) (pointer : Pointer Block) (block : Block) : Prop :=
  pointer = none ∧ heap block ≠ .live ∨ pointer = some block ∧ heap block = .live

theorem iwhFree_eq_ok {pointer : Pointer Block} (freed : iwhFree pointer st = .ok st') :
    ∃ heap, release st.heap pointer = .ok heap ∧ st' = { st with heap := heap } := by
  unfold iwhFree at freed
  cases done : release st.heap pointer with
  | error _ =>
    rw [done] at freed
    cases freed
  | ok heap =>
    rw [done] at freed
    exact ⟨heap, rfl, (Except.ok.inj freed).symm⟩

/-- **Releasing a pointer of a queue.** -/
theorem iwhFree_releasable {pointer : Pointer Block} {block : Block}
    (own : block.owner cmdQueue = some txqId) (good : Releasable st.heap pointer block) :
    ∃ st', iwhFree pointer st = .ok st' ∧ OnlyQueue cmdQueue txqId st st' ∧ st'.queue = st.queue ∧
      st'.txq = st.txq ∧ st'.heap block ≠ .live ∧ ∀ other, other ≠ block → st'.heap other = st.heap other := by
  rcases good with ⟨rfl, gone⟩ | ⟨rfl, live⟩
  · exact ⟨st, rfl, .refl _ _ _, rfl, rfl, gone, fun _ _ => rfl⟩
  · refine ⟨{ st with heap := Function.update st.heap block .freed }, ?_, .update own _, rfl, rfl, ?_, ?_⟩
    · unfold iwhFree
      rw [release_ok live]
      rfl
    · show Function.update st.heap block Cell.freed block ≠ .live
      rw [Function.update_self]
      decide
    · exact fun other differ => Function.update_of_ne differ _ _

/-- A DMA buffer that is allocated is released. -/
theorem freeDmaBuf_live {block : Block} (live : st.heap block = .live) :
    freeDmaBuf (some block) st = .ok { st with heap := Function.update st.heap block .freed } := by
  unfold freeDmaBuf iwhFree
  rw [access_ok live, release_ok live]
  rfl

/-- **The loop over the commands.** -/
theorem freeCmds_releasable (n : Nat) (entries : (st.queue cmdQueue).entries = some (.entries cmdQueue))
    (live : st.heap (.entries cmdQueue) = .live)
    (good : ∀ i < n, Releasable st.heap ((st.queue cmdQueue).cmd i) (.cmd i)) :
    ∃ st', freeCmds cmdQueue n st = .ok st' ∧ OnlyQueue cmdQueue cmdQueue st st' ∧
      st'.queue = st.queue ∧ st'.txq = st.txq ∧ (∀ i < n, st'.heap (.cmd i) ≠ .live) ∧
      ∀ block, (∀ i < n, block ≠ .cmd i) → st'.heap block = st.heap block := by
  induction n with
  | zero =>
    exact ⟨st, rfl, .refl _ _ _, rfl, rfl, fun i none => absurd none (Nat.not_lt_zero i),
      fun _ _ => rfl⟩
  | succ n ih =>
    obtain ⟨mid, went, only, queue, txq, gone, same⟩ := ih fun i less => good i (Nat.lt_succ_of_lt less)
    have still : mid.heap (.cmd n) = st.heap (.cmd n) :=
      same _ fun i less equal => absurd (Block.cmd.inj equal) (Nat.ne_of_gt less)
    have entriesLive : mid.heap (.entries cmdQueue) = .live :=
      (same _ fun _ _ equal => Block.noConfusion equal).trans live
    have next : Releasable mid.heap ((mid.queue cmdQueue).cmd n) (.cmd n) := by
      unfold Releasable
      rw [still, queue]
      exact good n (Nat.lt_succ_self n)
    obtain ⟨last, freed, only', queue', txq', gone', same'⟩ :=
      @iwhFree_releasable cmdQueue cmdQueue mid _ _ rfl next
    refine ⟨last, ?_, only.trans only', queue'.trans queue, txq'.trans txq, ?_, ?_⟩
    · unfold freeCmds at went ⊢
      rw [List.range_succ, List.foldlM_append, went]
      show freeCmd cmdQueue mid n >>= pure = _
      unfold freeCmd
      rw [queue, entries, access_ok entriesLive, ← queue]
      show iwhFree ((mid.queue cmdQueue).cmd n) mid >>= pure = _
      rw [freed]
      rfl
    · intro i less
      rcases Nat.lt_succ_iff_lt_or_eq.mp less with before | rfl
      · rw [same' _ fun equal => absurd (Block.cmd.inj equal) (Nat.ne_of_lt before)]
        exact gone i before
      · exact gone'
    · intro block other
      rw [same' block (other n (Nat.lt_succ_self n))]
      exact same block fun i less => other i (Nat.lt_succ_of_lt less)


/-! ### A queue is freed -/

/-- Nothing of the queue is allocated. -/
def Gone (cmdQueue txqId : Nat) (heap : Blocks Block) : Prop :=
  ∀ block : Block, block.owner cmdQueue = some txqId → heap block ≠ .live

/-- The queue has all its memory. -/
structure Complete (cmdQueue txqId : Nat) (st : IwlTransPcie) : Prop where
  entries : (st.queue txqId).entries = some (.entries txqId)
  entriesLive : st.heap (.entries txqId) = .live
  hasTfds : (st.queue txqId).hasTfds = true
  tfds : (st.queue txqId).tfdsDmaPtr = some (.tfds txqId)
  tfdsLive : st.heap (.tfds txqId) = .live
  firstTb : (st.queue txqId).firstTbDmaPtr = some (.firstTb txqId)
  firstTbLive : st.heap (.firstTb txqId) = .live
  nWindow : txqId = cmdQueue → (st.queue txqId).nWindow = tfdCmdSlots
  cmds : txqId = cmdQueue → ∀ i < tfdCmdSlots,
    (st.queue txqId).cmd i = some (.cmd i) ∧ st.heap (.cmd i) = .live
  further : txqId = cmdQueue → ∀ i ≥ tfdCmdSlots, st.heap (.cmd i) ≠ .live

/-- Queues whose freeing goes well: without a structure, complete, or bare of everything. -/
inductive Freeable (cmdQueue txqId : Nat) (st : IwlTransPcie) : Prop
  | absent (missing : st.txq txqId = false) (gone : Gone cmdQueue txqId st.heap)
  | complete (there : st.txq txqId = true) (all : Complete cmdQueue txqId st)
  | bare (data : txqId ≠ cmdQueue) (entries : (st.queue txqId).entries = none)
      (hasTfds : (st.queue txqId).hasTfds = false) (gone : Gone cmdQueue txqId st.heap)

theorem Gone.only {other : Nat} (differ : txqId ≠ other) (only : OnlyQueue cmdQueue other st st')
    (gone : Gone cmdQueue txqId st.heap) : Gone cmdQueue txqId st'.heap := by
  intro block own
  rw [only.heap block fun same => differ (Option.some.inj (own.symm.trans same))]
  exact gone block own

/-- Another queue's memory does not matter. -/
theorem Complete.only {other : Nat} (differ : txqId ≠ other) (only : OnlyQueue cmdQueue other st st')
    (all : Complete cmdQueue txqId st) : Complete cmdQueue txqId st' := by
  have heap (block : Block) (own : block.owner cmdQueue = some txqId) : st'.heap block = st.heap block :=
    only.heap block fun same => differ (Option.some.inj (own.symm.trans same))
  have queue := only.queue txqId differ
  constructor
  · rw [queue]; exact all.entries
  · rw [heap _ rfl]; exact all.entriesLive
  · rw [queue]; exact all.hasTfds
  · rw [queue]; exact all.tfds
  · rw [heap _ rfl]; exact all.tfdsLive
  · rw [queue]; exact all.firstTb
  · rw [heap _ rfl]; exact all.firstTbLive
  · rw [queue]; exact all.nWindow
  · intro own i less
    rw [queue, heap (.cmd i) (congrArg some own.symm)]
    exact all.cmds own i less
  · intro own i past
    rw [heap (.cmd i) (congrArg some own.symm)]
    exact all.further own i past

theorem Freeable.only {other : Nat} (differ : txqId ≠ other) (only : OnlyQueue cmdQueue other st st')
    (free : Freeable cmdQueue txqId st) : Freeable cmdQueue txqId st' := by
  cases free with
  | absent missing gone => exact .absent ((only.txq _ differ).trans missing) (gone.only differ only)
  | complete there all => exact .complete ((only.txq _ differ).trans there) (all.only differ only)
  | bare data entries hasTfds gone =>
    exact .bare data (by rw [only.queue _ differ]; exact entries)
      (by rw [only.queue _ differ]; exact hasTfds) (gone.only differ only)

/-- The descriptors and the first-TB buffers are freed. -/
theorem freeTfds_live (tfds : (st.queue txqId).tfdsDmaPtr = some (.tfds txqId))
    (tfdsLive : st.heap (.tfds txqId) = .live)
    (firstTb : (st.queue txqId).firstTbDmaPtr = some (.firstTb txqId))
    (firstTbLive : st.heap (.firstTb txqId) = .live) :
    freeTfds txqId st = .ok { st with
      heap := Function.update (Function.update st.heap (.tfds txqId) .freed) (.firstTb txqId) .freed } := by
  unfold freeTfds
  rw [tfds, freeDmaBuf_live tfdsLive]
  show freeDmaBuf (st.queue txqId).firstTbDmaPtr
    { st with heap := Function.update st.heap (.tfds txqId) .freed } = _
  have still : Function.update st.heap (.tfds txqId) Cell.freed (.firstTb txqId) = .live := by
    rw [Function.update_of_ne (by simp)]
    exact firstTbLive
  rw [firstTb]
  exact @freeDmaBuf_live { st with heap := Function.update st.heap (.tfds txqId) .freed } _ still

/-- The blocks after those that every queue has are released. -/
def withoutQueue (txqId : Nat) (heap : Blocks Block) : Blocks Block :=
  Function.update (Function.update (Function.update heap (.tfds txqId) .freed) (.firstTb txqId) .freed)
    (.entries txqId) .freed

/-- **The commands of a queue are released**, if there are any. -/
theorem queueCmds_freed (all : Complete cmdQueue txqId st) :
    ∃ mid, (if txqId = cmdQueue then freeCmds txqId (st.queue txqId).nWindow st else .ok st) = .ok mid ∧
      OnlyQueue cmdQueue txqId st mid ∧ mid.queue = st.queue ∧
      (∀ i, Block.owner cmdQueue (.cmd i) = some txqId → mid.heap (.cmd i) ≠ .live) ∧
      ∀ block, (∀ i, block ≠ .cmd i) → mid.heap block = st.heap block := by
  by_cases own : txqId = cmdQueue
  · subst own
    rw [if_pos rfl, all.nWindow rfl]
    obtain ⟨mid, went, only, queue, _, gone, same⟩ := freeCmds_releasable tfdCmdSlots all.entries
      all.entriesLive fun i less => .inr (all.cmds rfl i less)
    refine ⟨mid, went, only, queue, fun i _ => ?_, fun block other => same block fun i _ => other i⟩
    by_cases less : i < tfdCmdSlots
    · exact gone i less
    · rw [same _ fun j small equal => less (by rw [Block.cmd.inj equal]; exact small)]
      exact all.further rfl i (Nat.le_of_not_lt less)
  · rw [if_neg own]
    exact ⟨st, rfl, .refl _ _ _, rfl, fun i mine => absurd (Option.some.inj mine).symm own,
      fun _ _ => rfl⟩

/-- **A complete queue is freed.** -/
theorem txqFree_complete (there : st.txq txqId = true) (all : Complete cmdQueue txqId st) :
    ∃ st', iwlPcieTxqFree cmdQueue txqId st = .ok st' ∧ OnlyQueue cmdQueue txqId st st' ∧
      Gone cmdQueue txqId st'.heap := by
  obtain ⟨mid, went, only, queue, cmds, same⟩ := queueCmds_freed all
  have tfdsLive : mid.heap (.tfds txqId) = .live := (same _ fun _ => by simp).trans all.tfdsLive
  have firstTbLive : mid.heap (.firstTb txqId) = .live := (same _ fun _ => by simp).trans all.firstTbLive
  have entriesLive : mid.heap (.entries txqId) = .live := (same _ fun _ => by simp).trans all.entriesLive
  have freed := freeTfds_live (by rw [queue]; exact all.tfds) tfdsLive (by rw [queue]; exact all.firstTb)
    firstTbLive
  have still : Function.update (Function.update mid.heap (.tfds txqId) Cell.freed) (.firstTb txqId)
      Cell.freed (.entries txqId) = .live := by
    rw [Function.update_of_ne (by simp), Function.update_of_ne (by simp)]
    exact entriesLive
  refine ⟨({ mid with heap := withoutQueue txqId mid.heap } : IwlTransPcie).modifyQueue txqId fun _ => .zero,
    ?_, ?_, ?_⟩
  · unfold iwlPcieTxqFree
    rw [there, went]
    show (if (mid.queue txqId).hasTfds = true then freeTfds txqId mid else .ok mid) >>= _ = _
    rw [queue, all.hasTfds, if_pos rfl, freed]
    show iwhFree (mid.queue txqId).entries _ >>= _ = _
    unfold iwhFree
    rw [queue, all.entries, release_ok still]
    rfl
  · refine only.trans (.trans ?_ (.modifyQueue _ _ _ _))
    refine ⟨fun block other => ?_, fun _ _ => rfl, fun _ _ => rfl, rfl, rfl, rfl⟩
    show withoutQueue txqId mid.heap block = mid.heap block
    have differ (own : Block) (mine : own.owner cmdQueue = some txqId) : block ≠ own :=
      fun equal => other (by rw [equal]; exact mine)
    unfold withoutQueue
    rw [Function.update_of_ne (differ (.entries txqId) rfl),
      Function.update_of_ne (differ (.firstTb txqId) rfl), Function.update_of_ne (differ (.tfds txqId) rfl)]
  · intro block own
    show withoutQueue txqId mid.heap block ≠ .live
    unfold withoutQueue
    cases block with
    | entries k =>
      obtain rfl := Option.some.inj own
      rw [Function.update_self]
      decide
    | tfds k =>
      obtain rfl := Option.some.inj own
      rw [Function.update_of_ne (by simp), Function.update_of_ne (by simp), Function.update_self]
      decide
    | firstTb k =>
      obtain rfl := Option.some.inj own
      rw [Function.update_of_ne (by simp), Function.update_self]
      decide
    | cmd i =>
      rw [Function.update_of_ne (by simp), Function.update_of_ne (by simp),
        Function.update_of_ne (by simp)]
      exact cmds i own
    | scdBcTbls => cases own
    | kw => cases own
    | txqMemory => cases own

/-- **Freeing a queue goes well.** -/
theorem freeQueue_freeable (free : Freeable cmdQueue txqId st) :
    ∃ st', freeQueue cmdQueue st txqId = .ok st' ∧ OnlyQueue cmdQueue txqId st st' ∧
      Gone cmdQueue txqId st'.heap := by
  have cleared (st' : IwlTransPcie) :
      OnlyQueue cmdQueue txqId st' { st' with txq := Function.update st'.txq txqId false } :=
    ⟨fun _ _ => rfl, fun _ _ => rfl, fun _ other => Function.update_of_ne other _ _, rfl, rfl, rfl⟩
  have freed {st' : IwlTransPcie} (went : iwlPcieTxqFree cmdQueue txqId st = .ok st')
      (only : OnlyQueue cmdQueue txqId st st') (gone : Gone cmdQueue txqId st'.heap) :
      ∃ st', freeQueue cmdQueue st txqId = .ok st' ∧ OnlyQueue cmdQueue txqId st st' ∧
        Gone cmdQueue txqId st'.heap := by
    refine ⟨{ st' with txq := Function.update st'.txq txqId false }, ?_, only.trans (cleared st'), gone⟩
    unfold freeQueue
    rw [went]
    rfl
  cases there : st.txq txqId with
  | false =>
    refine @freed st ?_ (.refl _ _ _) ?_
    · unfold iwlPcieTxqFree
      rw [there]
      rfl
    · cases free with
      | absent _ gone => exact gone
      | complete present _ => exact absurd (there.symm.trans present) (by decide)
      | bare _ _ _ gone => exact gone
  | true =>
    cases free with
    | absent missing _ => exact absurd (there.symm.trans missing) (by decide)
    | complete _ all =>
      obtain ⟨st', went, only, gone⟩ := txqFree_complete there all
      exact freed went only gone
    | bare data entries hasTfds gone =>
      refine @freed (st.modifyQueue txqId fun _ => .zero) ?_ (.modifyQueue _ _ _ _) gone
      unfold iwlPcieTxqFree
      rw [there, if_neg data]
      show (if (st.queue txqId).hasTfds = true then freeTfds txqId st else .ok st) >>= _ = _
      rw [hasTfds]
      show iwhFree (st.queue txqId).entries st >>= _ = _
      rw [entries]
      rfl


/-- **The loop over the queues.** -/
theorem freeQueues_freeable (queues : List Nat) (nodup : queues.Nodup)
    (free : ∀ k ∈ queues, Freeable cmdQueue k st) :
    ∃ st', queues.foldlM (freeQueue cmdQueue) st = .ok st' ∧
      (∀ k ∈ queues, Gone cmdQueue k st'.heap) ∧
      (∀ block : Block, (∀ k ∈ queues, block.owner cmdQueue ≠ some k) → st'.heap block = st.heap block) ∧
      st'.txqMemory = st.txqMemory ∧ st'.kw = st.kw ∧ st'.scdBcTbls = st.scdBcTbls := by
  induction queues generalizing st with
  | nil => exact ⟨st, rfl, fun _ none => absurd none List.not_mem_nil, fun _ _ => rfl, rfl, rfl, rfl⟩
  | cons first later ih =>
    obtain ⟨notLater, nodup⟩ := List.nodup_cons.mp nodup
    obtain ⟨mid, freed, only, gone⟩ := freeQueue_freeable (free first List.mem_cons_self)
    have apart (k : Nat) (member : k ∈ later) : k ≠ first := fun same => notLater (same ▸ member)
    obtain ⟨last, went, goneLater, same, txqMemory, kw, scdBcTbls⟩ := ih nodup fun k member =>
      (free k (List.mem_cons_of_mem _ member)).only (apart k member) only
    refine ⟨last, ?_, ?_, ?_, txqMemory.trans only.txqMemory, kw.trans only.kw,
      scdBcTbls.trans only.scdBcTbls⟩
    · rw [List.foldlM_cons, freed]
      exact went
    · intro k member
      rcases List.mem_cons.mp member with rfl | member
      · intro block own
        rw [same block fun j among equal => apart j among (Option.some.inj (equal.symm.trans own))]
        exact gone block own
      · exact goneLater k member
    · intro block other
      rw [same block fun k member => other k (List.mem_cons_of_mem _ member)]
      exact only.heap block (other first List.mem_cons_self)

theorem freeDmaPtr_live {block : Block} (live : st.heap block = .live) :
    iwlPcieFreeDmaPtr (some block) st = .ok { st with heap := Function.update st.heap block .freed } := by
  unfold iwlPcieFreeDmaPtr
  rw [access_ok live]
  exact freeDmaBuf_live live

/-- **The end of `iwl_pcie_tx_free`**, when the queues are gone. -/
theorem freeRest_clean (gone : ∀ k, Gone cmdQueue k st.heap)
    (txqMemory : Releasable st.heap st.txqMemory .txqMemory) (kw : st.kw = some .kw)
    (kwLive : st.heap .kw = .live) (scdBcTbls : st.scdBcTbls = some .scdBcTbls)
    (scdBcTblsLive : st.heap .scdBcTbls = .live) :
    ∃ st', freeRest st = .ok st' ∧ ∀ block, st'.heap block ≠ .live := by
  -- `txq_memory` first, which may be NULL.
  obtain ⟨heap, freed, memoryGone, same⟩ : ∃ heap, iwhFree st.txqMemory st = .ok { st with heap := heap } ∧
      heap .txqMemory ≠ .live ∧ ∀ block, block ≠ .txqMemory → heap block = st.heap block := by
    rcases txqMemory with ⟨null, absent⟩ | ⟨there, live⟩
    · exact ⟨st.heap, congrArg (fun pointer => iwhFree pointer st) null, absent, fun _ _ => rfl⟩
    · refine ⟨Function.update st.heap .txqMemory .freed, ?_, ?_, fun _ other => Function.update_of_ne other _ _⟩
      · unfold iwhFree
        rw [there, release_ok live]
        rfl
      · rw [Function.update_self]
        decide
  have kwStill : heap .kw = .live := (same _ (by decide)).trans kwLive
  have scdStill : Function.update heap .kw Cell.freed .scdBcTbls = .live := by
    rw [Function.update_of_ne (by decide), same _ (by decide)]
    exact scdBcTblsLive
  refine ⟨{ st with
    txqMemory := none
    heap := Function.update (Function.update heap .kw .freed) .scdBcTbls .freed }, ?_, ?_⟩
  · unfold freeRest
    rw [freed]
    have first := @freeDmaPtr_live { st with heap := heap, txqMemory := none } _ kwStill
    have second := @freeDmaPtr_live
      { st with heap := Function.update heap .kw .freed, txqMemory := none } .scdBcTbls scdStill
    rw [← kw] at first
    rw [← scdBcTbls] at second
    show iwlPcieFreeDmaPtr st.kw { st with heap := heap, txqMemory := none } >>= _ = _
    rw [first]
    exact second
  · intro block
    show Function.update (Function.update heap .kw Cell.freed) .scdBcTbls Cell.freed block ≠ .live
    by_cases isScd : block = .scdBcTbls
    · rw [isScd, Function.update_self]
      decide
    · rw [Function.update_of_ne isScd]
      by_cases isKw : block = .kw
      · rw [isKw, Function.update_self]
        decide
      · rw [Function.update_of_ne isKw]
        by_cases isMemory : block = .txqMemory
        · rw [isMemory]
          exact memoryGone
        · rw [same block isMemory]
          cases block with
          | entries k => exact gone k _ rfl
          | tfds k => exact gone k _ rfl
          | firstTb k => exact gone k _ rfl
          | cmd i => exact gone cmdQueue _ rfl
          | scdBcTbls => exact absurd rfl isScd
          | kw => exact absurd rfl isKw
          | txqMemory => exact absurd rfl isMemory

/-- **`iwl_pcie_tx_free` leaves nothing**, if every queue can be freed. -/
theorem txFree_clean {numOfQueues : Nat} (txqMemory : st.txqMemory = some .txqMemory)
    (memoryLive : st.heap .txqMemory = .live) (kw : st.kw = some .kw) (kwLive : st.heap .kw = .live)
    (scdBcTbls : st.scdBcTbls = some .scdBcTbls) (scdBcTblsLive : st.heap .scdBcTbls = .live)
    (free : ∀ k < numOfQueues, Freeable cmdQueue k st)
    (beyond : ∀ k ≥ numOfQueues, Gone cmdQueue k st.heap) :
    ∃ st', iwlPcieTxFree numOfQueues cmdQueue st = .ok st' ∧ ∀ block, st'.heap block ≠ .live := by
  obtain ⟨mid, went, gone, same, sameMemory, sameKw, sameScd⟩ :=
    freeQueues_freeable (List.range numOfQueues) List.nodup_range fun k member =>
      free k (List.mem_range.mp member)
  have shared (block : Block) (none : block.owner cmdQueue = none) : mid.heap block = st.heap block :=
    same block fun k _ equal => Option.some_ne_none k (equal.symm.trans none)
  have allGone (k : Nat) : Gone cmdQueue k mid.heap := by
    by_cases less : k < numOfQueues
    · exact gone k (List.mem_range.mpr less)
    · intro block own
      have other (j : Nat) (member : j ∈ List.range numOfQueues) : block.owner cmdQueue ≠ some j := by
        intro equal
        rw [own] at equal
        exact less (Option.some.inj equal ▸ List.mem_range.mp member)
      rw [same block other]
      exact beyond k (Nat.le_of_not_lt less) block own
  obtain ⟨last, freed, clean⟩ := freeRest_clean allGone
    (.inr ⟨sameMemory.trans txqMemory, (shared _ rfl).trans memoryLive⟩) (sameKw.trans kw)
    ((shared _ rfl).trans kwLive) (sameScd.trans scdBcTbls) ((shared _ rfl).trans scdBcTblsLive)
  refine ⟨last, ?_, clean⟩
  unfold iwlPcieTxFree
  rw [txqMemory]
  show (List.range numOfQueues).foldlM (freeQueue cmdQueue) st >>= freeRest = _
  rw [went]
  exact freed

/-! ### A queue is allocated -/

/-- The block whose allocation fails. -/
def Failure.block : Failure → Block
  | .zalloc block => block
  | .dma block _ => block

/-- A queue that nothing was done for. -/
structure Untouched (cmdQueue txqId : Nat) (st : IwlTransPcie) : Prop where
  queue : st.queue txqId = .zero
  txq : st.txq txqId = false
  gone : Gone cmdQueue txqId st.heap

theorem Untouched.only {other : Nat} (differ : txqId ≠ other) (only : OnlyQueue cmdQueue other st st')
    (untouched : Untouched cmdQueue txqId st) : Untouched cmdQueue txqId st' where
  queue := (only.queue _ differ).trans untouched.queue
  txq := (only.txq _ differ).trans untouched.txq
  gone := untouched.gone.only differ only

/-- An allocation that is not the one that fails. -/
theorem zalloc_other {failure : Failure} {block : Block} (differ : failure ≠ .zalloc block)
    (st : IwlTransPcie) :
    iwhZalloc failure block st = (some block, { st with heap := allocate st.heap block }) := if_neg differ

theorem dma_other {failure : Failure} {block : Block} (differ : ∀ how, failure ≠ .dma block how)
    (st : IwlTransPcie) :
    allocateDmaBuf failure block st = .ok (some block, { st with heap := allocate st.heap block }) := by
  unfold allocateDmaBuf
  rw [if_neg (differ _), if_neg (differ _)]

section Succeeds

variable {failure : Failure} (other : failure.block.owner cmdQueue ≠ some txqId)

include other

/-- An allocation for a queue, when the failure is another's. -/
theorem zalloc_succeeds {block : Block} (own : block.owner cmdQueue = some txqId) (st : IwlTransPcie) :
    iwhZalloc failure block st = (some block, { st with heap := allocate st.heap block }) :=
  zalloc_other (fun same => other (by rw [same]; exact own)) st

theorem dma_succeeds {block : Block} (own : block.owner cmdQueue = some txqId) (st : IwlTransPcie) :
    allocateDmaBuf failure block st = .ok (some block, { st with heap := allocate st.heap block }) :=
  dma_other (fun _ same => other (by rw [same]; exact own)) st

/-- **The DMA memory of a queue.** -/
theorem allocTfds_succeeds (slotsNum : Nat) (isCmd : Bool) (st : IwlTransPcie) :
    allocTfds failure txqId slotsNum isCmd st = .ok (true,
      ({ st with heap := allocate (allocate st.heap (.tfds txqId)) (.firstTb txqId) } :
        IwlTransPcie).modifyQueue txqId fun txq => { txq with
          tfdsDmaPtr := some (.tfds txqId), hasTfds := true, firstTbDmaPtr := some (.firstTb txqId) }) := by
  unfold allocTfds
  rw [dma_succeeds other rfl]
  show (allocateDmaBuf failure (.firstTb txqId) (IwlTransPcie.modifyQueue _ txqId _) >>= _) = _
  rw [dma_succeeds other rfl]
  exact congrArg (fun last => Except.ok (true, last)) (modifyQueue_twice
    { st with heap := allocate (allocate st.heap (.tfds txqId)) (.firstTb txqId) } txqId
    (fun txq => { txq with tfdsDmaPtr := some (.tfds txqId), hasTfds := true })
    fun txq => { txq with firstTbDmaPtr := some (.firstTb txqId) })

end Succeeds

/-- **The loop over the commands**, when the failure is another queue's. -/
theorem allocCmds_succeeds {failure : Failure} (other : failure.block.owner cmdQueue ≠ some cmdQueue)
    (indices : List Nat) (st : IwlTransPcie) :
    ∃ st', allocCmds failure cmdQueue indices st = (true, st') ∧ OnlyQueue cmdQueue cmdQueue st st' ∧
      st'.txq = st.txq ∧
      (∀ i ∈ indices, (st'.queue cmdQueue).cmd i = some (.cmd i) ∧ st'.heap (.cmd i) = .live) ∧
      (∀ block, (∀ i ∈ indices, block ≠ .cmd i) → st'.heap block = st.heap block) ∧
      st'.queue cmdQueue = { st.queue cmdQueue with cmd := (st'.queue cmdQueue).cmd } ∧
      ∀ i, i ∉ indices → (st'.queue cmdQueue).cmd i = (st.queue cmdQueue).cmd i := by
  induction indices generalizing st with
  | nil =>
    exact ⟨st, rfl, .refl _ _ _, rfl, fun _ none => absurd none List.not_mem_nil, fun _ _ => rfl, rfl,
      fun _ _ => rfl⟩
  | cons i later ih =>
    -- The state after this turn.
    obtain ⟨mid, turn, midOnly, midTxq, midQueue, midHeap⟩ : ∃ mid : IwlTransPcie,
        allocCmds failure cmdQueue (i :: later) st = allocCmds failure cmdQueue later mid ∧
        OnlyQueue cmdQueue cmdQueue st mid ∧ mid.txq = st.txq ∧
        mid.queue cmdQueue =
          { st.queue cmdQueue with cmd := Function.update (st.queue cmdQueue).cmd i (some (.cmd i)) } ∧
        mid.heap = allocate st.heap (.cmd i) := by
      refine ⟨({ st with heap := allocate st.heap (.cmd i) } : IwlTransPcie).modifyQueue cmdQueue fun txq =>
        { txq with cmd := Function.update txq.cmd i (some (.cmd i)) }, ?_, ?_, rfl,
        modifyQueue_queue _ _ _, rfl⟩
      · rw [allocCmds, zalloc_succeeds other rfl]
        rfl
      · have allocated : OnlyQueue cmdQueue cmdQueue st { st with heap := allocate st.heap (.cmd i) } :=
          .update rfl .live
        exact allocated.trans (.modifyQueue _ _ _ _)
    obtain ⟨last, went, only, txq, cmds, same, fields, rest⟩ := ih mid
    refine ⟨last, turn.trans went, midOnly.trans only, txq.trans midTxq, ?_, ?_, ?_, ?_⟩
    · intro j member
      by_cases again : j ∈ later
      · exact cmds j again
      · obtain rfl := (List.mem_cons.mp member).resolve_right again
        rw [rest j again, same (.cmd j) fun k among equal => again (Block.cmd.inj equal ▸ among),
          midQueue, midHeap]
        exact ⟨Function.update_self _ _ _, Function.update_self _ _ _⟩
    · intro block differ
      rw [same block fun k among => differ k (List.mem_cons_of_mem _ among), midHeap]
      exact Function.update_of_ne (differ i List.mem_cons_self) _ _
    · rw [midQueue] at fields
      exact fields
    · intro j absent
      obtain ⟨notHere, notLater⟩ := not_or.mp (mt List.mem_cons.mpr absent)
      rw [rest j notLater, midQueue]
      exact Function.update_of_ne notHere _ _


/-- The slots of a queue. -/
def slotsNum (cmdQueue txqId : Nat) : Nat := if txqId = cmdQueue then tfdCmdSlots else tfdTxCmdSlots

/-- The state once the entries of a queue are allocated. -/
def IwlTransPcie.withEntries (cmdQueue txqId : Nat) (st : IwlTransPcie) : IwlTransPcie :=
  ({ st with heap := allocate st.heap (.entries txqId) } : IwlTransPcie).modifyQueue txqId fun txq =>
    { txq with nWindow := slotsNum cmdQueue txqId, entries := some (.entries txqId), cmd := fun _ => none }

/-- The state once the DMA memory of a queue is allocated. -/
def IwlTransPcie.withTfds (txqId : Nat) (st : IwlTransPcie) : IwlTransPcie :=
  ({ st with heap := allocate (allocate st.heap (.tfds txqId)) (.firstTb txqId) } :
    IwlTransPcie).modifyQueue txqId fun txq => { txq with
      tfdsDmaPtr := some (.tfds txqId), hasTfds := true, firstTbDmaPtr := some (.firstTb txqId) }

theorem withEntries_only (cmdQueue txqId : Nat) (st : IwlTransPcie) :
    OnlyQueue cmdQueue txqId st (st.withEntries cmdQueue txqId) := by
  have allocated : OnlyQueue cmdQueue txqId st { st with heap := allocate st.heap (.entries txqId) } :=
    .update rfl .live
  exact allocated.trans (.modifyQueue _ _ _ _)

theorem withTfds_only (cmdQueue txqId : Nat) (st : IwlTransPcie) :
    OnlyQueue cmdQueue txqId st (st.withTfds txqId) := by
  have first : OnlyQueue cmdQueue txqId st { st with heap := allocate st.heap (.tfds txqId) } :=
    .update rfl .live
  have second : OnlyQueue cmdQueue txqId { st with heap := allocate st.heap (.tfds txqId) }
      { st with heap := allocate (allocate st.heap (.tfds txqId)) (.firstTb txqId) } := .update rfl .live
  exact (first.trans second).trans (.modifyQueue _ _ _ _)

theorem withTfds_queue (txqId : Nat) (st : IwlTransPcie) : (st.withTfds txqId).queue txqId =
    { st.queue txqId with
      tfdsDmaPtr := some (.tfds txqId), hasTfds := true, firstTbDmaPtr := some (.firstTb txqId) } :=
  modifyQueue_queue _ _ _

/-- The other blocks are as they were. -/
theorem withEntries_heap {block : Block} (differ : block ≠ .entries txqId) (st : IwlTransPcie) :
    (st.withEntries cmdQueue txqId).heap block = st.heap block := by
  show allocate st.heap (.entries txqId) block = _
  unfold allocate
  rw [Function.update_of_ne differ]

theorem withTfds_heap {block : Block} (notTfds : block ≠ .tfds txqId) (notFirstTb : block ≠ .firstTb txqId)
    (st : IwlTransPcie) : (st.withTfds txqId).heap block = st.heap block := by
  show allocate (allocate st.heap (.tfds txqId)) (.firstTb txqId) block = _
  unfold allocate
  rw [Function.update_of_ne notFirstTb, Function.update_of_ne notTfds]

/-- **The commands of a queue**, if it is the command queue. -/
theorem queueCmds_succeed {failure : Failure} (other : failure.block.owner cmdQueue ≠ some txqId)
    (st : IwlTransPcie) : ∃ mid : IwlTransPcie,
      (if txqId = cmdQueue then allocCmds failure txqId (List.range (slotsNum cmdQueue txqId)) st
        else (true, st)) = (true, mid) ∧
      OnlyQueue cmdQueue txqId st mid ∧ mid.txq = st.txq ∧
      mid.queue txqId = { st.queue txqId with cmd := (mid.queue txqId).cmd } ∧
      (txqId = cmdQueue → ∀ i < tfdCmdSlots,
        (mid.queue txqId).cmd i = some (.cmd i) ∧ mid.heap (.cmd i) = .live) ∧
      (txqId = cmdQueue → ∀ i ≥ tfdCmdSlots, mid.heap (.cmd i) = st.heap (.cmd i)) ∧
      ∀ block, (∀ i, block ≠ .cmd i) → mid.heap block = st.heap block := by
  by_cases own : txqId = cmdQueue
  · subst own
    obtain ⟨mid, went, only, txq, cmds, same, fields, _⟩ :=
      allocCmds_succeeds other (List.range (slotsNum txqId txqId)) st
    have slots : slotsNum txqId txqId = tfdCmdSlots := if_pos rfl
    refine ⟨mid, (if_pos rfl).trans went, only, txq, fields, fun _ i less => ?_, fun _ i past => ?_,
      fun block other => same block fun i _ => other i⟩
    · exact cmds i (List.mem_range.mpr (by rw [slots]; exact less))
    · refine same _ fun j member equal => ?_
      rw [slots] at member
      exact absurd (List.mem_range.mp member) (by rw [← Block.cmd.inj equal]; exact Nat.not_lt.mpr past)
  · exact ⟨st, if_neg own, .refl _ _ _, rfl, rfl, fun mine => absurd mine own,
      fun mine => absurd mine own, fun _ _ => rfl⟩

/-- **A queue is allocated**, when the failure is another's. -/
theorem txqAlloc_succeeds {failure : Failure} (other : failure.block.owner cmdQueue ≠ some txqId)
    (zero : st.queue txqId = .zero) (gone : Gone cmdQueue txqId st.heap) :
    ∃ st', iwlPcieTxqAlloc failure txqId (slotsNum cmdQueue txqId) (txqId = cmdQueue) st = .ok (true, st') ∧
      OnlyQueue cmdQueue txqId st st' ∧ st'.txq = st.txq ∧ Complete cmdQueue txqId st' := by
  have startQueue : (st.withEntries cmdQueue txqId).queue txqId =
      ⟨slotsNum cmdQueue txqId, some (.entries txqId), fun _ => none, none, false, none⟩ := by
    show (IwlTransPcie.modifyQueue _ txqId _).queue txqId = _
    rw [modifyQueue_queue, zero]
    rfl
  obtain ⟨mid, commands, only, txq, queue, cmds, further, heap⟩ :=
    queueCmds_succeed other (st.withEntries cmdQueue txqId)
  refine ⟨mid.withTfds txqId, ?_, ((withEntries_only ..).trans only).trans (withTfds_only ..), txq, ?_⟩
  · unfold iwlPcieTxqAlloc
    rw [zero, zalloc_succeeds other rfl]
    show (match (if decide (txqId = cmdQueue) = true then
        allocCmds failure txqId (List.range (slotsNum cmdQueue txqId)) (st.withEntries cmdQueue txqId)
        else (true, st.withEntries cmdQueue txqId)) with
      | (ended, st) => if (!ended) = true then _ else allocTfds failure txqId _ _ st) = _
    simp only [decide_eq_true_iff]
    rw [commands]
    exact allocTfds_succeeds other (slotsNum cmdQueue txqId) (txqId = cmdQueue) mid
  · constructor
    · rw [withTfds_queue, queue, startQueue]
    · rw [withTfds_heap (by simp) (by simp), heap _ fun _ => by simp]
      exact Function.update_self _ _ _
    · rw [withTfds_queue]
    · rw [withTfds_queue]
    · show allocate (allocate mid.heap (.tfds txqId)) (.firstTb txqId) (.tfds txqId) = _
      unfold allocate
      rw [Function.update_of_ne (by simp)]
      exact Function.update_self _ _ _
    · rw [withTfds_queue]
    · exact Function.update_self _ _ _
    · intro own
      rw [withTfds_queue, queue, startQueue]
      exact if_pos own
    · intro own i less
      rw [withTfds_queue, withTfds_heap (by simp) (by simp)]
      exact cmds own i less
    · intro own i past
      rw [withTfds_heap (by simp) (by simp), further own i past, withEntries_heap (by simp)]
      exact gone _ (congrArg some own.symm)


/-! ### A queue is not allocated -/

/-- The error path of a data queue releases its entries. -/
theorem txqAllocError_data (slots : Nat)
    (good : Releasable st.heap (st.queue txqId).entries (.entries txqId)) :
    ∃ st', txqAllocError txqId slots false st = .ok st' ∧ OnlyQueue cmdQueue txqId st st' ∧
      st'.queue txqId = { st.queue txqId with entries := none } ∧ st'.heap (.entries txqId) ≠ .live ∧
      ∀ block, block ≠ .entries txqId → st'.heap block = st.heap block := by
  obtain ⟨mid, freed, only, queue, _, gone, same⟩ :=
    @iwhFree_releasable cmdQueue txqId st _ (.entries txqId) rfl good
  refine ⟨mid.modifyQueue txqId fun txq => { txq with entries := none }, ?_,
    only.trans (.modifyQueue _ _ _ _), ?_, gone, same⟩
  · unfold txqAllocError
    rw [Bool.and_false]
    show (iwhFree (st.queue txqId).entries st >>= _) = _
    rw [freed]
    rfl
  · rw [modifyQueue_queue, queue]

/-- **A data queue is left bare** when its entries or its descriptors are not allocated. -/
theorem txqAlloc_bare {failure : Failure} (data : txqId ≠ cmdQueue) (slots : Nat)
    (fails : failure = .zalloc (.entries txqId) ∨ failure = .dma (.tfds txqId) .noSegments)
    (zero : st.queue txqId = .zero) (gone : Gone cmdQueue txqId st.heap) :
    ∃ st', iwlPcieTxqAlloc failure txqId slots (txqId = cmdQueue) st = .ok (false, st') ∧
      OnlyQueue cmdQueue txqId st st' ∧ (st'.queue txqId).entries = none ∧
      (st'.queue txqId).hasTfds = false ∧ Gone cmdQueue txqId st'.heap := by
  rw [decide_eq_false data]
  -- With the entries, or without.
  have started (entries : Pointer Block) (heap : Blocks Block) (only : OnlyQueue cmdQueue txqId st
      { st with heap := heap }) (good : Releasable heap entries (.entries txqId))
      (same : ∀ block, block ≠ .entries txqId → heap block = st.heap block) :
      ∃ st', txqAllocError txqId slots false (({ st with heap := heap } : IwlTransPcie).modifyQueue txqId
          fun txq => { txq with nWindow := slots, entries := entries, cmd := fun _ => none }) = .ok st' ∧
        OnlyQueue cmdQueue txqId st st' ∧ (st'.queue txqId).entries = none ∧
        (st'.queue txqId).hasTfds = false ∧ Gone cmdQueue txqId st'.heap := by
    obtain ⟨st', went, only', queue, entriesGone, others⟩ := @txqAllocError_data cmdQueue txqId
      (({ st with heap := heap } : IwlTransPcie).modifyQueue txqId
        fun txq => { txq with nWindow := slots, entries := entries, cmd := fun _ => none }) slots
      (by rw [modifyQueue_queue]; exact good)
    refine ⟨st', went, (only.trans (.modifyQueue _ _ _ _)).trans only', ?_, ?_, fun block own => ?_⟩
    · rw [queue]
    · rw [queue, modifyQueue_queue]
      show (st.queue txqId).hasTfds = false
      rw [zero]
      rfl
    · by_cases isEntries : block = .entries txqId
      · rw [isEntries]
        exact entriesGone
      · rw [others block isEntries]
        show heap block ≠ .live
        rw [same block isEntries]
        exact gone block own
  rcases fails with rfl | rfl
  · obtain ⟨st', went, rest⟩ := started none st.heap (.refl _ _ _)
      (.inl ⟨rfl, gone _ rfl⟩) fun _ _ => rfl
    refine ⟨st', ?_, rest⟩
    unfold iwlPcieTxqAlloc iwhZalloc
    rw [zero, if_pos rfl]
    show (txqAllocError txqId slots false _ >>= fun st => pure (false, st)) = _
    rw [went]
    rfl
  · obtain ⟨st', went, rest⟩ := started (some (.entries txqId)) (allocate st.heap (.entries txqId))
      (.update rfl .live) (.inr ⟨rfl, Function.update_self _ _ _⟩) fun _ differ =>
        Function.update_of_ne differ _ _
    refine ⟨st', ?_, rest⟩
    have differ : Failure.dma (.tfds txqId) .noSegments ≠ .zalloc (.entries txqId) := by simp
    unfold iwlPcieTxqAlloc iwhZalloc
    rw [zero, if_neg differ]
    show allocTfds _ txqId slots false _ = _
    unfold allocTfds allocateDmaBuf
    rw [if_neg (by simp), if_pos rfl]
    show (txqAllocError txqId slots false _ >>= fun st => pure (false, st)) = _
    rw [went]
    rfl

/-! ### A queue that cannot be freed -/

/-- What is not touched on the way to a failure. -/
structure SameShape (txqId : Nat) (st st' : IwlTransPcie) : Prop where
  nWindow : (st'.queue txqId).nWindow = (st.queue txqId).nWindow
  txq : st'.txq = st.txq
  txqMemory : st'.txqMemory = st.txqMemory

theorem SameShape.trans (first : SameShape txqId st st') (second : SameShape txqId st' st'') :
    SameShape txqId st st'' :=
  ⟨second.nWindow.trans first.nWindow, second.txq.trans first.txq,
    second.txqMemory.trans first.txqMemory⟩

theorem iwhFree_shape {pointer : Pointer Block} (freed : iwhFree pointer st = .ok st') :
    SameShape txqId st st' := by
  obtain ⟨heap, _, rfl⟩ := iwhFree_eq_ok freed
  exact ⟨rfl, rfl, rfl⟩

/-- A turn of the loop over the commands frees a buffer. -/
theorem freeCmd_frees {k i : Nat} (freed : freeCmd k st i = .ok st') :
    ∃ pointer, iwhFree pointer st = .ok st' := by
  obtain ⟨_, _, freed⟩ := bind_eq_ok freed
  exact ⟨_, freed⟩

theorem freeCmds_shape (indices : List Nat) (freed : indices.foldlM (freeCmd txqId) st = .ok st') :
    SameShape txqId st st' := by
  refine foldlM_does (fun _ => ⟨rfl, rfl, rfl⟩) .trans (fun freed => ?_) indices freed
  obtain ⟨_, freed⟩ := freeCmd_frees freed
  exact iwhFree_shape freed

/-- **After the error path a queue has no entries.** -/
theorem txqAllocError_none {slots : Nat} {isCmd : Bool}
    (went : txqAllocError txqId slots isCmd st = .ok st') :
    SameShape txqId st st' ∧ (st'.queue txqId).entries = none := by
  obtain ⟨first, cmds, rest⟩ := bind_eq_ok went
  obtain ⟨second, entries, last⟩ := bind_eq_ok rest
  have shape : SameShape txqId st first := by
    split at cmds
    · exact freeCmds_shape _ cmds
    · obtain rfl := Except.ok.inj cmds
      exact ⟨rfl, rfl, rfl⟩
  obtain rfl := Except.ok.inj last
  refine ⟨(shape.trans (iwhFree_shape entries)).trans ⟨?_, rfl, rfl⟩, ?_⟩
  · rw [modifyQueue_queue]
  · rw [modifyQueue_queue]

theorem zalloc_shape (failure : Failure) (block : Block) (st : IwlTransPcie) :
    SameShape txqId st (iwhZalloc failure block st).2 := by
  unfold iwhZalloc
  split <;> exact ⟨rfl, rfl, rfl⟩

theorem dma_shape {failure : Failure} {block : Block} {pointer : Pointer Block}
    (made : allocateDmaBuf failure block st = .ok (pointer, st')) : SameShape txqId st st' := by
  unfold allocateDmaBuf at made
  split at made
  · cases made
  · split at made
    · obtain ⟨_, rfl⟩ := Prod.mk.inj (Except.ok.inj made)
      exact ⟨rfl, rfl, rfl⟩
    · obtain ⟨_, rfl⟩ := Prod.mk.inj (Except.ok.inj made)
      exact ⟨rfl, rfl, rfl⟩

theorem allocCmds_shape (failure : Failure) (indices : List Nat) (st : IwlTransPcie) :
    SameShape txqId st (allocCmds failure txqId indices st).2 := by
  induction indices generalizing st with
  | nil => exact ⟨rfl, rfl, rfl⟩
  | cons i later ih =>
    have turn : SameShape txqId st ((iwhZalloc failure (.cmd i) st).2.modifyQueue txqId fun txq =>
        { txq with cmd := Function.update txq.cmd i (iwhZalloc failure (.cmd i) st).1 }) := by
      refine (zalloc_shape failure (.cmd i) st).trans ⟨?_, rfl, rfl⟩
      rw [modifyQueue_queue]
    rw [allocCmds]
    dsimp only
    split
    · exact turn
    · exact turn.trans (ih _)


/-- The end of `iwl_pcie_txq_alloc`, when it fails. -/
theorem allocTfds_false {failure : Failure} {slots : Nat} {isCmd : Bool}
    (went : allocTfds failure txqId slots isCmd st = .ok (false, st')) :
    SameShape txqId st st' ∧ (st'.queue txqId).entries = none := by
  obtain ⟨⟨tfdsDma, first⟩, made, rest⟩ := bind_eq_ok went
  have shape := @dma_shape txqId _ _ _ _ _ made
  dsimp only at rest
  split at rest
  · obtain ⟨last, failed, same⟩ := bind_eq_ok rest
    obtain ⟨_, rfl⟩ := Prod.mk.inj (Except.ok.inj same)
    obtain ⟨shape', none⟩ := txqAllocError_none failed
    exact ⟨shape.trans shape', none⟩
  · obtain ⟨⟨bufs, second⟩, made', rest⟩ := bind_eq_ok rest
    have written : SameShape txqId first (first.modifyQueue txqId fun txq =>
        { txq with tfdsDmaPtr := tfdsDma, hasTfds := true }) := ⟨by rw [modifyQueue_queue], rfl, rfl⟩
    have shape := (shape.trans written).trans (@dma_shape txqId _ _ _ _ _ made')
    dsimp only at rest
    split at rest
    · obtain ⟨third, freed, rest⟩ := bind_eq_ok rest
      obtain ⟨_, _, freed⟩ := bind_eq_ok freed
      obtain ⟨last, failed, same⟩ := bind_eq_ok rest
      obtain ⟨_, rfl⟩ := Prod.mk.inj (Except.ok.inj same)
      obtain ⟨shape', none⟩ := txqAllocError_none failed
      exact ⟨(shape.trans (iwhFree_shape freed)).trans shape', none⟩
    · exact absurd (Prod.mk.inj (Except.ok.inj rest)).1 (by decide)

/-- **After a failure a queue has no entries**, but its window. -/
theorem txqAlloc_false {failure : Failure} {slots : Nat} {isCmd : Bool} (zero : st.queue txqId = .zero)
    (went : iwlPcieTxqAlloc failure txqId slots isCmd st = .ok (false, st')) :
    (st'.queue txqId).entries = none ∧ (st'.queue txqId).nWindow = slots ∧ st'.txq = st.txq ∧
      st'.txqMemory = st.txqMemory := by
  -- From a state with the window in place, what is left ends without entries.
  have ends {start last : IwlTransPcie} (nWindow : (start.queue txqId).nWindow = slots)
      (txq : start.txq = st.txq) (txqMemory : start.txqMemory = st.txqMemory)
      (rest : SameShape txqId start last ∧ (last.queue txqId).entries = none) :
      (last.queue txqId).entries = none ∧ (last.queue txqId).nWindow = slots ∧ last.txq = st.txq ∧
        last.txqMemory = st.txqMemory :=
    ⟨rest.2, rest.1.nWindow.trans nWindow, rest.1.txq.trans txq, rest.1.txqMemory.trans txqMemory⟩
  have shape := @zalloc_shape txqId failure (.entries txqId) st
  unfold iwlPcieTxqAlloc at went
  rw [zero, if_neg (show ¬ (IwlTxq.zero.entries.isSome || IwlTxq.zero.hasTfds) = true by decide)] at went
  generalize iwhZalloc failure (.entries txqId) st = made at shape went
  obtain ⟨entries, mid⟩ := made
  dsimp only at went shape
  have nWindow : ((mid.modifyQueue txqId fun txq => { txq with
      nWindow := slots, entries := entries, cmd := fun _ => none }).queue txqId).nWindow = slots := by
    rw [modifyQueue_queue]
  generalize start : mid.modifyQueue txqId (fun txq => { txq with
      nWindow := slots, entries := entries, cmd := fun _ => none }) = first at went nWindow
  have txq : first.txq = st.txq := by
    rw [← start]
    exact shape.txq
  have txqMemory : first.txqMemory = st.txqMemory := by
    rw [← start]
    exact shape.txqMemory
  split at went
  · obtain ⟨last, failed, same⟩ := bind_eq_ok went
    obtain ⟨_, rfl⟩ := Prod.mk.inj (Except.ok.inj same)
    exact ends nWindow txq txqMemory (txqAllocError_none failed)
  · have commands : SameShape txqId first
        (if isCmd = true then allocCmds failure txqId (List.range slots) first else (true, first)).2 := by
      split
      · exact allocCmds_shape failure _ first
      · exact ⟨rfl, rfl, rfl⟩
    generalize (if isCmd = true then allocCmds failure txqId (List.range slots) first
      else (true, first)) = result at commands went
    obtain ⟨ended, second⟩ := result
    dsimp only at commands went
    split at went
    · obtain ⟨last, failed, same⟩ := bind_eq_ok went
      obtain ⟨_, rfl⟩ := Prod.mk.inj (Except.ok.inj same)
      obtain ⟨shape', none⟩ := txqAllocError_none failed
      exact ends nWindow txq txqMemory ⟨commands.trans shape', none⟩
    · obtain ⟨shape', none⟩ := allocTfds_false went
      exact ends nWindow txq txqMemory ⟨commands.trans shape', none⟩


/-- The failure is at an allocation for the queue. -/
def Failure.concerns (cmdQueue txqId : Nat) : Failure → Prop
  | .zalloc (.entries k) => k = txqId
  | .zalloc (.cmd i) => txqId = cmdQueue ∧ i < tfdCmdSlots
  | .dma (.tfds k) _ => k = txqId
  | .dma (.firstTb k) _ => k = txqId
  | _ => False

/-- The loop over the commands ends at the one that fails. -/
theorem allocCmds_fails {i : Nat} {indices : List Nat} (member : i ∈ indices) (st : IwlTransPcie) :
    (allocCmds (.zalloc (.cmd i)) txqId indices st).1 = false := by
  induction indices generalizing st with
  | nil => cases member
  | cons j later ih =>
    rw [allocCmds]
    unfold iwhZalloc
    by_cases here : j = i
    · subst here
      rw [if_pos rfl]
      rfl
    · have differ : Failure.zalloc (.cmd i) ≠ .zalloc (.cmd j) := fun same =>
        here (Block.cmd.inj (Failure.zalloc.inj same)).symm
      rw [if_neg differ]
      exact ih ((List.mem_cons.mp member).resolve_left fun same => here same.symm) _

theorem allocTfds_fails {slots : Nat} {isCmd : Bool} {how : DmaFailure} {failure : Failure}
    (fails : failure = .dma (.tfds txqId) how ∨ failure = .dma (.firstTb txqId) how) (st st' : IwlTransPcie) :
    allocTfds failure txqId slots isCmd st ≠ .ok (true, st') := by
  intro went
  obtain ⟨⟨tfdsDma, first⟩, made, rest⟩ := bind_eq_ok went
  dsimp only at rest
  split at rest
  · obtain ⟨_, _, same⟩ := bind_eq_ok rest
    exact absurd (Prod.mk.inj (Except.ok.inj same)).1 (by decide)
  · next given =>
    obtain ⟨⟨bufs, second⟩, made', rest⟩ := bind_eq_ok rest
    dsimp only at rest
    split at rest
    · obtain ⟨_, _, rest⟩ := bind_eq_ok rest
      obtain ⟨_, _, same⟩ := bind_eq_ok rest
      exact absurd (Prod.mk.inj (Except.ok.inj same)).1 (by decide)
    · next given' =>
      -- Both buffers were given, so neither is the one that fails.
      unfold allocateDmaBuf at made made'
      rcases fails with rfl | rfl <;> cases how
      · rw [if_neg (by simp), if_pos rfl] at made
        exact given (by rw [← (Prod.mk.inj (Except.ok.inj made)).1]; rfl)
      · rw [if_pos rfl] at made
        cases made
      · rw [if_neg (by simp), if_pos rfl] at made'
        exact given' (by rw [← (Prod.mk.inj (Except.ok.inj made')).1]; rfl)
      · rw [if_pos rfl] at made'
        cases made'

/-- **A queue is not allocated** when the failure is its own. -/
theorem txqAlloc_fails {failure : Failure} (concerns : failure.concerns cmdQueue txqId)
    (zero : st.queue txqId = .zero) (st' : IwlTransPcie) :
    iwlPcieTxqAlloc failure txqId (slotsNum cmdQueue txqId) (txqId = cmdQueue) st ≠ .ok (true, st') := by
  have commands (start : IwlTransPcie) {i : Nat} (fails : failure = .zalloc (.cmd i)) :
      (if decide (txqId = cmdQueue) = true then
        allocCmds failure txqId (List.range (slotsNum cmdQueue txqId)) start else (true, start)).1 = false := by
    subst fails
    obtain ⟨rfl, small⟩ := concerns
    rw [if_pos (decide_eq_true rfl), allocCmds_fails]
    exact List.mem_range.mpr (by rw [slotsNum, if_pos rfl]; exact small)
  intro went
  unfold iwlPcieTxqAlloc at went
  rw [zero, if_neg (show ¬ (IwlTxq.zero.entries.isSome || IwlTxq.zero.hasTfds) = true by decide)] at went
  dsimp only at went
  split at went
  · obtain ⟨_, _, same⟩ := bind_eq_ok went
    exact absurd (Prod.mk.inj (Except.ok.inj same)).1 (by decide)
  · next given =>
    generalize IwlTransPcie.modifyQueue _ txqId _ = start at went
    have commands := @commands start
    generalize (if decide (txqId = cmdQueue) = true then
      allocCmds failure txqId (List.range (slotsNum cmdQueue txqId)) start else (true, start)) = result
      at commands went
    obtain ⟨ended, second⟩ := result
    dsimp only at went commands
    split at went
    · obtain ⟨_, _, same⟩ := bind_eq_ok went
      exact absurd (Prod.mk.inj (Except.ok.inj same)).1 (by decide)
    · next ends =>
      cases failure with
      | zalloc block =>
        cases block with
        | entries k =>
          obtain rfl := concerns
          refine given ?_
          unfold iwhZalloc
          rw [if_pos rfl]
          rfl
        | cmd i => exact ends (by rw [@commands i rfl]; rfl)
        | _ => exact concerns
      | dma block how =>
        cases block with
        | tfds k =>
          obtain rfl := concerns
          exact allocTfds_fails (.inl rfl) _ _ went
        | firstTb k =>
          obtain rfl := concerns
          exact allocTfds_fails (.inr rfl) _ _ went
        | _ => exact concerns

/-- What releasing does not change. -/
structure Releases (txqId : Nat) (st st' : IwlTransPcie) : Prop where
  hasTfds : (st'.queue txqId).hasTfds = (st.queue txqId).hasTfds
  tfdsDmaPtr : (st'.queue txqId).tfdsDmaPtr = (st.queue txqId).tfdsDmaPtr
  dead : ∀ block, st.heap block ≠ .live → st'.heap block ≠ .live

theorem Releases.trans (first : Releases txqId st st') (second : Releases txqId st' st'') :
    Releases txqId st st'' :=
  ⟨second.hasTfds.trans first.hasTfds, second.tfdsDmaPtr.trans first.tfdsDmaPtr,
    fun block gone => second.dead block (first.dead block gone)⟩

theorem iwhFree_releases {pointer : Pointer Block} (freed : iwhFree pointer st = .ok st') :
    Releases txqId st st' := by
  obtain ⟨heap, released, rfl⟩ := iwhFree_eq_ok freed
  exact ⟨rfl, rfl, fun _ gone => release_not_live released gone⟩

theorem freeCmds_releases {k : Nat} (indices : List Nat)
    (freed : indices.foldlM (freeCmd k) st = .ok st') : Releases txqId st st' := by
  refine foldlM_does (fun _ => ⟨rfl, rfl, fun _ gone => gone⟩) .trans (fun freed => ?_) indices freed
  obtain ⟨_, freed⟩ := freeCmd_frees freed
  exact iwhFree_releases freed

theorem txqAllocError_releases {slots : Nat} {isCmd : Bool}
    (went : txqAllocError txqId slots isCmd st = .ok st') : Releases txqId st st' := by
  obtain ⟨first, cmds, rest⟩ := bind_eq_ok went
  obtain ⟨second, entries, last⟩ := bind_eq_ok rest
  have releases : Releases txqId st first := by
    split at cmds
    · exact freeCmds_releases _ cmds
    · obtain rfl := Except.ok.inj cmds
      exact ⟨rfl, rfl, fun _ gone => gone⟩
  obtain rfl := Except.ok.inj last
  refine (releases.trans (iwhFree_releases entries)).trans ⟨?_, ?_, fun _ gone => gone⟩
  · rw [modifyQueue_queue]
  · rw [modifyQueue_queue]

/-- A DMA buffer that was released. -/
theorem freeDmaBuf_dead {block : Block} (freed : freeDmaBuf (some block) st = .ok st') :
    st'.queue = st.queue ∧ st'.heap block ≠ .live := by
  obtain ⟨_, _, freed⟩ := bind_eq_ok freed
  obtain ⟨heap, released, rfl⟩ := iwhFree_eq_ok freed
  refine ⟨rfl, ?_⟩
  by_cases live : st.heap block = .live
  · rw [release_ok live] at released
    show heap block ≠ .live
    rw [← Except.ok.inj released, Function.update_self]
    decide
  · exact release_not_live released live

/-- **A queue keeps descriptors that are released** when its first-TB buffers are not allocated. -/
theorem allocTfds_stale {slots : Nat} {isCmd : Bool}
    (went : allocTfds (.dma (.firstTb txqId) .noSegments) txqId slots isCmd st = .ok (false, st')) :
    (st'.queue txqId).hasTfds = true ∧ (st'.queue txqId).tfdsDmaPtr = some (.tfds txqId) ∧
      st'.heap (.tfds txqId) ≠ .live := by
  obtain ⟨⟨tfdsDma, first⟩, made, rest⟩ := bind_eq_ok went
  unfold allocateDmaBuf at made
  rw [if_neg (by simp), if_neg (by simp)] at made
  obtain ⟨rfl, _⟩ := Prod.mk.inj (Except.ok.inj made)
  obtain ⟨⟨bufs, second⟩, made', rest⟩ := bind_eq_ok rest
  unfold allocateDmaBuf at made'
  rw [if_neg (by simp), if_pos rfl] at made'
  obtain ⟨rfl, rfl⟩ := Prod.mk.inj (Except.ok.inj made')
  obtain ⟨third, freed, rest⟩ := bind_eq_ok rest
  obtain ⟨last, failed, same⟩ := bind_eq_ok rest
  obtain ⟨_, rfl⟩ := Prod.mk.inj (Except.ok.inj same)
  rw [modifyQueue_queue] at freed
  obtain ⟨queue, gone⟩ := freeDmaBuf_dead freed
  have releases := txqAllocError_releases failed
  refine ⟨?_, ?_, releases.dead _ gone⟩
  · rw [releases.hasTfds, queue, modifyQueue_queue]
  · rw [releases.tfdsDmaPtr, queue, modifyQueue_queue]

/-- The same of the whole allocation. -/
theorem txqAlloc_stale {slots : Nat} (zero : st.queue txqId = .zero)
    (went : iwlPcieTxqAlloc (.dma (.firstTb txqId) .noSegments) txqId slots false st = .ok (false, st')) :
    (st'.queue txqId).hasTfds = true ∧ (st'.queue txqId).tfdsDmaPtr = some (.tfds txqId) ∧
      st'.heap (.tfds txqId) ≠ .live := by
  unfold iwlPcieTxqAlloc iwhZalloc at went
  rw [zero, if_neg (show ¬ (IwlTxq.zero.entries.isSome || IwlTxq.zero.hasTfds) = true by decide),
    if_neg (by simp)] at went
  exact allocTfds_stale went

/-- A data queue whose DMA memory has an object that is not allocated. -/
theorem txqAlloc_noObject {block : Block} (dma : block = .tfds txqId ∨ block = .firstTb txqId) {slots : Nat}
    (zero : st.queue txqId = .zero) (result : Bool × IwlTransPcie) :
    iwlPcieTxqAlloc (.dma block .noObject) txqId slots false st ≠ .ok result := by
  intro went
  unfold iwlPcieTxqAlloc iwhZalloc at went
  rw [zero, if_neg (show ¬ (IwlTxq.zero.entries.isSome || IwlTxq.zero.hasTfds) = true by decide),
    if_neg (by simp)] at went
  obtain ⟨⟨tfdsDma, first⟩, made, rest⟩ := bind_eq_ok went
  unfold allocateDmaBuf at made
  rcases dma with rfl | rfl
  · rw [if_pos rfl] at made
    cases made
  · rw [if_neg (by simp), if_neg (by simp)] at made
    obtain ⟨rfl, _⟩ := Prod.mk.inj (Except.ok.inj made)
    obtain ⟨_, made', _⟩ := bind_eq_ok rest
    unfold allocateDmaBuf at made'
    rw [if_pos rfl] at made'
    cases made'

/-- A queue that cannot be freed: a command queue without its entries, or descriptors that are already
released. -/
inductive Stuck (cmdQueue txqId : Nat) (st : IwlTransPcie) : Prop
  | noEntries (own : txqId = cmdQueue) (there : st.txq txqId = true)
      (entries : (st.queue txqId).entries = none) (window : 0 < (st.queue txqId).nWindow)
  | stale (data : txqId ≠ cmdQueue) (there : st.txq txqId = true)
      (hasTfds : (st.queue txqId).hasTfds = true)
      (tfds : (st.queue txqId).tfdsDmaPtr = some (.tfds txqId)) (gone : st.heap (.tfds txqId) ≠ .live)

/-- **Freeing it is a fault.** -/
theorem freeQueue_stuck (stuck : Stuck cmdQueue txqId st) : freeQueue cmdQueue st txqId ≠ .ok st' := by
  intro went
  obtain ⟨mid, freed, _⟩ := bind_eq_ok went
  unfold iwlPcieTxqFree at freed
  cases stuck with
  | noEntries own there entries window =>
    rw [there, if_pos own] at freed
    obtain ⟨_, cmds, _⟩ := bind_eq_ok freed
    obtain ⟨n, window⟩ := Nat.exists_eq_succ_of_ne_zero (Nat.ne_of_gt window)
    unfold freeCmds at cmds
    rw [window, List.range_succ_eq_map, List.foldlM_cons] at cmds
    obtain ⟨_, first, _⟩ := bind_eq_ok cmds
    unfold freeCmd at first
    rw [entries] at first
    cases first
  | stale data there hasTfds tfds gone =>
    rw [there, if_neg data] at freed
    obtain ⟨_, same, freed⟩ := bind_eq_ok freed
    obtain rfl := Except.ok.inj same
    rw [hasTfds, if_pos rfl] at freed
    obtain ⟨_, freed, _⟩ := bind_eq_ok freed
    obtain ⟨_, freed, _⟩ := bind_eq_ok freed
    unfold freeDmaBuf at freed
    rw [tfds, access_stale gone] at freed
    cases freed

/-- What freeing another queue does not change. -/
structure Apart (txqId : Nat) (st st' : IwlTransPcie) : Prop where
  queue : st'.queue txqId = st.queue txqId
  txq : st'.txq txqId = st.txq txqId
  dead : ∀ block, st.heap block ≠ .live → st'.heap block ≠ .live

theorem Apart.refl (txqId : Nat) (st : IwlTransPcie) : Apart txqId st st := ⟨rfl, rfl, fun _ gone => gone⟩

theorem Apart.trans (first : Apart txqId st st') (second : Apart txqId st' st'') : Apart txqId st st'' :=
  ⟨second.queue.trans first.queue, second.txq.trans first.txq,
    fun block gone => second.dead block (first.dead block gone)⟩

theorem iwhFree_apart {pointer : Pointer Block} (freed : iwhFree pointer st = .ok st') :
    Apart txqId st st' := by
  obtain ⟨heap, released, rfl⟩ := iwhFree_eq_ok freed
  exact ⟨rfl, rfl, fun _ gone => release_not_live released gone⟩

theorem freeCmds_apart {k : Nat} (indices : List Nat)
    (freed : indices.foldlM (freeCmd k) st = .ok st') : Apart txqId st st' := by
  refine foldlM_does (.refl _) .trans (fun freed => ?_) indices freed
  obtain ⟨_, freed⟩ := freeCmd_frees freed
  exact iwhFree_apart freed

theorem freeTfds_apart {k : Nat} (freed : freeTfds k st = .ok st') : Apart txqId st st' := by
  obtain ⟨mid, tfds, firstTb⟩ := bind_eq_ok freed
  obtain ⟨_, _, tfds⟩ := bind_eq_ok tfds
  obtain ⟨_, _, firstTb⟩ := bind_eq_ok firstTb
  exact (iwhFree_apart tfds).trans (iwhFree_apart firstTb)

/-- **Another queue is freed.** -/
theorem freeQueue_apart {k : Nat} (differ : txqId ≠ k) (went : freeQueue cmdQueue st k = .ok st') :
    Apart txqId st st' := by
  obtain ⟨mid, freed, same⟩ := bind_eq_ok went
  obtain rfl := Except.ok.inj same
  have cleared : Apart txqId mid { mid with txq := Function.update mid.txq k false } :=
    ⟨rfl, Function.update_of_ne differ _ _, fun _ gone => gone⟩
  refine .trans ?_ cleared
  unfold iwlPcieTxqFree at freed
  split at freed
  · obtain rfl := Except.ok.inj freed
    exact .refl _ _
  · obtain ⟨first, cmds, rest⟩ := bind_eq_ok freed
    obtain ⟨second, tfds, rest⟩ := bind_eq_ok rest
    obtain ⟨third, entries, last⟩ := bind_eq_ok rest
    obtain rfl := Except.ok.inj last
    have afterCmds : Apart txqId st first := by
      split at cmds
      · exact freeCmds_apart _ cmds
      · obtain rfl := Except.ok.inj cmds
        exact .refl _ _
    have afterTfds : Apart txqId first second := by
      split at tfds
      · exact freeTfds_apart tfds
      · obtain rfl := Except.ok.inj tfds
        exact .refl _ _
    refine ((afterCmds.trans afterTfds).trans (iwhFree_apart entries)).trans ⟨?_, rfl, fun _ gone => gone⟩
    exact Function.update_of_ne differ _ _

theorem Stuck.apart (same : Apart txqId st st') (stuck : Stuck cmdQueue txqId st) :
    Stuck cmdQueue txqId st' := by
  cases stuck with
  | noEntries own there entries window =>
    exact .noEntries own (same.txq.trans there) (by rw [same.queue]; exact entries)
      (by rw [same.queue]; exact window)
  | stale data there hasTfds tfds gone =>
    exact .stale data (same.txq.trans there) (by rw [same.queue]; exact hasTfds)
      (by rw [same.queue]; exact tfds) (same.dead _ gone)

/-- **The loop over the queues does not end** if one of them cannot be freed. -/
theorem freeQueues_stuck {queues : List Nat} (member : txqId ∈ queues) (stuck : Stuck cmdQueue txqId st) :
    queues.foldlM (freeQueue cmdQueue) st ≠ .ok st' := by
  induction queues generalizing st with
  | nil => cases member
  | cons first later ih =>
    rw [List.foldlM_cons]
    intro went
    obtain ⟨mid, freed, rest⟩ := bind_eq_ok went
    by_cases here : txqId = first
    · subst here
      exact freeQueue_stuck stuck freed
    · exact ih ((List.mem_cons.mp member).resolve_left here) (stuck.apart (freeQueue_apart here freed)) rest

theorem txFree_stuck {numOfQueues : Nat} (less : txqId < numOfQueues) (txqMemory : st.txqMemory.isSome)
    (stuck : Stuck cmdQueue txqId st) : iwlPcieTxFree numOfQueues cmdQueue st ≠ .ok st' := by
  intro went
  unfold iwlPcieTxFree at went
  rw [if_pos txqMemory] at went
  obtain ⟨mid, freed, _⟩ := bind_eq_ok went
  exact freeQueues_stuck (List.mem_range.mpr less) stuck freed

/-! ### The loop that allocates the queues -/

/-- The blocks that no queue owns are allocated. -/
structure Shared (st : IwlTransPcie) : Prop where
  txqMemory : st.txqMemory = some .txqMemory
  memoryLive : st.heap .txqMemory = .live
  kw : st.kw = some .kw
  kwLive : st.heap .kw = .live
  scdBcTbls : st.scdBcTbls = some .scdBcTbls
  scdBcTblsLive : st.heap .scdBcTbls = .live

theorem Shared.only (only : OnlyQueue cmdQueue txqId st st') (shared : Shared st) : Shared st' where
  txqMemory := only.txqMemory.trans shared.txqMemory
  memoryLive := (only.heap _ (by simp [Block.owner])).trans shared.memoryLive
  kw := only.kw.trans shared.kw
  kwLive := (only.heap _ (by simp [Block.owner])).trans shared.kwLive
  scdBcTbls := only.scdBcTbls.trans shared.scdBcTbls
  scdBcTblsLive := (only.heap _ (by simp [Block.owner])).trans shared.scdBcTblsLive

/-- `txq[txq_id]` points to its queue. -/
theorem OnlyQueue.setTxq (cmdQueue txqId : Nat) (st : IwlTransPcie) :
    OnlyQueue cmdQueue txqId st { st with txq := Function.update st.txq txqId true } :=
  ⟨fun _ _ => rfl, fun _ _ => rfl, fun _ other => Function.update_of_ne other _ _, rfl, rfl, rfl⟩

/-- A queue that has a structure and all its memory. -/
def Allocated (cmdQueue txqId : Nat) (st : IwlTransPcie) : Prop :=
  st.txq txqId = true ∧ Complete cmdQueue txqId st

/-- **The queues before the failure are allocated**, and the others stay as they are. -/
theorem allocQueues_before {failure : Failure} (queues : List Nat) (nodup : queues.Nodup)
    (other : ∀ k ∈ queues, failure.block.owner cmdQueue ≠ some k) (shared : Shared st)
    (untouched : ∀ k ∈ queues, Untouched cmdQueue k st) :
    ∃ st', (∀ later, allocQueues failure cmdQueue (queues ++ later) st =
        allocQueues failure cmdQueue later st') ∧ Shared st' ∧
      (∀ k ∈ queues, Allocated cmdQueue k st') ∧
      ∀ k ∉ queues, (Untouched cmdQueue k st → Untouched cmdQueue k st') ∧
        (Allocated cmdQueue k st → Allocated cmdQueue k st') := by
  induction queues generalizing st with
  | nil =>
    exact ⟨st, fun _ => rfl, shared, fun _ none => absurd none List.not_mem_nil, fun _ _ => ⟨id, id⟩⟩
  | cons first later ih =>
    obtain ⟨notLater, nodup⟩ := List.nodup_cons.mp nodup
    have here := untouched first List.mem_cons_self
    have set := OnlyQueue.setTxq cmdQueue first st
    obtain ⟨mid, went, only, txq, all⟩ := @txqAlloc_succeeds cmdQueue first
      { st with txq := Function.update st.txq first true } failure (other first List.mem_cons_self)
      here.queue here.gone
    have only := set.trans only
    have there : mid.txq first = true := by
      rw [txq]
      exact Function.update_self _ _ _
    have stays (k : Nat) (differ : k ≠ first) : (Untouched cmdQueue k st → Untouched cmdQueue k mid) ∧
        (Allocated cmdQueue k st → Allocated cmdQueue k mid) :=
      ⟨.only differ only, fun ⟨present, all⟩ => ⟨(only.txq k differ).trans present, all.only differ only⟩⟩
    have apart (k : Nat) (member : k ∈ later) : k ≠ first := fun same => notLater (same ▸ member)
    obtain ⟨last, rest, shared, allocated, others⟩ := ih nodup
      (fun k member => other k (List.mem_cons_of_mem _ member)) (shared.only only)
      fun k member => (stays k (apart k member)).1 (untouched k (List.mem_cons_of_mem _ member))
    refine ⟨last, fun further => ?_, shared, fun k member => ?_, fun k absent => ?_⟩
    · rw [List.cons_append, allocQueues]
      show (iwlPcieTxqAlloc failure first (slotsNum cmdQueue first) (first = cmdQueue) _ >>= _) = _
      rw [went]
      exact rest further
    · rcases List.mem_cons.mp member with rfl | member
      · exact (others k notLater).2 ⟨there, all⟩
      · exact allocated k member
    · obtain ⟨notHere, notLater⟩ := not_or.mp (mt List.mem_cons.mpr absent)
      exact ⟨(others k notLater).1 ∘ (stays k notHere).1, (others k notLater).2 ∘ (stays k notHere).2⟩

/-- **The shared blocks are allocated** when the failure is a queue's. -/
theorem txAlloc_shared {failure : Failure} (own : failure.block.owner cmdQueue = some txqId) (n : Nat) :
    ∃ st, txAllocUntilError failure n cmdQueue .zero = allocQueues failure cmdQueue (List.range n) st ∧
      Shared st ∧ ∀ k, Untouched cmdQueue k st := by
  have dma (block : Block) (none : block.owner cmdQueue = none) (how : DmaFailure) :
      failure ≠ .dma block how := by
    rintro rfl
    exact Option.some_ne_none _ (own.symm.trans none)
  have zalloc (block : Block) (none : block.owner cmdQueue = none) : failure ≠ .zalloc block := by
    rintro rfl
    exact Option.some_ne_none _ (own.symm.trans none)
  let heap := allocate (allocate (allocate (fun _ => .fresh) Block.scdBcTbls) .kw) .txqMemory
  refine ⟨⟨heap, some .scdBcTbls, some .kw, some .txqMemory, fun _ => false, fun _ => .zero⟩, ?_,
    ⟨rfl, rfl, rfl, rfl, rfl, rfl⟩, fun k => ⟨rfl, rfl, fun block mine => ?_⟩⟩
  · unfold txAllocUntilError
    rw [dma_other (dma .scdBcTbls rfl)]
    show (allocateDmaBuf failure .kw _ >>= _) = _
    rw [dma_other (dma .kw rfl)]
    dsimp only [bind, Except.bind, Option.isNone]
    rw [zalloc_other (zalloc .txqMemory rfl)]
    rfl
  · cases block with
    | scdBcTbls => cases mine
    | kw => cases mine
    | txqMemory => cases mine
    | _ => exact Cell.noConfusion

/-- **The allocation up to the queue that fails.** -/
theorem txAlloc_until {failure : Failure} (own : failure.block.owner cmdQueue = some txqId) {n : Nat}
    (less : txqId < n) :
    ∃ st later, Shared st ∧ Untouched cmdQueue txqId st ∧
      (∀ k, k ≠ txqId → Allocated cmdQueue k st ∨ Untouched cmdQueue k st) ∧
      (∀ k ≥ n, Untouched cmdQueue k st) ∧
      txAllocUntilError failure n cmdQueue .zero = allocQueues failure cmdQueue (txqId :: later) st := by
  obtain ⟨start, started, shared, untouched⟩ := txAlloc_shared own n
  obtain ⟨before, later, split⟩ := List.append_of_mem (List.mem_range.mpr less)
  have nodup : (before ++ txqId :: later).Nodup := split ▸ List.nodup_range
  have notBefore : txqId ∉ before := fun member =>
    (List.nodup_append.mp nodup).2.2 txqId member txqId List.mem_cons_self rfl
  have small (k : Nat) (member : k ∈ before) : k < n :=
    List.mem_range.mp (split ▸ List.mem_append_left _ member)
  obtain ⟨st, went, shared, allocated, others⟩ := allocQueues_before before
    (List.nodup_append.mp nodup).1
    (fun k member same => notBefore (Option.some.inj (own.symm.trans same) ▸ member)) shared
    fun k _ => untouched k
  refine ⟨st, later, shared, (others _ notBefore).1 (untouched _), fun k _ => ?_, fun k past => ?_, ?_⟩
  · by_cases member : k ∈ before
    · exact .inl (allocated k member)
    · exact .inr ((others k member).1 (untouched k))
  · exact (others k fun member => absurd (small k member) (Nat.not_lt.mpr past)).1 (untouched k)
  · rw [started, split, went]

/-! ### What is left after a failure -/

/-- The allocations that are tried. -/
def Requested (numOfQueues cmdQueue : Nat) : Failure → Prop
  | .zalloc .txqMemory => True
  | .zalloc (.entries txqId) => txqId < numOfQueues
  | .zalloc (.cmd i) => cmdQueue < numOfQueues ∧ i < tfdCmdSlots
  | .dma .scdBcTbls _ => True
  | .dma .kw _ => True
  | .dma (.tfds txqId) _ => txqId < numOfQueues
  | .dma (.firstTb txqId) _ => txqId < numOfQueues
  | _ => False

/-- The call fails without a fault, and nothing it allocated is left. -/
def CleansUp (failure : Failure) (numOfQueues cmdQueue : Nat) : Prop :=
  ∃ st, iwlPcieTxAlloc failure numOfQueues cmdQueue .zero = .ok (false, st) ∧
    ∀ block, st.heap block ≠ .live

/-- The failures after which it does. -/
def cleanFailure (cmdQueue : Nat) : Failure → Bool
  | .zalloc .txqMemory => true
  | .zalloc (.entries txqId) => txqId ≠ cmdQueue
  | .dma (.tfds txqId) .noSegments => txqId ≠ cmdQueue
  | _ => false

/-- **All is released** when a data queue is left bare. -/
theorem cleansUp_bare {failure : Failure} {numOfQueues : Nat} (less : txqId < numOfQueues)
    (data : txqId ≠ cmdQueue)
    (fails : failure = .zalloc (.entries txqId) ∨ failure = .dma (.tfds txqId) .noSegments) :
    CleansUp failure numOfQueues cmdQueue := by
  have own : failure.block.owner cmdQueue = some txqId := by
    rcases fails with rfl | rfl
    · rfl
    · rfl
  obtain ⟨start, later, shared, here, others, beyond, until'⟩ := txAlloc_until own less
  have set := OnlyQueue.setTxq cmdQueue txqId start
  obtain ⟨mid, went, only, entries, hasTfds, gone⟩ := @txqAlloc_bare cmdQueue txqId
    { start with txq := Function.update start.txq txqId true } failure data (slotsNum cmdQueue txqId) fails
    here.queue here.gone
  have only := set.trans only
  have shared := shared.only only
  have free (k : Nat) (_ : k < numOfQueues) : Freeable cmdQueue k mid := by
    by_cases same : k = txqId
    · subst same
      exact .bare data entries hasTfds gone
    · rcases others k same with ⟨there, all⟩ | untouched
      · exact .only same only (.complete there all)
      · exact .only same only (.absent untouched.txq untouched.gone)
  obtain ⟨last, freed, clean⟩ := txFree_clean shared.txqMemory shared.memoryLive shared.kw shared.kwLive
    shared.scdBcTbls shared.scdBcTblsLive free fun k past =>
      (beyond k past).gone.only (Nat.ne_of_gt (Nat.lt_of_lt_of_le less past)) only
  refine ⟨last, ?_, clean⟩
  unfold iwlPcieTxAlloc
  rw [until', allocQueues]
  show ((iwlPcieTxqAlloc failure txqId (slotsNum cmdQueue txqId) (txqId = cmdQueue) _ >>= _) >>= _) = _
  rw [went]
  show (iwlPcieTxFree numOfQueues cmdQueue mid >>= _) = _
  rw [freed]
  rfl

/-- **The release does not end** when the failure leaves a queue that cannot be freed. -/
theorem not_cleansUp {failure : Failure} {numOfQueues : Nat} (less : txqId < numOfQueues)
    (concerns : failure.concerns cmdQueue txqId) (own : failure.block.owner cmdQueue = some txqId)
    (dirty : txqId = cmdQueue ∨ failure = .dma (.firstTb txqId) .noSegments ∨
      ∃ block, (block = .tfds txqId ∨ block = .firstTb txqId) ∧ failure = .dma block .noObject) :
    ¬ CleansUp failure numOfQueues cmdQueue := by
  rintro ⟨last, went, _⟩
  obtain ⟨start, later, shared, here, _, _, until'⟩ := txAlloc_until own less
  obtain ⟨⟨ended, mid⟩, first, rest⟩ := bind_eq_ok went
  rw [until', allocQueues] at first
  obtain ⟨⟨ended', mid'⟩, alloc, same⟩ := bind_eq_ok first
  have zero : ({ start with txq := Function.update start.txq txqId true } : IwlTransPcie).queue txqId =
      .zero := here.queue
  cases ended' with
  | true => exact txqAlloc_fails concerns zero mid' alloc
  | false =>
    obtain ⟨rfl, rfl⟩ := Prod.mk.inj (Except.ok.inj same)
    obtain ⟨entries, nWindow, txq, txqMemory⟩ := txqAlloc_false zero alloc
    obtain ⟨_, freed, _⟩ := bind_eq_ok rest
    have there : mid'.txq txqId = true := by
      rw [txq]
      exact Function.update_self _ _ _
    have memory : mid'.txqMemory.isSome := by
      rw [txqMemory]
      exact congrArg Option.isSome shared.txqMemory
    refine txFree_stuck less memory ?_ freed
    by_cases isCmd : txqId = cmdQueue
    · refine .noEntries isCmd there entries ?_
      rw [nWindow, if_pos isCmd]
      decide
    · rw [decide_eq_false isCmd] at alloc
      rcases dirty with rfl | rfl | ⟨block, dma, rfl⟩
      · exact absurd rfl isCmd
      · obtain ⟨hasTfds, tfds, gone⟩ := txqAlloc_stale zero alloc
        exact .stale isCmd there hasTfds tfds gone
      · exact absurd alloc (txqAlloc_noObject dma zero _)

/-- Without the byte-count tables or the keep-warm buffer, `iwl_pcie_tx_free` dereferences NULL. -/
theorem not_cleansUp_shared (numOfQueues : Nat) {block : Block} (shared : block = .scdBcTbls ∨ block = .kw)
    (how : DmaFailure) : ¬ CleansUp (.dma block how) numOfQueues cmdQueue := by
  rintro ⟨st, went, _⟩
  rcases shared with rfl | rfl <;> cases how <;> cases went

/-- Without the queues, what was allocated before is released. -/
theorem cleansUp_txqMemory (numOfQueues : Nat) : CleansUp (.zalloc .txqMemory) numOfQueues cmdQueue := by
  refine ⟨_, rfl, fun block => ?_⟩
  cases block <;> exact Cell.noConfusion

/-- **When a failed allocation of the TX queues releases all it allocated**: if it is `txq_memory`, or the
entries of a data queue, or its descriptors as `allocate_dma_buf` reports it. -/
theorem cleansUp_iff (failure : Failure) (numOfQueues cmdQueue : Nat)
    (requested : Requested numOfQueues cmdQueue failure) :
    CleansUp failure numOfQueues cmdQueue ↔ cleanFailure cmdQueue failure = true := by
  cases failure with
  | zalloc block =>
    cases block with
    | txqMemory => exact iff_of_true (cleansUp_txqMemory numOfQueues) rfl
    | entries txqId =>
      by_cases isCmd : txqId = cmdQueue
      · exact iff_of_false (not_cleansUp requested rfl rfl (.inl isCmd)) (by simp [cleanFailure, isCmd])
      · exact iff_of_true (cleansUp_bare requested isCmd (.inl rfl)) (by simp [cleanFailure, isCmd])
    | cmd i =>
      exact iff_of_false (not_cleansUp requested.1 ⟨rfl, requested.2⟩ rfl (.inl rfl)) Bool.false_ne_true
    | _ => exact absurd requested id
  | dma block how =>
    cases block with
    | scdBcTbls => exact iff_of_false (not_cleansUp_shared numOfQueues (.inl rfl) how) Bool.false_ne_true
    | kw => exact iff_of_false (not_cleansUp_shared numOfQueues (.inr rfl) how) Bool.false_ne_true
    | tfds txqId =>
      cases how with
      | noObject =>
        exact iff_of_false (not_cleansUp requested rfl rfl (.inr (.inr ⟨_, .inl rfl, rfl⟩)))
          Bool.false_ne_true
      | noSegments =>
        by_cases isCmd : txqId = cmdQueue
        · exact iff_of_false (not_cleansUp requested rfl rfl (.inl isCmd)) (by simp [cleanFailure, isCmd])
        · exact iff_of_true (cleansUp_bare requested isCmd (.inr rfl)) (by simp [cleanFailure, isCmd])
    | firstTb txqId =>
      refine iff_of_false (not_cleansUp requested rfl rfl (.inr ?_)) (by cases how <;> exact Bool.false_ne_true)
      cases how with
      | noObject => exact .inr ⟨_, .inr rfl, rfl⟩
      | noSegments => exact .inl rfl
    | _ => exact absurd requested id

/-- The entries of the last of three queues, with the second for commands. -/
theorem cleansUp_iff_entries : Requested 3 1 (.zalloc (.entries 2)) ∧ CleansUp (.zalloc (.entries 2)) 3 1 :=
  ⟨by unfold Requested; decide, (cleansUp_iff (.zalloc (.entries 2)) 3 1 (by unfold Requested; decide)).mpr rfl⟩

/-- **An allocation that is not cleaned up**: the first-TB buffers of the last of three queues are not
allocated, and its descriptors are used after they are released. -/
theorem firstTb_stale : Requested 3 1 (.dma (.firstTb 2) .noSegments) ∧
    iwlPcieTxAlloc (.dma (.firstTb 2) .noSegments) 3 1 .zero = .error .stale ∧
      ¬ CleansUp (.dma (.firstTb 2) .noSegments) 3 1 := by
  have stale : iwlPcieTxAlloc (.dma (.firstTb 2) .noSegments) 3 1 .zero = .error .stale := rfl
  refine ⟨by unfold Requested; decide, stale, ?_⟩
  rintro ⟨st, went, _⟩
  rw [stale] at went
  cases went

end IntelWifi.Pcie.TxAlloc
