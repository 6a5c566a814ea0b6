/-
**The multi-queue receive path.**

Where `mq_rx_supported` is set, the hardware says which descriptor it has filled: the low 12 bits of
`used_bd[i]` are a `vid`, one more than a place of `global_table`. The lists, the counts and the allocator
are those of `RxState`, whose ring is not used. `device` is for stating what happened: the descriptors that
restocking gave to the hardware and that have not been handled since.

A run is a sequence of initialisations, of entries into `iwl_pcie_rx_handle` and of turns of its loop; a
turn that leaves the loop does what stands behind `out`. After a fault nothing runs any more.

* `Owned`: every descriptor is in one list or with the hardware, and `invalid` tells which.
* `mqSound_iff`: what `used_bd` names is rightly handled or rejected all along exactly the runs where no
  `vid` lies between the entries that are filled and the end of the table.
-/

import IntelWifi.Lib.Machine
import IntelWifi.Pcie.RxConservation

namespace IntelWifi.Pcie.Rxq

open IntelWifi.Machine

/-- `MQ_RX_TABLE_SIZE`, the `queue_size` of the queue. -/
def mqRxTableSize : Nat := 512

theorem mqRxTableSize_pos : 0 < mqRxTableSize := by decide

/-- `MQ_RX_NUM_RBDS`. -/
def mqRxNumRbds : Nat := mqRxTableSize - 1

/-- `IWL_MAX_RX_HW_QUEUES`. -/
def iwlMaxRxHwQueues : Nat := 16

/-- `RX_POOL_SIZE`, the size of `rx_pool` and of `global_table`. -/
def rxPoolSize : Nat := mqRxNumRbds + iwlMaxRxHwQueues * (rxClaimReqAlloc - rxPostReqAlloc)

/-- `num_alloc`, with one queue. -/
def mqNumAlloc : Nat := mqRxNumRbds + allocatorPoolSize

abbrev MqIndex := Fin mqRxTableSize

/-- `(i + 1) & MQ_RX_TABLE_MASK`. -/
def mqIncWrap (i : MqIndex) : MqIndex := ⟨(i.val + 1) % mqRxTableSize, Nat.mod_lt _ (by decide)⟩

/-- The descriptors in a list of the driver. -/
def RxState.listed (st : RxState) : List Rxb :=
  st.rxFree ++ st.rxUsed ++ st.rbdEmpty ++ st.rbdAllocated

/-- The queue, the allocator and the pool. -/
structure MqState where
  rx : RxState
  globalTable : Nat → Option Rxb
  invalid : Rxb → Bool
  read : MqIndex
  write : MqIndex
  bd : MqIndex → Option Rxb
  device : List Rxb

/-- `iwl_pcie_rxq_inc_wr_ptr`. -/
def mqIncWrPtr (asleep : Bool) (mq : MqState) : MqState :=
  if asleep then { mq with rx := { mq.rx with needUpdate := true } }
  else { mq with rx := { mq.rx with writeActual := mq.write.val / 8 * 8 } }

/-- The loop of `iwl_pcie_rxmq_restock`, which looks at `free_count` only. -/
def mqRestockLoop : Nat → MqState → Except RxFault MqState
  | 0, mq => .ok mq
  | left + 1, mq =>
    match mq.rx.rxFree with
    | [] => .error .emptyList
    | rxb :: rest =>
      mqRestockLoop left { mq with
        rx := { mq.rx with rxFree := rest, freeCount := left }
        invalid := Function.update mq.invalid rxb false
        bd := Function.update mq.bd mq.write (some rxb)
        write := mqIncWrap mq.write
        device := mq.device ++ [rxb] }

/-- `iwl_pcie_rxmq_restock`. -/
def iwlPcieRxmqRestock (enabled asleep : Bool) (mq : MqState) : Except RxFault MqState :=
  if !enabled then .ok mq
  else do
    let mq ← mqRestockLoop mq.rx.freeCount mq
    return if mq.rx.writeActual ≠ mq.write.val / 8 * 8 then mqIncWrPtr asleep mq else mq

/-- `iwl_pcie_rxq_alloc_rbs`. -/
def mqAllocRbs (attempts : List PageAttempt) (mq : MqState) : MqState :=
  { mq with rx := iwlPcieRxqAllocRbs { mq.rx with attempts := attempts } }

/-- `_iwl_pcie_rx_init`, up to the first pages. The entries of `global_table` behind `num_alloc` are left
as they are, and so is `need_update`. -/
def mqPools (mq : MqState) : MqState where
  rx := { rxPools [] with
    needUpdate := mq.rx.needUpdate
    rxUsed := ((List.range mqNumAlloc).drop allocatorPoolSize).reverse
    rbdEmpty := ((List.range mqNumAlloc).take allocatorPoolSize).reverse }
  globalTable := fun place => if place < mqNumAlloc then some place else mq.globalTable place
  invalid := fun rxb => if rxb < mqNumAlloc then true else mq.invalid rxb
  read := ⟨0, mqRxTableSize_pos⟩
  write := ⟨0, mqRxTableSize_pos⟩
  bd := mq.bd
  device := []

/-- `iwl_pcie_rx_init`. -/
def iwlPcieRxMqInit (env : RxInitEnv) (mq : MqState) : Except RxFault MqState := do
  let mq ← iwlPcieRxmqRestock env.enabled env.asleep (mqAllocRbs env.attempts (mqPools mq))
  return mqIncWrPtr env.asleep mq

/-! ### Handling what the hardware names -/

/-- `le32_to_cpu(rxq->used_bd[i]) & 0x0FFF`. -/
def vidOf (usedBd : BitVec 32) : Nat := (usedBd &&& 0x0FFF#32).toNat

/-- What a value of `used_bd` is found to name. -/
inductive Named where
  | notValid
  | nullEntry
  | buffer (rxb : Rxb)
  deriving DecidableEq, Repr

/-- The two checks of the loop, with the entry of `global_table` between them. -/
def MqState.named (mq : MqState) (usedBd : BitVec 32) : Named :=
  if vidOf usedBd = 0 ∨ rxPoolSize < vidOf usedBd then .notValid
  else
    match mq.globalTable (vidOf usedBd - 1) with
    | none => .nullEntry
    | some rxb => if mq.invalid rxb then .notValid else .buffer rxb

/-- What one turn of the loop meets. -/
structure MqTurnEnv where
  usedBd : BitVec 32
  stolen : Bool
  mapped : Bool
  enabled : Bool
  asleep : Bool
  closedRbNum : Nat
  attempts : List PageAttempt

/-- `closed_rb_num` as an index of the ring. -/
def mqClosed (closedRbNum : Nat) : MqIndex :=
  ⟨closedRbNum % 2 ^ 12 % mqRxTableSize, Nat.mod_lt _ (by decide)⟩

/-- The variables of `iwl_pcie_rx_handle`. -/
structure MqPass where
  i : MqIndex
  r : MqIndex
  count : Nat
  emergency : Bool

/-- `iwl_pcie_rx_handle` behind `out`. -/
def mqOut (env : MqTurnEnv) (pass : MqPass) (mq : MqState) : Except RxFault MqState :=
  let mq := { mq with read := pass.i }
  let mq := if pass.emergency && pass.count != 0 then mqAllocRbs env.attempts mq else mq
  iwlPcieRxmqRestock env.enabled env.asleep mq

/-- The descriptor is the driver's again: `rxb->invalid = true`. -/
def MqState.take (mq : MqState) (rxb : Rxb) : MqState :=
  { mq with invalid := Function.update mq.invalid rxb true, device := mq.device.erase rxb }

/-- The turn behind `iwl_pcie_rx_handle_rb`, up to the claim. -/
def mqClaim (rx : RxState) : Except RxFault RxState :=
  if rxClaimReqAlloc ≤ rx.usedCount then iwlPcieRxAllocatorGet rx else .ok rx

/-- The turn behind the claim, with `goto restart`. -/
def mqContinue (env : MqTurnEnv) (pass : MqPass) (mq : MqState) : Except RxFault (MqState × MqPass) :=
  if mq.rx.usedCount % rxClaimReqAlloc = 0 ∧ pass.emergency = false then
    .ok ({ mq with rx := handOver mq.rx }, pass)
  else if pass.emergency then
    if pass.count + 1 = 8 then do
      let restocked ← iwlPcieRxmqRestock env.enabled env.asleep
        (mqAllocRbs mq.rx.attempts { mq with read := pass.i })
      return (restocked, ⟨restocked.read, mqClosed env.closedRbNum, 0,
        !(mq.rx.usedCount < mqRxTableSize / 3)⟩)
    else .ok (mq, { pass with count := pass.count + 1 })
  else .ok (mq, pass)

/-- The rest of a turn, for a descriptor that is handled. -/
def mqHandle (env : MqTurnEnv) (pass : MqPass) (mq : MqState) (rxb : Rxb) :
    Except RxFault (MqState × MqPass) := do
  let mq := mq.take rxb
  let rx ← mqClaim (iwlPcieRxHandleRb env.stolen env.mapped pass.emergency
    { mq.rx with attempts := env.attempts } (some rxb))
  mqContinue env { pass with i := mqIncWrap pass.i } { mq with rx := rx }

/-! ### The system -/

/-- What the last step made of a value of `used_bd`, with the state in which it found it. -/
inductive Completion where
  | none
  | rejected (before : MqState)
  | handled (rxb : Rxb) (before : MqState)
  | nullEntry

/-- The driver, with the pass of `iwl_pcie_rx_handle` that it is in. -/
structure MqSystem where
  mq : MqState
  pass : Option MqPass
  stopped : Bool
  last : Completion

inductive MqAct where
  | init (env : RxInitEnv)
  | enter (closedRbNum : Nat)
  | turn (env : MqTurnEnv)

/-- How a step ends: a fault stops the system. -/
def MqSystem.settle (sys : MqSystem) (last : Completion) :
    Except RxFault (MqState × Option MqPass) → MqSystem
  | .ok (mq, pass) => ⟨mq, pass, false, last⟩
  | .error _ => ⟨sys.mq, none, true, last⟩

/-- One turn of the loop of `iwl_pcie_rx_handle`. -/
def mqTurn (env : MqTurnEnv) (pass : MqPass) (sys : MqSystem) : MqSystem :=
  if pass.i = pass.r then sys.settle .none ((mqOut env pass sys.mq).map (·, none))
  else
    let pass := { pass with emergency := pass.emergency || sys.mq.rx.usedCount == mqRxTableSize / 2 }
    match sys.mq.named env.usedBd with
    | .notValid => sys.settle (.rejected sys.mq) ((mqOut env pass sys.mq).map (·, none))
    | .nullEntry => ⟨sys.mq, none, true, .nullEntry⟩
    | .buffer rxb =>
      sys.settle (.handled rxb sys.mq)
        ((mqHandle env pass sys.mq rxb).map fun (mq, pass) => (mq, some pass))

/-- One step. A pass is entered and the receive path is initialised outside of passes only. -/
def mqStep (sys : MqSystem) (act : MqAct) : Option MqSystem :=
  if sys.stopped then some sys
  else
    match act, sys.pass with
    | .init env, none => some (sys.settle .none ((iwlPcieRxMqInit env sys.mq).map (·, none)))
    | .enter closedRbNum, none =>
      some ⟨sys.mq, some ⟨sys.mq.read, mqClosed closedRbNum, 0, false⟩, false, .none⟩
    | .turn env, some pass => some (mqTurn env pass sys)
    | _, _ => some { sys with last := .none }

/-- The state that `iwl_trans_pcie_alloc` leaves: it is all zero. -/
def mqZero : MqState where
  rx := { rxPools [] with rxUsed := [], rbdEmpty := [] }
  globalTable := fun _ => none
  invalid := fun _ => false
  read := ⟨0, mqRxTableSize_pos⟩
  write := ⟨0, mqRxTableSize_pos⟩
  bd := fun _ => none
  device := []

/-- The system behind the first initialisation. -/
def mqStart (env : RxInitEnv) : MqSystem :=
  MqSystem.settle ⟨mqZero, none, true, .none⟩ .none ((iwlPcieRxMqInit env mqZero).map (·, none))

/-- **What was named is rightly handled or rejected**: a descriptor that is handled was with the hardware
and in no list of the driver, a rejection takes none from the hardware, and no entry was null. -/
def MqSystem.Sound (sys : MqSystem) : Prop :=
  match sys.last with
  | .none => True
  | .rejected before => ∀ rxb ∈ before.device, rxb ∈ sys.mq.device
  | .handled rxb before => rxb ∈ before.device ∧ rxb ∉ before.rx.listed
  | .nullEntry => False

/-- No turn reads a `vid` whose entry of `global_table` is not filled. -/
def namesFilled (sys : MqSystem) : MqAct → Bool
  | .turn env =>
    sys.stopped || sys.pass.all fun pass =>
      pass.i = pass.r ∨ vidOf env.usedBd = 0 ∨ vidOf env.usedBd ≤ mqNumAlloc ∨
        rxPoolSize < vidOf env.usedBd
  | _ => true

/-! ### The lists keep what they hold -/

/-- How often a descriptor is in the lists. -/
def RxState.held (st : RxState) (rxb : Rxb) : Nat :=
  st.rxFree.count rxb + st.rxUsed.count rxb + st.rbdEmpty.count rxb + st.rbdAllocated.count rxb

theorem count_listed (st : RxState) (rxb : Rxb) : st.listed.count rxb = st.held rxb := by
  unfold RxState.listed RxState.held
  rw [List.count_append, List.count_append, List.count_append]

theorem count_snoc (rxbs : List Rxb) (rxb other : Rxb) :
    (rxbs ++ [rxb]).count other = rxbs.count other + if rxb = other then 1 else 0 := by
  rw [List.count_append, List.count_singleton]
  simp only [beq_iff_eq]

theorem count_cons_if (rxbs : List Rxb) (rxb other : Rxb) :
    (rxb :: rxbs).count other = rxbs.count other + if rxb = other then 1 else 0 := by
  rw [List.count_cons]
  simp only [beq_iff_eq]

/-- Giving pages moves descriptors from `rx_used` to `rx_free`. -/
theorem allocRbsLoop_held (used : List Rxb) (st : RxState) (rxb : Rxb) :
    (allocRbsLoop used st).held rxb = { st with rxUsed := used }.held rxb := by
  induction used generalizing st with
  | nil => rfl
  | cons head rest ih =>
    have moved : ∀ page attempts, RxState.held { st with
        rxUsed := rest, rxFree := st.rxFree ++ [head], freeCount := st.freeCount + 1,
        page := page, attempts := attempts } rxb = { st with rxUsed := head :: rest }.held rxb := by
      intro page attempts
      unfold RxState.held
      dsimp only
      rw [count_snoc, count_cons_if]
      omega
    unfold allocRbsLoop
    split
    · rfl
    · rfl
    · rw [ih, ← moved]

theorem allocRbs_held (st : RxState) (rxb : Rxb) : (iwlPcieRxqAllocRbs st).held rxb = st.held rxb :=
  allocRbsLoop_held st.rxUsed st rxb

/-- The allocator's own list counts with those of the queue. -/
theorem allocatorLoop_held (bound pending : Nat) (st : RxState) (localEmpty : List Rxb) (rxb : Rxb) :
    (allocatorLoop bound pending st localEmpty).1.held rxb +
        (allocatorLoop bound pending st localEmpty).2.count rxb =
      st.held rxb + localEmpty.count rxb := by
  induction bound generalizing pending st localEmpty with
  | zero => rfl
  | succ bound ih =>
    cases pending with
    | zero => rfl
    | succ pending =>
      obtain ⟨page, attempts, batch⟩ := allocatorBatch_eq rxClaimReqAlloc st localEmpty []
      have split := count_take_drop rxClaimReqAlloc localEmpty rxb
      unfold allocatorLoop
      rw [batch]
      dsimp only
      rw [ih]
      unfold RxState.held
      dsimp only
      rw [List.nil_append, List.count_append, List.count_append, List.count_nil]
      omega

theorem rxAllocator_held (st : RxState) (rxb : Rxb) : (iwlPcieRxAllocator st).held rxb = st.held rxb := by
  have kept := allocatorLoop_held st.reqPending st.reqPending { st with reqPending := 0, rbdEmpty := [] }
    st.rbdEmpty rxb
  unfold iwlPcieRxAllocator
  generalize allocatorLoop st.reqPending st.reqPending { st with reqPending := 0, rbdEmpty := [] }
    st.rbdEmpty = loop at kept ⊢
  obtain ⟨after, localEmpty⟩ := loop
  unfold RxState.held at kept ⊢
  dsimp only at kept ⊢
  rw [List.count_nil] at kept
  rw [List.count_append]
  omega

theorem handOver_held (st : RxState) (rxb : Rxb) : (handOver st).held rxb = st.held rxb := by
  unfold handOver RxState.held
  dsimp only
  rw [List.count_append, List.count_nil]
  omega

theorem claimLoop_held (left : Nat) {st st' : RxState} (claimed : claimLoop left st = .ok st')
    (rxb : Rxb) : st'.held rxb = st.held rxb := by
  induction left generalizing st with
  | zero =>
    cases claimed
    rfl
  | succ left ih =>
    unfold claimLoop at claimed
    cases allocated : st.rbdAllocated with
    | nil =>
      rw [allocated] at claimed
      cases claimed
    | cons head rest =>
      rw [allocated] at claimed
      rw [ih claimed]
      unfold RxState.held
      dsimp only
      rw [allocated, count_snoc, count_cons_if]
      omega

theorem rxAllocatorGet_held {st st' : RxState} (claimed : iwlPcieRxAllocatorGet st = .ok st') (rxb : Rxb) :
    st'.held rxb = st.held rxb := by
  unfold iwlPcieRxAllocatorGet at claimed
  split at claimed
  · cases claimed
    rfl
  · cases looped : claimLoop rxClaimReqAlloc { st with reqReady := st.reqReady - 1 } with
    | error fault =>
      rw [looped] at claimed
      cases claimed
    | ok after =>
      rw [looped] at claimed
      cases claimed
      exact claimLoop_held rxClaimReqAlloc looped rxb

/-- A descriptor that is used again is in one list more. -/
theorem reuse_held (emergency : Bool) (st : RxState) (rxb other : Rxb) :
    (iwlPcieRxReuseRbd emergency st rxb).held other = st.held other + if rxb = other then 1 else 0 := by
  have added : { st with rxUsed := st.rxUsed ++ [rxb] }.held other =
      st.held other + if rxb = other then 1 else 0 := by
    unfold RxState.held
    dsimp only
    rw [count_snoc]
    omega
  unfold iwlPcieRxReuseRbd
  dsimp only
  rw [← added]
  split
  · rfl
  · split
    · rw [rxAllocator_held]
      exact handOver_held { st with rxUsed := st.rxUsed ++ [rxb], usedCount := st.usedCount + 1 } other
    · rfl

theorem handleRb_held (stolen mapped emergency : Bool) (st : RxState) (rxb other : Rxb) :
    (iwlPcieRxHandleRb stolen mapped emergency st (some rxb)).held other =
      st.held other + if rxb = other then 1 else 0 := by
  have bare : ∀ st : RxState, (if st.page rxb then
        if mapped then { st with rxFree := st.rxFree ++ [rxb], freeCount := st.freeCount + 1 }
        else iwlPcieRxReuseRbd emergency { st with page := Function.update st.page rxb false } rxb
      else iwlPcieRxReuseRbd emergency st rxb).held other =
      st.held other + if rxb = other then 1 else 0 := by
    intro st
    split
    · split
      · unfold RxState.held
        dsimp only
        rw [count_snoc]
        omega
      · exact reuse_held emergency _ rxb other
    · exact reuse_held emergency st rxb other
  unfold iwlPcieRxHandleRb
  dsimp only
  rw [bare]
  split <;> rfl

/-! ### Ownership -/

/-- **Ownership**: every descriptor in use is once in a list or with the hardware and no other is
anywhere, `invalid` tells which, and the entries of the table are filled up to `num_alloc`. -/
structure Owned (mq : MqState) : Prop where
  once : ∀ rxb, mq.rx.held rxb + mq.device.count rxb = if rxb < mqNumAlloc then 1 else 0
  valid : ∀ rxb, rxb < mqNumAlloc → (mq.invalid rxb = false ↔ rxb ∈ mq.device)
  table : ∀ place, mq.globalTable place = if place < mqNumAlloc then some place else none

theorem Owned.lists {mq : MqState} {rx : RxState} (owned : Owned mq)
    (held : ∀ rxb, rx.held rxb = mq.rx.held rxb) : Owned { mq with rx := rx } :=
  ⟨fun rxb => by rw [← owned.once rxb, ← held rxb], owned.valid, owned.table⟩

/-- What is in a list is in use, and is not with the hardware. -/
theorem Owned.of_held {mq : MqState} (owned : Owned mq) {rxb : Rxb} (held : 0 < mq.rx.held rxb) :
    rxb < mqNumAlloc ∧ rxb ∉ mq.device := by
  have once := owned.once rxb
  split at once
  case isTrue used =>
    refine ⟨used, fun member => ?_⟩
    have := List.count_pos_iff.mpr member
    omega
  case isFalse _ => omega

theorem Owned.incWrPtr (asleep : Bool) {mq : MqState} (owned : Owned mq) :
    Owned (mqIncWrPtr asleep mq) := by
  unfold mqIncWrPtr
  split
  · exact owned.lists fun _ => rfl
  · exact owned.lists fun _ => rfl

/-- Restocking gives descriptors to the hardware and takes none from it. -/
theorem restockLoop_owned (left : Nat) {mq mq' : MqState} (owned : Owned mq)
    (restocked : mqRestockLoop left mq = .ok mq') :
    Owned mq' ∧ ∀ rxb ∈ mq.device, rxb ∈ mq'.device := by
  induction left generalizing mq with
  | zero =>
    cases restocked
    exact ⟨owned, fun _ member => member⟩
  | succ left ih =>
    unfold mqRestockLoop at restocked
    cases free : mq.rx.rxFree with
    | nil =>
      rw [free] at restocked
      cases restocked
    | cons rxb rest =>
      rw [free] at restocked
      dsimp only at restocked
      have counted : ∀ other, mq.rx.held other =
          { mq.rx with rxFree := rest, freeCount := left }.held other + if rxb = other then 1 else 0 := by
        intro other
        unfold RxState.held
        dsimp only
        rw [free, count_cons_if]
        omega
      have given : Owned { mq with
          rx := { mq.rx with rxFree := rest, freeCount := left }
          invalid := Function.update mq.invalid rxb false
          bd := Function.update mq.bd mq.write (some rxb)
          write := mqIncWrap mq.write
          device := mq.device ++ [rxb] } := by
        refine ⟨fun other => ?_, fun other used => ?_, owned.table⟩
        · rw [← owned.once other, counted other]
          dsimp only
          rw [count_snoc]
          omega
        · dsimp only
          rw [List.mem_append, List.mem_singleton]
          by_cases same : other = rxb
          · rw [same, Function.update_self]
            exact ⟨fun _ => Or.inr rfl, fun _ => rfl⟩
          · rw [Function.update_of_ne same, owned.valid other used]
            exact ⟨Or.inl, fun either => either.resolve_right same⟩
      obtain ⟨after, kept⟩ := ih given restocked
      exact ⟨after, fun other member => kept other (List.mem_append_left _ member)⟩

theorem restock_owned {enabled asleep : Bool} {mq mq' : MqState} (owned : Owned mq)
    (restocked : iwlPcieRxmqRestock enabled asleep mq = .ok mq') :
    Owned mq' ∧ ∀ rxb ∈ mq.device, rxb ∈ mq'.device := by
  unfold iwlPcieRxmqRestock at restocked
  cases enabled with
  | false =>
    cases restocked
    exact ⟨owned, fun _ member => member⟩
  | true =>
    cases looped : mqRestockLoop mq.rx.freeCount mq with
    | error fault =>
      rw [looped] at restocked
      cases restocked
    | ok after =>
      rw [looped] at restocked
      obtain ⟨stocked, kept⟩ := restockLoop_owned _ owned looped
      cases restocked
      split
      · refine ⟨stocked.incWrPtr asleep, fun rxb member => ?_⟩
        unfold mqIncWrPtr
        split
        · exact kept rxb member
        · exact kept rxb member
      · exact ⟨stocked, kept⟩

theorem Owned.allocRbs (attempts : List PageAttempt) {mq : MqState} (owned : Owned mq) :
    Owned (mqAllocRbs attempts mq) :=
  owned.lists fun rxb => allocRbs_held { mq.rx with attempts := attempts } rxb

/-- The first state: the whole pool is in `rbd_empty` and `rx_used`. -/
theorem pools_owned {mq : MqState} (beyond : ∀ place, mqNumAlloc ≤ place → mq.globalTable place = none) :
    Owned (mqPools mq) := by
  refine ⟨fun rxb => ?_, fun rxb used => ?_, fun place => ?_⟩
  · have all := count_take_drop allocatorPoolSize (List.range mqNumAlloc) rxb
    rw [List.count_range] at all
    rw [← all]
    unfold mqPools RxState.held rxPools
    dsimp only
    rw [List.count_reverse, List.count_reverse, List.count_nil]
    omega
  · unfold mqPools
    dsimp only
    rw [if_pos used]
    exact ⟨fun impossible => (nomatch impossible), fun impossible => (nomatch impossible)⟩
  · unfold mqPools
    dsimp only
    split
    case isTrue _ => rfl
    case isFalse not => exact beyond place (Nat.le_of_not_lt not)

theorem init_owned {env : RxInitEnv} {mq mq' : MqState}
    (beyond : ∀ place, mqNumAlloc ≤ place → mq.globalTable place = none)
    (started : iwlPcieRxMqInit env mq = .ok mq') : Owned mq' := by
  unfold iwlPcieRxMqInit at started
  cases stocked : iwlPcieRxmqRestock env.enabled env.asleep (mqAllocRbs env.attempts (mqPools mq)) with
  | error fault =>
    rw [stocked] at started
    cases started
  | ok after =>
    rw [stocked] at started
    cases started
    exact (restock_owned ((pools_owned beyond).allocRbs env.attempts) stocked).1.incWrPtr env.asleep

theorem out_owned {env : MqTurnEnv} {pass : MqPass} {mq mq' : MqState} (owned : Owned mq)
    (left : mqOut env pass mq = .ok mq') : Owned mq' ∧ ∀ rxb ∈ mq.device, rxb ∈ mq'.device := by
  have read : Owned { mq with read := pass.i } := ⟨owned.once, owned.valid, owned.table⟩
  unfold mqOut at left
  by_cases emergency : (pass.emergency && pass.count != 0) = true
  · dsimp only at left
    rw [if_pos emergency] at left
    obtain ⟨after, kept⟩ := restock_owned (read.allocRbs env.attempts) left
    exact ⟨after, kept⟩
  · dsimp only at left
    rw [if_neg emergency] at left
    obtain ⟨after, kept⟩ := restock_owned read left
    exact ⟨after, kept⟩

theorem claim_held {rx rx' : RxState} (claimed : mqClaim rx = .ok rx') (rxb : Rxb) :
    rx'.held rxb = rx.held rxb := by
  unfold mqClaim at claimed
  split at claimed
  · exact rxAllocatorGet_held claimed rxb
  · cases claimed
    rfl

theorem continue_owned {env : MqTurnEnv} {pass pass' : MqPass} {mq mq' : MqState} (owned : Owned mq)
    (continued : mqContinue env pass mq = .ok (mq', pass')) : Owned mq' := by
  unfold mqContinue at continued
  by_cases calm : mq.rx.usedCount % rxClaimReqAlloc = 0 ∧ pass.emergency = false
  · rw [if_pos calm] at continued
    cases continued
    exact owned.lists (handOver_held mq.rx)
  rw [if_neg calm] at continued
  by_cases emergency : pass.emergency = true
  · rw [if_pos emergency] at continued
    by_cases eighth : pass.count + 1 = 8
    · rw [if_pos eighth] at continued
      cases stocked : iwlPcieRxmqRestock env.enabled env.asleep
          (mqAllocRbs mq.rx.attempts { mq with read := pass.i }) with
      | error fault =>
        rw [stocked] at continued
        cases continued
      | ok after =>
        rw [stocked] at continued
        cases continued
        have read : Owned { mq with read := pass.i } := ⟨owned.once, owned.valid, owned.table⟩
        exact (restock_owned (read.allocRbs mq.rx.attempts) stocked).1
    · rw [if_neg eighth] at continued
      cases continued
      exact owned
  · rw [if_neg emergency] at continued
    cases continued
    exact owned

/-- A descriptor of the hardware becomes the driver's, and is in one list more. -/
theorem Owned.take {mq : MqState} (owned : Owned mq) {rxb : Rxb} (mine : rxb ∈ mq.device) {rx : RxState}
    (held : ∀ other, rx.held other = mq.rx.held other + if rxb = other then 1 else 0) :
    Owned { mq.take rxb with rx := rx } := by
  have one : mq.device.count rxb = 1 := by
    have once := owned.once rxb
    have := List.count_pos_iff.mpr mine
    split at once <;> omega
  have gone : (mq.device.erase rxb).count rxb = 0 := by
    rw [List.count_erase_self, one]
  refine ⟨fun other => ?_, fun other used => ?_, owned.table⟩
  · have once := owned.once other
    have more := held other
    unfold MqState.take
    dsimp only
    by_cases same : rxb = other
    · rw [← same] at more once ⊢
      rw [if_pos rfl] at more
      omega
    · rw [if_neg same] at more
      rw [List.count_erase_of_ne (Ne.symm same)]
      omega
  · unfold MqState.take
    dsimp only
    by_cases same : other = rxb
    · rw [same, Function.update_self]
      exact ⟨fun impossible => (nomatch impossible),
        fun member => absurd (List.count_pos_iff.mpr member) (by omega)⟩
    · rw [Function.update_of_ne same, owned.valid other used, List.mem_erase_of_ne same]

/-- **Handling a descriptor** that is with the hardware. -/
theorem handle_owned {env : MqTurnEnv} {pass pass' : MqPass} {mq mq' : MqState} {rxb : Rxb}
    (owned : Owned mq) (mine : rxb ∈ mq.device) (handled : mqHandle env pass mq rxb = .ok (mq', pass')) :
    Owned mq' := by
  have listed := handleRb_held env.stolen env.mapped pass.emergency
    { mq.rx with attempts := env.attempts } rxb
  unfold mqHandle at handled
  dsimp only at handled
  cases claimed : mqClaim (iwlPcieRxHandleRb env.stolen env.mapped pass.emergency
      { (mq.take rxb).rx with attempts := env.attempts } (some rxb)) with
  | error fault =>
    rw [claimed] at handled
    cases handled
  | ok rx =>
    rw [claimed] at handled
    have after : Owned { mq.take rxb with rx := rx } :=
      owned.take mine fun other => (claim_held claimed other).trans (listed other)
    exact continue_owned after handled

/-! ### What is named -/

/-- **What a value names**, in an owned state. -/
theorem named_eq {mq : MqState} (owned : Owned mq) (usedBd : BitVec 32) :
    mq.named usedBd =
      if vidOf usedBd = 0 ∨ rxPoolSize < vidOf usedBd then .notValid
      else if mqNumAlloc < vidOf usedBd then .nullEntry
      else if vidOf usedBd - 1 ∈ mq.device then .buffer (vidOf usedBd - 1) else .notValid := by
  unfold MqState.named
  by_cases outside : vidOf usedBd = 0 ∨ rxPoolSize < vidOf usedBd
  · rw [if_pos outside, if_pos outside]
  rw [if_neg outside, if_neg outside, owned.table]
  by_cases beyond : mqNumAlloc < vidOf usedBd
  · rw [if_pos beyond, if_neg (by omega)]
  · have used : vidOf usedBd - 1 < mqNumAlloc := by omega
    rw [if_neg beyond, if_pos used]
    have told := owned.valid _ used
    by_cases mine : vidOf usedBd - 1 ∈ mq.device
    · rw [if_pos mine]
      dsimp only
      rw [told.mpr mine]
      rfl
    · rw [if_neg mine]
      dsimp only
      rw [if_pos (Bool.eq_true_of_not_eq_false fun valid => mine (told.mp valid))]

/-! ### Every run -/

/-- **The invariant**: descriptors have their owners while the system runs. -/
structure MqInv (sys : MqSystem) : Prop where
  owned : sys.stopped = false → Owned sys.mq
  sound : sys.Sound

theorem settle_none_inv {sys : MqSystem} {result : Except RxFault MqState}
    (owned : ∀ mq, result = .ok mq → Owned mq) :
    MqInv (sys.settle .none (result.map fun mq => (mq, none))) := by
  cases result with
  | error fault => exact ⟨fun impossible => (nomatch impossible), trivial⟩
  | ok mq => exact ⟨fun _ => owned mq rfl, trivial⟩

/-- Leaving the loop, whether a value was rejected or none was read. -/
theorem reject_inv {env : MqTurnEnv} {pass : MqPass} {sys : MqSystem} (owned : Owned sys.mq) :
    MqInv (sys.settle (.rejected sys.mq) ((mqOut env pass sys.mq).map (·, none))) := by
  cases left : mqOut env pass sys.mq with
  | error fault => exact ⟨fun impossible => (nomatch impossible), fun _ member => member⟩
  | ok mq =>
    obtain ⟨after, kept⟩ := out_owned owned left
    exact ⟨fun _ => after, kept⟩

/-- **A turn that names no empty entry**, in an owned state. -/
theorem turn_inv {env : MqTurnEnv} {pass : MqPass} {sys : MqSystem} (owned : Owned sys.mq)
    (filled : pass.i = pass.r ∨ vidOf env.usedBd = 0 ∨ vidOf env.usedBd ≤ mqNumAlloc ∨
      rxPoolSize < vidOf env.usedBd) : MqInv (mqTurn env pass sys) := by
  unfold mqTurn
  by_cases done : pass.i = pass.r
  · rw [if_pos done]
    exact settle_none_inv fun mq left => (out_owned owned left).1
  rw [if_neg done, named_eq owned]
  dsimp only
  by_cases outside : vidOf env.usedBd = 0 ∨ rxPoolSize < vidOf env.usedBd
  · rw [if_pos outside]
    exact reject_inv owned
  have used : ¬ mqNumAlloc < vidOf env.usedBd := by
    obtain same | zero | inside | behind := filled
    · exact absurd same done
    · exact absurd (Or.inl zero) outside
    · exact Nat.not_lt.mpr inside
    · exact absurd (Or.inr behind) outside
  rw [if_neg outside, if_neg used]
  by_cases mine : vidOf env.usedBd - 1 ∈ sys.mq.device
  · rw [if_pos mine]
    have apart : vidOf env.usedBd - 1 ∉ sys.mq.rx.listed := by
      intro member
      have held := List.count_pos_iff.mpr member
      rw [count_listed] at held
      exact (owned.of_held held).2 mine
    dsimp only
    cases handled : mqHandle env { pass with
        emergency := pass.emergency || sys.mq.rx.usedCount == mqRxTableSize / 2 } sys.mq
        (vidOf env.usedBd - 1) with
    | error fault => exact ⟨fun impossible => (nomatch impossible), mine, apart⟩
    | ok after => exact ⟨fun _ => handle_owned owned mine handled, mine, apart⟩
  · rw [if_neg mine]
    exact reject_inv owned

/-- **A turn that names an empty entry** follows a null pointer. -/
theorem turn_nullEntry {env : MqTurnEnv} {pass : MqPass} {sys : MqSystem} (owned : Owned sys.mq)
    (more : pass.i ≠ pass.r) (beyond : mqNumAlloc < vidOf env.usedBd)
    (inside : vidOf env.usedBd ≤ rxPoolSize) : ¬ (mqTurn env pass sys).Sound := by
  unfold mqTurn
  rw [if_neg more, named_eq owned, if_neg (by omega), if_pos beyond]
  exact id

theorem mqStep_inv {sys next : MqSystem} {act : MqAct} (inv : MqInv sys)
    (filled : namesFilled sys act = true) (stepped : mqStep sys act = some next) : MqInv next := by
  unfold mqStep at stepped
  cases stopped : sys.stopped with
  | true =>
    rw [stopped, if_pos rfl] at stepped
    cases stepped
    exact inv
  | false =>
    have owned := inv.owned stopped
    rw [stopped, if_neg Bool.false_ne_true] at stepped
    have idle : ∀ pass, MqInv ⟨sys.mq, pass, false, .none⟩ := fun _ => ⟨fun _ => owned, trivial⟩
    cases act with
    | init env =>
      cases passing : sys.pass with
      | none =>
        rw [passing] at stepped
        cases stepped
        exact settle_none_inv fun mq started =>
          init_owned (fun place beyond => by rw [owned.table, if_neg (Nat.not_lt.mpr beyond)]) started
      | some pass =>
        rw [passing] at stepped
        cases stepped
        exact idle _
    | enter closedRbNum =>
      cases passing : sys.pass with
      | none =>
        rw [passing] at stepped
        cases stepped
        exact ⟨fun _ => owned, trivial⟩
      | some pass =>
        rw [passing] at stepped
        cases stepped
        exact idle _
    | turn env =>
      cases passing : sys.pass with
      | none =>
        rw [passing] at stepped
        cases stepped
        exact idle _
      | some pass =>
        rw [passing] at stepped
        cases stepped
        refine turn_inv owned ?_
        unfold namesFilled at filled
        dsimp only at filled
        rw [stopped, passing, Bool.false_or, Option.all_some] at filled
        exact of_decide_eq_true filled

theorem mqStep_unsound {sys next : MqSystem} {act : MqAct} (inv : MqInv sys)
    (empty : namesFilled sys act = false) (stepped : mqStep sys act = some next) : ¬ next.Sound := by
  cases act with
  | init env => exact (nomatch empty)
  | enter closedRbNum => exact (nomatch empty)
  | turn env =>
    unfold namesFilled at empty
    obtain ⟨running, unfilled⟩ := Bool.or_eq_false_iff.mp empty
    unfold mqStep at stepped
    rw [running, if_neg Bool.false_ne_true] at stepped
    cases passing : sys.pass with
    | none =>
      rw [passing] at unfilled
      exact (nomatch unfilled)
    | some pass =>
      rw [passing] at stepped
      cases stepped
      rw [passing, Option.all_some] at unfilled
      have not := of_decide_eq_false unfilled
      exact turn_nullEntry (inv.owned running) (by tauto) (by omega) (by omega)

theorem mqStep_total (sys : MqSystem) (act : MqAct) : ∃ next, mqStep sys act = some next := by
  unfold mqStep
  split
  · exact ⟨_, rfl⟩
  · split <;> exact ⟨_, rfl⟩

theorem mqStart_inv (env : RxInitEnv) : MqInv (mqStart env) :=
  settle_none_inv fun _ started => init_owned (fun _ _ => rfl) started

/-- **What `used_bd` names** is rightly handled or rejected all along exactly the runs none of whose turns
reads a `vid` between the entries that are filled and the end of the table. -/
theorem mqSound_iff (env : RxInitEnv) (acts : List MqAct) :
    Always mqStep MqSystem.Sound (mqStart env) acts ↔
      allowed mqStep namesFilled (mqStart env) acts = true :=
  always_iff_allowed MqInv (fun _ _ _ inv filled stepped => mqStep_inv inv filled stepped)
    (fun _ inv => inv.sound) (fun _ _ _ inv empty stepped => mqStep_unsound inv empty stepped)
    mqStep_total (mqStart_inv env)

/-- A value of `used_bd` that names the entry behind the last one that is filled. -/
def vid518 : MqTurnEnv := ⟨518#32, false, true, true, false, 1, []⟩

theorem vid518_nullEntry :
    ¬ Always mqStep MqSystem.Sound (mqStart ⟨true, false, [.page, .noPage]⟩) [.enter 1, .turn vid518] := by
  intro always
  obtain ⟨entered, enters⟩ := mqStep_total (mqStart ⟨true, false, [.page, .noPage]⟩) (.enter 1)
  obtain ⟨last, turns⟩ := mqStep_total entered (.turn vid518)
  have inv : MqInv entered := mqStep_inv (mqStart_inv _) rfl enters
  have names : (mqStep (mqStart ⟨true, false, [.page, .noPage]⟩) (.enter 1)).all
      (fun sys => !namesFilled sys (.turn vid518)) = true := by decide +kernel
  rw [enters, Option.all_some, Bool.not_eq_true'] at names
  exact mqStep_unsound inv names turns ((always.2 entered enters).2 last turns)

end IntelWifi.Pcie.Rxq
