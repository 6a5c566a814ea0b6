/-
**The receive ring, its lists and the allocator.**

A receive buffer descriptor (RBD) is in the ring, in one of the lists `rx_free` and `rx_used` of the
queue, or in one of the lists `rbd_empty` and `rbd_allocated` of the allocator. This is the single
queue mode (`mq_rx_supported` is unset), where the ring is `rxq->queue`; the allocator runs in the
thread that posts the request, as `iwl_pcie_rx_reuse_rbd` calls it.

What the hardware and the rest of the system decide is in `RxHandleEnv`: the `closed_rb_num` read at
each start, which pages are stolen, which mappings fail and what each page allocation comes to. A
`TAILQ_FIRST` of an empty list that is removed is a fault. `overwritten` is for stating what happened:
the descriptors that restocking found in the slots it wrote.
-/

import IntelWifi.Lib.Loop
import IntelWifi.Lib.Tally
import Mathlib.Data.Fintype.Basic

namespace IntelWifi.Pcie.Rxq

open IntelWifi.Loop

/-- `RX_QUEUE_SIZE`. -/
def rxQueueSize : Nat := 256

/-- `RX_CLAIM_REQ_ALLOC`. -/
def rxClaimReqAlloc : Nat := 8

/-- `RX_POST_REQ_ALLOC`. -/
def rxPostReqAlloc : Nat := 2

/-- `allocator_pool_size`, with one queue. -/
def allocatorPoolSize : Nat := rxClaimReqAlloc - rxPostReqAlloc

/-- `num_alloc`: the descriptors of `rx_pool` in use. -/
def numAlloc : Nat := rxQueueSize + allocatorPoolSize

abbrev RxIndex := Fin rxQueueSize

/-- A descriptor is its place in `rx_pool`. -/
abbrev Rxb := Nat

/-- What an attempt at a mapped page comes to. -/
inductive PageAttempt where
  | page
  | noPage
  | notMapped
  deriving DecidableEq, Repr

/-- A list was empty where its first element is taken. -/
inductive RxFault where
  | emptyList
  deriving DecidableEq, Repr

/-- `struct iwl_rxq`, `struct iwl_rb_allocator`, and which descriptors have a page. `attempts` is what
the next page allocations come to; behind its end they succeed. -/
structure RxState where
  queue : RxIndex → Option Rxb
  read : RxIndex
  write : RxIndex
  writeActual : Nat
  needUpdate : Bool
  rxFree : List Rxb
  rxUsed : List Rxb
  freeCount : Nat
  usedCount : Nat
  rbdEmpty : List Rxb
  rbdAllocated : List Rxb
  reqPending : Nat
  reqReady : Int
  page : Rxb → Bool
  attempts : List PageAttempt
  overwritten : List Rxb

/-- `(i + 1) & RX_QUEUE_MASK`. -/
def incWrap (i : RxIndex) : RxIndex := ⟨(i.val + 1) % rxQueueSize, Nat.mod_lt _ (by decide)⟩

/-- `iwl_rxq_space`: `(read - write - 1) & (queue_size - 1)`. -/
def iwlRxqSpace (st : RxState) : Nat :=
  (((st.read.val : Int) - st.write.val - 1) % (rxQueueSize : Int)).toNat

/-- `iwl_pcie_rxq_inc_wr_ptr`. `asleep`: there are no shadow registers, and the MAC sleeps. -/
def iwlPcieRxqIncWrPtr (asleep : Bool) (st : RxState) : RxState :=
  if asleep then { st with needUpdate := true }
  else { st with writeActual := st.write.val / 8 * 8 }

/-! ### Restocking -/

/-- The loop of `iwl_pcie_rxsq_restock`, which counts `free_count` down. -/
def restockLoop : Nat → RxState → Except RxFault RxState
  | 0, st => .ok st
  | left + 1, st =>
    if 0 < iwlRxqSpace st then
      match st.rxFree with
      | [] => .error .emptyList
      | rxb :: rest =>
        restockLoop left { st with
          rxFree := rest
          queue := Function.update st.queue st.write (some rxb)
          overwritten := st.overwritten ++ (st.queue st.write).toList
          write := incWrap st.write
          freeCount := left }
    else .ok st

/-- `iwl_pcie_rxsq_restock`. `enabled` is `STATUS_DEVICE_ENABLED`. -/
def iwlPcieRxsqRestock (enabled asleep : Bool) (st : RxState) : Except RxFault RxState :=
  if !enabled then .ok st
  else do
    let st ← restockLoop st.freeCount st
    return if st.writeActual ≠ st.write.val / 8 * 8 then iwlPcieRxqIncWrPtr asleep st else st

/-! ### Pages -/

/-- `iwl_pcie_rxq_alloc_rbs` with the list `rx_used`. -/
def allocRbsLoop : List Rxb → RxState → RxState
  | [], st => { st with rxUsed := [] }
  | rxb :: rest, st =>
    match st.attempts with
    | .noPage :: later => { st with rxUsed := rxb :: rest, attempts := later }
    | .notMapped :: later =>
      { st with rxUsed := rxb :: rest, page := Function.update st.page rxb false, attempts := later }
    | attempts =>
      allocRbsLoop rest { st with
        rxFree := st.rxFree ++ [rxb]
        freeCount := st.freeCount + 1
        page := Function.update st.page rxb true
        attempts := attempts.tail }

/-- `iwl_pcie_rxq_alloc_rbs`. -/
def iwlPcieRxqAllocRbs (st : RxState) : RxState := allocRbsLoop st.rxUsed st

/-- The attempts left after the allocator has its next page: it tries again until it has one. -/
def untilPage : List PageAttempt → List PageAttempt
  | [] => []
  | .page :: later => later
  | _ :: later => untilPage later

/-- The `for` loop of `iwl_pcie_rx_allocator` over one request, from `local_empty` to
`local_allocated`. -/
def allocatorBatch : Nat → RxState → List Rxb → List Rxb → RxState × List Rxb × List Rxb
  | left + 1, st, rxb :: localEmpty, localAllocated =>
    allocatorBatch left
      { st with page := Function.update st.page rxb true, attempts := untilPage st.attempts }
      localEmpty (localAllocated ++ [rxb])
  | _, st, localEmpty, localAllocated => (st, localEmpty, localAllocated)

/-- The `while` loop of `iwl_pcie_rx_allocator`. `bound` is the number of requests when it begins,
which is as many turns as it can take. -/
def allocatorLoop : Nat → Nat → RxState → List Rxb → RxState × List Rxb
  | bound + 1, pending + 1, st, localEmpty =>
    let (st, localEmpty, localAllocated) := allocatorBatch rxClaimReqAlloc st localEmpty []
    let again := if pending = 0 then st.reqPending else pending
    allocatorLoop bound again
      { st with
        reqPending := if pending = 0 then 0 else st.reqPending
        rbdAllocated := st.rbdAllocated ++ localAllocated
        rbdEmpty := []
        reqReady := st.reqReady + 1 }
      (localEmpty ++ st.rbdEmpty)
  | _, _, st, localEmpty => (st, localEmpty)

/-- `iwl_pcie_rx_allocator`. -/
def iwlPcieRxAllocator (st : RxState) : RxState :=
  let (after, localEmpty) :=
    allocatorLoop st.reqPending st.reqPending { st with reqPending := 0, rbdEmpty := [] } st.rbdEmpty
  { after with rbdEmpty := after.rbdEmpty ++ localEmpty }

/-- The loop of `iwl_pcie_rx_allocator_get`. -/
def claimLoop : Nat → RxState → Except RxFault RxState
  | 0, st => .ok st
  | left + 1, st =>
    match st.rbdAllocated with
    | [] => .error .emptyList
    | rxb :: rest => claimLoop left { st with rbdAllocated := rest, rxFree := st.rxFree ++ [rxb] }

/-- `iwl_pcie_rx_allocator_get`. `OSDecrementAtomic` gives the value before. -/
def iwlPcieRxAllocatorGet (st : RxState) : Except RxFault RxState :=
  if st.reqReady < 0 then .ok { st with reqReady := 0 }
  else do
    let st ← claimLoop rxClaimReqAlloc { st with reqReady := st.reqReady - 1 }
    return { st with
      usedCount := st.usedCount - rxClaimReqAlloc
      freeCount := st.freeCount + rxClaimReqAlloc }

/-! ### Handling buffers -/

/-- `TAILQ_CONCAT(&rba->rbd_empty, &rxq->rx_used, list)`. -/
def handOver (st : RxState) : RxState :=
  { st with rbdEmpty := st.rbdEmpty ++ st.rxUsed, rxUsed := [] }

/-- `iwl_pcie_rx_reuse_rbd`. -/
def iwlPcieRxReuseRbd (emergency : Bool) (st : RxState) (rxb : Rxb) : RxState :=
  let st := { st with rxUsed := st.rxUsed ++ [rxb] }
  if emergency then st
  else
    let st := { st with usedCount := st.usedCount + 1 }
    if st.usedCount % rxClaimReqAlloc = rxPostReqAlloc then
      let st := handOver st
      iwlPcieRxAllocator { st with reqPending := st.reqPending + 1 }
    else st

/-- `iwl_pcie_rx_handle_rb`, behind the frames: `stolen` is `page_stolen`, and `mapped` whether the
page can be mapped again. -/
def iwlPcieRxHandleRb (stolen mapped emergency : Bool) (st : RxState) : Option Rxb → RxState
  | none => st
  | some rxb =>
    let st := if stolen then { st with page := Function.update st.page rxb false } else st
    if st.page rxb then
      if mapped then { st with rxFree := st.rxFree ++ [rxb], freeCount := st.freeCount + 1 }
      else iwlPcieRxReuseRbd emergency { st with page := Function.update st.page rxb false } rxb
    else iwlPcieRxReuseRbd emergency st rxb

/-- What one call of `iwl_pcie_rx_handle` meets. `closedRbNum`, `enabled` and `asleep` are given for
each start, and the pages for each descriptor handled. -/
structure RxHandleEnv where
  closedRbNum : Nat → Nat
  enabled : Nat → Bool
  asleep : Nat → Bool
  stolen : Nat → Bool
  mapped : Nat → Bool
  attempts : List PageAttempt

/-- `closed_rb_num` as an index of the ring. -/
def RxHandleEnv.closed (env : RxHandleEnv) (start : Nat) : RxIndex :=
  ⟨env.closedRbNum start % 2 ^ 12 % rxQueueSize, Nat.mod_lt _ (by decide)⟩

/-- The variables of `iwl_pcie_rx_handle`, with the numbers of starts and of descriptors handled. -/
structure RxPass where
  st : RxState
  i : RxIndex
  r : RxIndex
  count : Nat
  emergency : Bool
  starts : Nat
  handled : Nat

/-- One turn of the loop of `iwl_pcie_rx_handle`, with the `goto restart` of the emergency. -/
def rxTurn (env : RxHandleEnv) (pass : RxPass) : Turn RxPass (Except RxFault RxPass) :=
  if pass.i = pass.r then .leave (.ok pass)
  else
    let emergency := pass.emergency || pass.st.usedCount == rxQueueSize / 2
    let st := iwlPcieRxHandleRb (env.stolen pass.handled) (env.mapped pass.handled) emergency
      { pass.st with queue := Function.update pass.st.queue pass.i none } (pass.st.queue pass.i)
    let i := incWrap pass.i
    match if rxClaimReqAlloc ≤ st.usedCount then iwlPcieRxAllocatorGet st else .ok st with
    | .error fault => .leave (.error fault)
    | .ok st =>
      if st.usedCount % rxClaimReqAlloc = 0 ∧ emergency = false then
        .again ⟨handOver st, i, pass.r, pass.count, emergency, pass.starts, pass.handled + 1⟩
      else if emergency then
        if pass.count + 1 = 8 then
          let emergency := !(st.usedCount < rxQueueSize / 3)
          let st := iwlPcieRxqAllocRbs { st with read := i }
          match iwlPcieRxsqRestock (env.enabled pass.starts) (env.asleep pass.starts) st with
          | .error fault => .leave (.error fault)
          | .ok st =>
            .again ⟨st, st.read, env.closed (pass.starts + 1), 0, emergency, pass.starts + 1,
              pass.handled + 1⟩
        else
          .again ⟨st, i, pass.r, pass.count + 1, emergency, pass.starts, pass.handled + 1⟩
      else .again ⟨st, i, pass.r, pass.count, emergency, pass.starts, pass.handled + 1⟩

/-- `iwl_pcie_rx_handle` with at most `fuel` turns of its loop. -/
def iwlPcieRxHandle (env : RxHandleEnv) (fuel : Nat) (st : RxState) :
    Option (Except RxFault RxState) :=
  let start : RxPass := ⟨{ st with attempts := env.attempts }, st.read, env.closed 0, 0, false, 0, 0⟩
  (run (rxTurn env) fuel start).map fun left => do
    let pass ← left
    let st := { pass.st with read := pass.i }
    let st := if pass.emergency && pass.count != 0 then iwlPcieRxqAllocRbs st else st
    iwlPcieRxsqRestock (env.enabled pass.starts) (env.asleep pass.starts) st

/-! ### Initialisation -/

/-- What `iwl_pcie_rx_init` meets. -/
structure RxInitEnv where
  enabled : Bool
  asleep : Bool
  attempts : List PageAttempt

/-- `_iwl_pcie_rx_init` on a new queue, up to the first pages: the pool goes to the allocator and to `rx_used`,
each descriptor to the head of its list. -/
def rxPools (attempts : List PageAttempt) : RxState where
  queue := fun _ => none
  read := ⟨0, by decide⟩
  write := ⟨0, by decide⟩
  writeActual := 0
  needUpdate := false
  rxFree := []
  rxUsed := ((List.range numAlloc).drop allocatorPoolSize).reverse
  freeCount := 0
  usedCount := 0
  rbdEmpty := ((List.range numAlloc).take allocatorPoolSize).reverse
  rbdAllocated := []
  reqPending := 0
  reqReady := 0
  page := fun _ => false
  attempts := attempts
  overwritten := []

/-- `iwl_pcie_rx_init`. -/
def iwlPcieRxInit (env : RxInitEnv) : Except RxFault RxState := do
  let st ← iwlPcieRxsqRestock env.enabled env.asleep (iwlPcieRxqAllocRbs (rxPools env.attempts))
  return iwlPcieRxqIncWrPtr env.asleep st

/-- The calls of `iwl_pcie_rx_handle` one after the other. -/
def handleAll (fuel : Nat) : List RxHandleEnv → RxState → Option (Except RxFault RxState)
  | [], st => some (.ok st)
  | env :: later, st =>
    match iwlPcieRxHandle env fuel st with
    | some (.ok next) => handleAll fuel later next
    | other => other

/-- A whole run: the initialisation and the calls. -/
def rxRun (fuel : Nat) (init : RxInitEnv) (calls : List RxHandleEnv) :
    Option (Except RxFault RxState) :=
  match iwlPcieRxInit init with
  | .ok st => handleAll fuel calls st
  | .error fault => some (.error fault)

end IntelWifi.Pcie.Rxq
