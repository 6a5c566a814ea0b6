/-
**No receive buffer is lost.**

A run is the initialisation and any number of calls of `iwl_pcie_rx_handle`, with any `closed_rb_num`,
any pages stolen, any mappings that fail and finitely many allocations that fail in each call.

* `Steady`: what holds whenever the loop of `iwl_pcie_rx_handle` begins a turn; below two used
  descriptors the allocator has its own six, from two on it has a request ready.
* `rxConservation`: every run comes to its end, and then each descriptor of the pool is in one place.
* `claimsReady_iff`: alone, the allocator does its part exactly when a request is ready; a run never asks
  without one.
-/

import IntelWifi.Lib.Circular
import IntelWifi.Pcie.RxBuffers

namespace IntelWifi.Pcie.Rxq

open IntelWifi.Circular IntelWifi.Loop IntelWifi.Tally

/-- How many places hold a descriptor: the lists of the queue, those of the allocator, and the
ring. -/
def RxState.places (st : RxState) (rxb : Rxb) : Nat :=
  st.rxFree.count rxb + st.rxUsed.count rxb + st.rbdEmpty.count rxb + st.rbdAllocated.count rxb +
    tally st.queue rxb

/-- **Conservation**: every descriptor of the pool is in exactly one place and there is no other,
`free_count` is the length of `rx_free`, each ready request has its descriptors, and no slot was
overwritten that still held one. -/
structure Conserved (st : RxState) : Prop where
  once : ∀ rxb, st.places rxb = if rxb < numAlloc then 1 else 0
  freeCount : st.freeCount = st.rxFree.length
  ready : (st.rbdAllocated.length : Int) = rxClaimReqAlloc * st.reqReady
  intact : st.overwritten = []

/-- The requests and the lists that serve them, for each number of used descriptors. -/
structure Served (limit : Nat) (st : RxState) : Prop where
  used : st.usedCount < limit
  none : st.reqPending = 0
  before : st.usedCount < rxPostReqAlloc →
    st.reqReady = 0 ∧ st.usedCount ≤ st.rxUsed.length ∧ allocatorPoolSize ≤ st.rbdEmpty.length
  after : rxPostReqAlloc ≤ st.usedCount →
    st.reqReady = 1 ∧ st.usedCount - rxPostReqAlloc ≤ st.rxUsed.length

/-- The ring holds descriptors only from `i` to `write`. -/
def RingFrom (st : RxState) (i : RxIndex) : Prop :=
  ∀ slot, st.queue slot ≠ Option.none → Within rxQueueSize i.val st.write.val slot.val

/-- **The invariant of the loop of `iwl_pcie_rx_handle`**, which has come to `i`. -/
structure Steady (st : RxState) (i : RxIndex) : Prop where
  conserved : Conserved st
  served : Served rxClaimReqAlloc st
  ring : RingFrom st i

/-! ### Restocking -/

theorem incWrap_val (i : RxIndex) : (incWrap i).val = next rxQueueSize i.val := by
  have := i.isLt
  unfold incWrap next rxQueueSize at *
  dsimp only
  split <;> omega

/-- Space is what the interval leaves of the ring, but for one slot. -/
theorem rxqSpace_eq (st : RxState) :
    iwlRxqSpace st + gap rxQueueSize st.read.val st.write.val + 1 = rxQueueSize := by
  have := st.read.isLt
  have := st.write.isLt
  unfold iwlRxqSpace gap rxQueueSize at *
  split <;> omega

/-- What moving a descriptor into an empty slot does to the places. -/
theorem tally_fill (queue : RxIndex → Option Rxb) {slot : RxIndex} (empty : queue slot = none)
    (filled rxb : Rxb) :
    tally (Function.update queue slot (some filled)) rxb =
      tally queue rxb + if filled = rxb then 1 else 0 := by
  have moved := tally_update queue slot (some filled) rxb
  rw [empty] at moved
  simpa using moved

/-- **Restocking keeps the invariant**: the slots it writes are outside the interval. -/
theorem restockLoop_steady (left : Nat) {st : RxState} (counted : st.freeCount = left)
    (steady : Steady st st.read) :
    ∃ st', restockLoop left st = .ok st' ∧ st'.read = st.read ∧ Steady st' st.read := by
  induction left generalizing st with
  | zero => exact ⟨st, rfl, rfl, steady⟩
  | succ left ih =>
    have conserved := steady.conserved
    unfold restockLoop
    by_cases room : 0 < iwlRxqSpace st
    · rw [if_pos room]
      cases free : st.rxFree with
      | nil =>
        have none := conserved.freeCount
        rw [free, counted] at none
        cases none
      | cons rxb rest =>
        have space := rxqSpace_eq st
        have empty : st.queue st.write = none := by
          by_contra held
          exact absurd (steady.ring st.write held).2 (Nat.lt_irrefl _)
        dsimp only
        refine ih rfl ⟨⟨fun other => ?_, ?_, conserved.ready, ?_⟩, ⟨steady.served.used,
          steady.served.none, steady.served.before, steady.served.after⟩, fun slot held => ?_⟩
        · rw [← conserved.once other]
          unfold RxState.places
          dsimp only
          rw [tally_fill st.queue empty, free, List.count_cons]
          simp only [beq_iff_eq]
          omega
        · have counts := conserved.freeCount
          rw [free, counted, List.length_cons] at counts
          exact Nat.succ.inj counts
        · rw [empty, Option.toList_none, List.append_nil]
          exact conserved.intact
        · dsimp only at held ⊢
          rw [incWrap_val, within_next_right st.read.isLt st.write.isLt (by omega)]
          by_cases here : slot = st.write
          · exact .inr (congrArg Fin.val here)
          · rw [Function.update_of_ne here] at held
            exact .inl (steady.ring slot held)
    · rw [if_neg room]
      exact ⟨st, rfl, rfl, steady⟩

theorem incWrPtr_steady (asleep : Bool) {st : RxState} {i : RxIndex} (steady : Steady st i) :
    Steady (iwlPcieRxqIncWrPtr asleep st) i := by
  obtain ⟨conserved, served, ring⟩ := steady
  unfold iwlPcieRxqIncWrPtr
  split
  all_goals
    exact ⟨⟨conserved.once, conserved.freeCount, conserved.ready, conserved.intact⟩,
      ⟨served.used, served.none, served.before, served.after⟩, ring⟩

theorem incWrPtr_read (asleep : Bool) (st : RxState) :
    (iwlPcieRxqIncWrPtr asleep st).read = st.read := by
  unfold iwlPcieRxqIncWrPtr
  split <;> rfl

theorem restock_steady (enabled asleep : Bool) {st : RxState} (steady : Steady st st.read) :
    ∃ st', iwlPcieRxsqRestock enabled asleep st = .ok st' ∧ Steady st' st'.read := by
  unfold iwlPcieRxsqRestock
  cases enabled with
  | false => exact ⟨st, rfl, steady⟩
  | true =>
    obtain ⟨st', restocked, read, steady'⟩ := restockLoop_steady st.freeCount rfl steady
    rw [restocked]
    refine ⟨_, rfl, ?_⟩
    split
    · rw [incWrPtr_read, read]
      exact incWrPtr_steady asleep steady'
    · rw [read]
      exact steady'

/-! ### The allocator -/

/-- A batch takes descriptors from the head of `local_empty` to the tail of `local_allocated`. -/
theorem allocatorBatch_eq (left : Nat) (st : RxState) (localEmpty localAllocated : List Rxb) :
    ∃ page attempts, allocatorBatch left st localEmpty localAllocated =
      ({ st with page := page, attempts := attempts }, localEmpty.drop left,
        localAllocated ++ localEmpty.take left) := by
  induction left generalizing st localEmpty localAllocated with
  | zero => exact ⟨st.page, st.attempts, by simp [allocatorBatch]⟩
  | succ left ih =>
    cases localEmpty with
    | nil => exact ⟨st.page, st.attempts, by simp [allocatorBatch]⟩
    | cons rxb rest =>
      obtain ⟨page, attempts, batch⟩ := ih
        { st with page := Function.update st.page rxb true, attempts := untilPage st.attempts } rest
        (localAllocated ++ [rxb])
      refine ⟨page, attempts, ?_⟩
      rw [allocatorBatch, batch, List.drop_succ_cons, List.take_succ_cons, List.append_assoc,
        List.singleton_append]

/-- **The allocator serves one request.** -/
theorem rxAllocator_one {st : RxState} (one : st.reqPending = 1) :
    ∃ page attempts, iwlPcieRxAllocator st = { st with
      reqPending := 0
      rbdEmpty := st.rbdEmpty.drop rxClaimReqAlloc
      rbdAllocated := st.rbdAllocated ++ st.rbdEmpty.take rxClaimReqAlloc
      reqReady := st.reqReady + 1
      page := page
      attempts := attempts } := by
  obtain ⟨page, attempts, batch⟩ := allocatorBatch_eq rxClaimReqAlloc
    { st with reqPending := 0, rbdEmpty := [] } st.rbdEmpty []
  refine ⟨page, attempts, ?_⟩
  unfold iwlPcieRxAllocator
  rw [one]
  unfold allocatorLoop
  rw [batch]
  simp [allocatorLoop]

/-- Claiming moves descriptors from the head of `rbd_allocated` to the tail of `rx_free`. -/
theorem claimLoop_eq (left : Nat) {st : RxState} (enough : left ≤ st.rbdAllocated.length) :
    claimLoop left st = .ok { st with
      rbdAllocated := st.rbdAllocated.drop left
      rxFree := st.rxFree ++ st.rbdAllocated.take left } := by
  induction left generalizing st with
  | zero => simp [claimLoop]
  | succ left ih =>
    unfold claimLoop
    cases allocated : st.rbdAllocated with
    | nil =>
      rw [allocated] at enough
      exact absurd enough (Nat.not_succ_le_zero _)
    | cons rxb rest =>
      rw [allocated, List.length_cons] at enough
      dsimp only
      rw [ih (Nat.le_of_succ_le_succ enough)]
      simp

/-- The state after a request is claimed: its descriptors are at the tail of `rx_free`. -/
def RxState.claimed (st : RxState) : RxState :=
  { st with
    rbdAllocated := st.rbdAllocated.drop rxClaimReqAlloc
    rxFree := st.rxFree ++ st.rbdAllocated.take rxClaimReqAlloc
    reqReady := st.reqReady - 1
    usedCount := st.usedCount - rxClaimReqAlloc
    freeCount := st.freeCount + rxClaimReqAlloc }

/-- With its descriptors there, a request is claimed. -/
theorem rxAllocatorGet_eq {st : RxState} (some : 0 ≤ st.reqReady)
    (enough : rxClaimReqAlloc ≤ st.rbdAllocated.length) : iwlPcieRxAllocatorGet st = .ok st.claimed := by
  have moved := @claimLoop_eq rxClaimReqAlloc { st with reqReady := st.reqReady - 1 } enough
  unfold iwlPcieRxAllocatorGet
  rw [if_neg (Int.not_lt.mpr some), moved]
  rfl

/-! ### Handling a descriptor -/

/-- Conservation while one descriptor is in the hands of `iwl_pcie_rx_handle_rb`. -/
structure ConservedBut (rxb : Rxb) (st : RxState) : Prop where
  once : ∀ other, st.places other + (if rxb = other then 1 else 0) = if other < numAlloc then 1 else 0
  freeCount : st.freeCount = st.rxFree.length
  ready : (st.rbdAllocated.length : Int) = rxClaimReqAlloc * st.reqReady
  intact : st.overwritten = []

/-- The descriptor of a slot is taken out of the ring. -/
theorem Conserved.take {st : RxState} (conserved : Conserved st) {i : RxIndex} {rxb : Rxb}
    (held : st.queue i = some rxb) :
    ConservedBut rxb { st with queue := Function.update st.queue i none } := by
  refine ⟨fun other => ?_, conserved.freeCount, conserved.ready, conserved.intact⟩
  have moved := tally_update st.queue i none other
  rw [held] at moved
  rw [← conserved.once other]
  unfold RxState.places
  simp only [Option.some.injEq, reduceCtorEq, if_false] at moved ⊢
  omega

/-- The ring begins one slot later. -/
theorem RingFrom.take {st : RxState} {i : RxIndex} (ring : RingFrom st i) :
    RingFrom { st with queue := Function.update st.queue i none } (incWrap i) := by
  intro slot held
  by_cases here : slot = i
  · rw [here] at held
    exact absurd (Function.update_self i none st.queue) held
  · dsimp only at held
    rw [Function.update_of_ne here] at held
    have before := ring slot held
    have differ : i.val ≠ slot.val := fun same => here (Fin.ext same.symm)
    have some : i.val ≠ st.write.val := by
      intro same
      have short := before.2
      rw [same, gap_self] at short
      exact absurd short (Nat.not_lt_zero _)
    have closer := gap_next_left i.isLt slot.isLt differ
    have closer' := gap_next_left i.isLt st.write.isLt some
    refine ⟨slot.isLt, ?_⟩
    rw [incWrap_val]
    have short := before.2
    dsimp only
    omega

theorem count_take_drop (n : Nat) (rxbs : List Rxb) (rxb : Rxb) :
    (rxbs.take n).count rxb + (rxbs.drop n).count rxb = rxbs.count rxb := by
  rw [← List.count_append, List.take_append_drop]

/-- **The second used descriptor posts a request**, and the eight that it takes are there. -/
theorem posted_served {st : RxState} (conserved : Conserved st) (one : st.reqPending = 1)
    (idle : st.reqReady = 0) (two : st.usedCount = rxPostReqAlloc)
    (enough : rxClaimReqAlloc ≤ st.rbdEmpty.length) :
    Conserved (iwlPcieRxAllocator st) ∧ Served (rxClaimReqAlloc + 1) (iwlPcieRxAllocator st) ∧
      (iwlPcieRxAllocator st).queue = st.queue ∧ (iwlPcieRxAllocator st).write = st.write ∧
      (iwlPcieRxAllocator st).read = st.read := by
  obtain ⟨page, attempts, allocated⟩ := rxAllocator_one one
  have none := conserved.ready
  rw [idle] at none
  rw [allocated]
  refine ⟨⟨fun other => ?_, conserved.freeCount, ?_, conserved.intact⟩, ⟨?_, rfl, ?_, ?_⟩, rfl, rfl, rfl⟩
  · rw [← conserved.once other]
    unfold RxState.places
    dsimp only
    rw [← count_take_drop rxClaimReqAlloc st.rbdEmpty, List.count_append]
    omega
  · dsimp only
    rw [List.length_append, List.length_take, Nat.min_eq_left enough, idle]
    omega
  · exact two ▸ by decide
  · exact fun few => absurd few (by rw [two]; exact Nat.lt_irrefl _)
  · exact fun _ => ⟨by dsimp only; rw [idle]; rfl, by dsimp only; rw [two]; exact Nat.zero_le _⟩

/-- **A descriptor is reused**: at the second one the allocator gets a request, and it has the eight
descriptors that one takes. -/
theorem reuse_served {st : RxState} {rxb : Rxb} (conserved : ConservedBut rxb st)
    (served : Served rxClaimReqAlloc st) :
    Conserved (iwlPcieRxReuseRbd false st rxb) ∧
      Served (rxClaimReqAlloc + 1) (iwlPcieRxReuseRbd false st rxb) ∧
      (iwlPcieRxReuseRbd false st rxb).queue = st.queue ∧
      (iwlPcieRxReuseRbd false st rxb).write = st.write ∧
      (iwlPcieRxReuseRbd false st rxb).read = st.read := by
  have once := conserved.once
  have ready := conserved.ready
  have used := served.used
  have before := served.before
  have after := served.after
  have counted (other : Rxb) : List.count other [rxb] = if rxb = other then 1 else 0 := by
    rw [List.count_singleton]
    simp
  unfold iwlPcieRxReuseRbd
  simp only [Bool.false_eq_true, if_false]
  by_cases post : (st.usedCount + 1) % rxClaimReqAlloc = rxPostReqAlloc
  · rw [if_pos post]
    unfold rxClaimReqAlloc rxPostReqAlloc at *
    obtain ⟨idle, some, pool⟩ := before (by omega)
    unfold allocatorPoolSize rxClaimReqAlloc rxPostReqAlloc at pool
    refine posted_served ⟨fun other => ?_, conserved.freeCount, ready, conserved.intact⟩ ?_ idle ?_ ?_
    · rw [← once other]
      unfold RxState.places handOver
      dsimp only
      rw [List.count_append, List.count_append, counted, List.count_nil]
      omega
    · exact congrArg (· + 1) served.none
    · show st.usedCount + 1 = 2
      omega
    · show 8 ≤ (st.rbdEmpty ++ (st.rxUsed ++ [rxb])).length
      rw [List.length_append, List.length_append, List.length_singleton]
      omega
  · rw [if_neg post]
    unfold rxClaimReqAlloc rxPostReqAlloc at *
    refine ⟨⟨fun other => ?_, conserved.freeCount, ready, conserved.intact⟩,
      ⟨by dsimp only; omega, served.none, fun few => ?_, fun many => ?_⟩, rfl, rfl, rfl⟩
    · rw [← once other]
      unfold RxState.places
      dsimp only
      rw [List.count_append, counted]
      omega
    · unfold rxPostReqAlloc at few
      dsimp only at few ⊢
      obtain ⟨none, _, pool⟩ := before (by omega)
      exact ⟨none, by rw [List.length_append, List.length_singleton]; omega, pool⟩
    · unfold rxPostReqAlloc at many ⊢
      dsimp only at many ⊢
      obtain ⟨one, rest⟩ := after (by omega)
      exact ⟨one, by rw [List.length_append, List.length_singleton]; omega⟩

/-- **A descriptor is handled**, whatever becomes of its page. -/
theorem handleRb_served (stolen mapped : Bool) {st : RxState} {rxb : Rxb}
    (conserved : ConservedBut rxb st) (served : Served rxClaimReqAlloc st) :
    Conserved (iwlPcieRxHandleRb stolen mapped false st (some rxb)) ∧
      Served (rxClaimReqAlloc + 1) (iwlPcieRxHandleRb stolen mapped false st (some rxb)) ∧
      (iwlPcieRxHandleRb stolen mapped false st (some rxb)).queue = st.queue ∧
      (iwlPcieRxHandleRb stolen mapped false st (some rxb)).write = st.write ∧
      (iwlPcieRxHandleRb stolen mapped false st (some rxb)).read = st.read := by
  -- Which descriptors have a page is no part of conservation.
  have paged (page : Rxb → Bool) : ConservedBut rxb { st with page := page } ∧
      Served rxClaimReqAlloc { st with page := page } :=
    ⟨⟨conserved.once, conserved.freeCount, conserved.ready, conserved.intact⟩,
      ⟨served.used, served.none, served.before, served.after⟩⟩
  have freed (page : Rxb → Bool) : Conserved { st with
      page := page, rxFree := st.rxFree ++ [rxb], freeCount := st.freeCount + 1 } := by
    refine ⟨fun other => ?_, ?_, conserved.ready, conserved.intact⟩
    · rw [← conserved.once other]
      unfold RxState.places
      dsimp only
      rw [List.count_append, List.count_singleton]
      simp only [beq_iff_eq]
      omega
    · dsimp only
      rw [List.length_append, List.length_singleton, conserved.freeCount]
  have longer : Served (rxClaimReqAlloc + 1) st :=
    ⟨Nat.lt_succ_of_lt served.used, served.none, served.before, served.after⟩
  unfold iwlPcieRxHandleRb
  dsimp only
  cases stolen with
  | false =>
    simp only [Bool.false_eq_true, if_false]
    split
    · split
      · exact ⟨freed st.page, ⟨longer.used, longer.none, longer.before, longer.after⟩, rfl, rfl, rfl⟩
      · exact reuse_served (paged _).1 (paged _).2
    · exact reuse_served conserved served
  | true =>
    simp only [if_true, Function.update_self, Bool.false_eq_true, if_false]
    exact reuse_served (paged _).1 (paged _).2

/-! ### Claiming -/

/-- **The claim after a descriptor**: at the eighth used one there is a request ready, with its eight
descriptors, so nothing is taken from an empty list. -/
theorem claim_served {st : RxState} (conserved : Conserved st)
    (served : Served (rxClaimReqAlloc + 1) st) :
    ∃ st', (if rxClaimReqAlloc ≤ st.usedCount then iwlPcieRxAllocatorGet st else .ok st) = .ok st' ∧
      Conserved st' ∧ st'.queue = st.queue ∧ st'.write = st.write ∧ st'.read = st.read ∧
      st'.usedCount < rxClaimReqAlloc ∧ st'.reqPending = 0 ∧
      (st'.usedCount = 0 →
        st'.reqReady = 0 ∧ allocatorPoolSize ≤ st'.rbdEmpty.length + st'.rxUsed.length) ∧
      (st'.usedCount ≠ 0 → Served rxClaimReqAlloc st') := by
  have used := served.used
  have before := served.before
  have after := served.after
  have ready := conserved.ready
  by_cases claims : rxClaimReqAlloc ≤ st.usedCount
  · rw [if_pos claims]
    have eight : st.usedCount = rxClaimReqAlloc := by omega
    obtain ⟨one, rest⟩ := after (by rw [eight]; decide)
    rw [one] at ready
    have enough : st.rbdAllocated.length = rxClaimReqAlloc := by omega
    rw [rxAllocatorGet_eq (by omega) (Nat.le_of_eq enough.symm)]
    unfold RxState.claimed
    refine ⟨_, rfl, ⟨fun other => ?_, ?_, ?_, conserved.intact⟩, rfl, rfl, rfl, ?_, served.none, ?_, ?_⟩
    · rw [← conserved.once other]
      unfold RxState.places
      dsimp only
      rw [← count_take_drop rxClaimReqAlloc st.rbdAllocated, List.count_append]
      omega
    · dsimp only
      rw [List.length_append, List.length_take, enough, Nat.min_self, conserved.freeCount]
    · dsimp only
      rw [List.length_drop, enough, one, Nat.sub_self]
      rfl
    · dsimp only
      rw [eight, Nat.sub_self]
      decide
    · intro _
      dsimp only
      refine ⟨by rw [one]; rfl, ?_⟩
      unfold allocatorPoolSize
      omega
    · intro some
      dsimp only at some
      omega
  · rw [if_neg claims]
    refine ⟨st, rfl, conserved, rfl, rfl, rfl, Nat.lt_of_not_le claims, served.none, ?_, ?_⟩
    · intro none
      obtain ⟨idle, _, pool⟩ := before (by rw [none]; decide)
      exact ⟨idle, Nat.le_add_right_of_le pool⟩
    · exact fun _ => ⟨Nat.lt_of_not_le claims, served.none, before, after⟩

/-- Handing the used descriptors over keeps what is conserved. -/
theorem handOver_conserved {st : RxState} (conserved : Conserved st) : Conserved (handOver st) := by
  refine ⟨fun other => ?_, conserved.freeCount, conserved.ready, conserved.intact⟩
  rw [← conserved.once other]
  unfold RxState.places handOver
  dsimp only
  rw [List.count_append, List.count_nil]
  omega

/-! ### The loop -/

/-- **One turn keeps the invariant** and brings `i` closer to `r`; there is never an emergency. -/
theorem rxTurn_steady (env : RxHandleEnv) {pass : RxPass} (calm : pass.emergency = false)
    (steady : Steady pass.st pass.i) (more : pass.i ≠ pass.r) :
    ∃ st, rxTurn env pass = .again ⟨st, incWrap pass.i, pass.r, pass.count, false, pass.starts,
        pass.handled + 1⟩ ∧ Steady st (incWrap pass.i) := by
  obtain ⟨conserved, served, ring⟩ := steady
  have used := served.used
  have calm' : (pass.emergency || pass.st.usedCount == rxQueueSize / 2) = false := by
    unfold rxClaimReqAlloc at used
    have few : pass.st.usedCount ≠ rxQueueSize / 2 := by
      unfold rxQueueSize
      omega
    rw [calm, Bool.false_or, beq_eq_false_iff_ne]
    exact few
  -- The descriptor in the slot, or nothing where the hardware is ahead of the ring.
  have handled : ∃ st, iwlPcieRxHandleRb (env.stolen pass.handled) (env.mapped pass.handled) false
      { pass.st with queue := Function.update pass.st.queue pass.i none } (pass.st.queue pass.i) = st ∧
      Conserved st ∧ Served (rxClaimReqAlloc + 1) st ∧ RingFrom st (incWrap pass.i) := by
    refine ⟨_, rfl, ?_⟩
    have ring' := ring.take
    cases held : pass.st.queue pass.i with
    | none =>
      have unchanged : Function.update pass.st.queue pass.i none = pass.st.queue := by
        rw [← held, Function.update_eq_self]
      rw [unchanged] at ring' ⊢
      exact ⟨conserved, ⟨Nat.lt_succ_of_lt used, served.none, served.before, served.after⟩, ring'⟩
    | some rxb =>
      obtain ⟨conserved', served', queue, write, _⟩ := handleRb_served (env.stolen pass.handled)
        (env.mapped pass.handled) (conserved.take held)
        ⟨used, served.none, served.before, served.after⟩
      refine ⟨conserved', served', fun slot filled => ?_⟩
      rw [queue] at filled
      rw [write]
      exact ring' slot filled
  obtain ⟨st, eq, conserved', served', ring'⟩ := handled
  obtain ⟨st', claimed, conserved'', queue, write, _, few, none, empty, some⟩ :=
    claim_served conserved' served'
  have ring'' : RingFrom st' (incWrap pass.i) := by
    intro slot filled
    rw [queue] at filled
    rw [write]
    exact ring' slot filled
  unfold rxTurn
  rw [if_neg more, calm']
  dsimp only at eq ⊢
  rw [eq, claimed]
  dsimp only
  by_cases done : st'.usedCount = 0
  · rw [if_pos ⟨by rw [done]; rfl, rfl⟩]
    refine ⟨_, rfl, handOver_conserved conserved'', ⟨few, none, fun _ => ?_, fun many => ?_⟩, ring''⟩
    · obtain ⟨idle, pool⟩ := empty done
      refine ⟨idle, ?_, ?_⟩
      · show st'.usedCount ≤ _
        rw [done]
        exact Nat.zero_le _
      · show allocatorPoolSize ≤ (st'.rbdEmpty ++ st'.rxUsed).length
        rw [List.length_append]
        exact pool
    · change rxPostReqAlloc ≤ st'.usedCount at many
      rw [done] at many
      exact absurd many (by decide)
  · have rest : ¬ (st'.usedCount % rxClaimReqAlloc = 0 ∧ false = false) := by
      rw [Nat.mod_eq_of_lt few]
      exact fun both => done both.1
    rw [if_neg rest, if_neg Bool.false_ne_true]
    exact ⟨_, rfl, conserved'', some done, ring''⟩

/-- Between turns: no emergency, and the invariant. -/
structure CalmPass (pass : RxPass) : Prop where
  calm : pass.emergency = false
  steady : Steady pass.st pass.i

/-- The pages to come and the read index are no part of the invariant. -/
theorem Steady.moved {st : RxState} {i : RxIndex} (steady : Steady st i) (attempts : List PageAttempt)
    (read : RxIndex) : Steady { st with attempts := attempts, read := read } i := by
  obtain ⟨conserved, served, ring⟩ := steady
  exact ⟨⟨conserved.once, conserved.freeCount, conserved.ready, conserved.intact⟩,
    ⟨served.used, served.none, served.before, served.after⟩, ring⟩

/-- **A turn** keeps the invariant and comes closer to the end. -/
theorem rxTurn_calm {env : RxHandleEnv} {pass next : RxPass} (calm : CalmPass pass)
    (turn : rxTurn env pass = .again next) :
    CalmPass next ∧ gap rxQueueSize next.i.val next.r.val < gap rxQueueSize pass.i.val pass.r.val := by
  by_cases done : pass.i = pass.r
  · unfold rxTurn at turn
    rw [if_pos done] at turn
    cases turn
  · obtain ⟨st', again, steady⟩ := rxTurn_steady env calm.calm calm.steady done
    rw [again] at turn
    cases turn
    have closer := gap_next_left pass.i.isLt pass.r.isLt fun same => done (Fin.ext same)
    rw [← incWrap_val] at closer
    refine ⟨⟨rfl, steady⟩, ?_⟩
    dsimp only
    omega

/-- **The loop is left** without a fault. -/
theorem rxTurn_leaves {env : RxHandleEnv} {pass : RxPass} {left : Except RxFault RxPass} (calm : CalmPass pass)
    (turn : rxTurn env pass = .leave left) : ∃ pass, left = .ok pass ∧ CalmPass pass := by
  by_cases done : pass.i = pass.r
  · unfold rxTurn at turn
    rw [if_pos done] at turn
    cases turn
    exact ⟨pass, rfl, calm⟩
  · obtain ⟨_, again, _⟩ := rxTurn_steady env calm.calm calm.steady done
    rw [again] at turn
    cases turn

/-- **A call comes to its end** and keeps the invariant. -/
theorem rxHandle_steady (env : RxHandleEnv) (more : Nat) {st : RxState} (steady : Steady st st.read) :
    ∃ st', iwlPcieRxHandle env (rxQueueSize + more) st = some (.ok st') ∧ Steady st' st'.read := by
  have entered : CalmPass ⟨{ st with attempts := env.attempts }, st.read, env.closed 0, 0, false, 0, 0⟩ :=
    ⟨rfl, steady.moved env.attempts st.read⟩
  obtain ⟨left, ran⟩ := run_total CalmPass (fun pass => gap rxQueueSize pass.i.val pass.r.val)
    (fun _ _ calm turn => rxTurn_calm calm turn) entered (Nat.lt_add_right more (gap_lt (env.closed 0).isLt))
  obtain ⟨pass, rfl, calm, kept⟩ := run_of_heads CalmPass (fun left => ∃ pass, left = .ok pass ∧ CalmPass pass)
    entered (fun _ _ calm turn => (rxTurn_calm calm turn).1) (fun _ _ calm turn => rxTurn_leaves calm turn) ran
  obtain ⟨st', restocked, steady'⟩ := restock_steady (env.enabled pass.starts)
    (env.asleep pass.starts) (kept.moved pass.st.attempts pass.i)
  refine ⟨st', ?_, steady'⟩
  unfold iwlPcieRxHandle
  dsimp only
  rw [ran, Option.map_some]
  simp only [bind, Except.bind, calm, Bool.false_and, Bool.false_eq_true, if_false]
  rw [restocked]

theorem handleAll_steady (calls : List RxHandleEnv) (more : Nat) {st : RxState}
    (steady : Steady st st.read) :
    ∃ st', handleAll (rxQueueSize + more) calls st = some (.ok st') ∧ Conserved st' := by
  induction calls generalizing st with
  | nil => exact ⟨st, rfl, steady.conserved⟩
  | cons env later ih =>
    obtain ⟨next, handled, steady'⟩ := rxHandle_steady env more steady
    unfold handleAll
    rw [handled]
    exact ih steady'

/-! ### The beginning -/

theorem rxPools_steady (attempts : List PageAttempt) (i : RxIndex) : Steady (rxPools attempts) i := by
  refine ⟨⟨fun rxb => ?_, rfl, rfl, rfl⟩, ⟨?_, rfl, fun _ => ⟨rfl, Nat.zero_le _, ?_⟩, ?_⟩, ?_⟩
  · have all := count_take_drop allocatorPoolSize (List.range numAlloc) rxb
    unfold RxState.places rxPools
    dsimp only
    rw [tally_empty, List.count_reverse, List.count_reverse, List.count_nil]
    split
    · rename_i inPool
      rw [List.count_eq_one_of_mem List.nodup_range (List.mem_range.mpr inPool)] at all
      omega
    · rename_i outside
      rw [List.count_eq_zero_of_not_mem (fun member => outside (List.mem_range.mp member))] at all
      omega
  · show 0 < rxClaimReqAlloc
    decide
  · unfold rxPools
    dsimp only
    rw [List.length_reverse, List.length_take, List.length_range]
    decide
  · intro many
    change rxPostReqAlloc ≤ 0 at many
    exact absurd many (by decide)
  · exact fun slot held => absurd rfl held

/-- The first pages keep the invariant, as no descriptor counts as used yet. -/
theorem allocRbsLoop_steady (used : List Rxb) {st : RxState} {i : RxIndex} (fresh : st.usedCount = 0)
    (steady : Steady { st with rxUsed := used } i) :
    Steady (allocRbsLoop used st) i ∧ (allocRbsLoop used st).read = st.read := by
  induction used generalizing st with
  | nil => exact ⟨steady, rfl⟩
  | cons rxb rest ih =>
    obtain ⟨conserved, served, ring⟩ := steady
    have stops (page : Rxb → Bool) (attempts : List PageAttempt) :
        Steady { st with rxUsed := rxb :: rest, page := page, attempts := attempts } i :=
      ⟨⟨conserved.once, conserved.freeCount, conserved.ready, conserved.intact⟩,
        ⟨served.used, served.none, served.before, served.after⟩, ring⟩
    unfold allocRbsLoop
    split
    · exact ⟨stops st.page _, rfl⟩
    · exact ⟨stops _ _, rfl⟩
    · refine ih fresh ⟨⟨fun other => ?_, ?_, conserved.ready, conserved.intact⟩,
        ⟨served.used, served.none, fun few => ?_, fun many => ?_⟩, ring⟩
      · rw [← conserved.once other]
        unfold RxState.places
        dsimp only
        rw [List.count_append, List.count_singleton, List.count_cons]
        omega
      · dsimp only
        rw [List.length_append, List.length_singleton, conserved.freeCount]
      · obtain ⟨idle, _, pool⟩ := served.before few
        exact ⟨idle, fresh ▸ Nat.zero_le _, pool⟩
      · change rxPostReqAlloc ≤ st.usedCount at many
        rw [fresh] at many
        exact absurd many (by decide)

theorem allocRbs_steady {st : RxState} {i : RxIndex} (fresh : st.usedCount = 0) (steady : Steady st i) :
    Steady (iwlPcieRxqAllocRbs st) i ∧ (iwlPcieRxqAllocRbs st).read = st.read :=
  allocRbsLoop_steady st.rxUsed fresh steady

theorem rxInit_steady (env : RxInitEnv) :
    ∃ st, iwlPcieRxInit env = .ok st ∧ Steady st st.read := by
  obtain ⟨filled, read⟩ := allocRbs_steady rfl
    (rxPools_steady env.attempts (rxPools env.attempts).read)
  rw [← read] at filled
  obtain ⟨st, restocked, steady⟩ := restock_steady env.enabled env.asleep filled
  refine ⟨iwlPcieRxqIncWrPtr env.asleep st, ?_, ?_⟩
  · unfold iwlPcieRxInit
    rw [restocked]
    rfl
  · rw [incWrPtr_read]
    exact incWrPtr_steady env.asleep steady

/-- **RX buffer conservation.** After the initialisation and any sequence of calls, none of which
takes from an empty list or runs on, every descriptor is in exactly one place, `free_count` and the
ready requests are those of the lists, and no slot was overwritten that held a descriptor. -/
theorem rxConservation (init : RxInitEnv) (calls : List RxHandleEnv) (more : Nat) :
    ∃ st, rxRun (rxQueueSize + more) init calls = some (.ok st) ∧ Conserved st := by
  obtain ⟨st, started, steady⟩ := rxInit_steady init
  unfold rxRun
  rw [started]
  exact handleAll_steady calls more steady

/-! ### The guard of the allocator -/

/-- What `iwl_pcie_rx_allocator_get` is for: a ready request is claimed, and without one nothing is
done. -/
def ClaimsReady (st : RxState) : Prop :=
  ∃ st', iwlPcieRxAllocatorGet st = .ok st' ∧ st' = if 0 < st.reqReady then st.claimed else st

/-- **The guard passes at zero.** It compares what `OSDecrementAtomic` returns with zero as if that were the
value after, so the descriptors of a request that is not there are taken from an empty list. -/
theorem claimsReady_iff {st : RxState}
    (consistent : (st.rbdAllocated.length : Int) = rxClaimReqAlloc * st.reqReady) :
    ClaimsReady st ↔ 0 < st.reqReady := by
  have eight : (st.rbdAllocated.length : Int) = 8 * st.reqReady := consistent
  unfold ClaimsReady
  constructor
  · rintro ⟨st', claimed, _⟩
    by_contra none
    have zero : st.reqReady = 0 := by omega
    have empty : st.rbdAllocated = [] := List.length_eq_zero_iff.mp (by omega)
    unfold iwlPcieRxAllocatorGet rxClaimReqAlloc claimLoop at claimed
    rw [zero, if_neg (Int.lt_irrefl 0)] at claimed
    dsimp only at claimed
    rw [empty] at claimed
    cases claimed
  · intro ready
    have enough : 8 ≤ st.rbdAllocated.length := by omega
    exact ⟨st.claimed, rxAllocatorGet_eq (by omega) enough, (if_pos ready).symm⟩

/-- The allocator with one request ready, and with none. -/
def oneReady : RxState := { rxPools [] with reqReady := 1, rbdAllocated := List.range 8 }

theorem oneReady_claims : ClaimsReady oneReady ↔ 0 < oneReady.reqReady := claimsReady_iff rfl

theorem noneReady_faults : ¬ ClaimsReady (rxPools []) := by
  rintro ⟨st', claimed, _⟩
  cases claimed

end IntelWifi.Pcie.Rxq
