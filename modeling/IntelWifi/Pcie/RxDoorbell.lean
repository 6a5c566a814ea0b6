/-
**The write pointer that the device is told.**

The driver puts buffers into the receive ring and tells the device by `write_actual`, in steps of eight. Without shadow
registers it does not tell a MAC that sleeps: it asks for a wake-up, and `iwl_pcie_rxq_check_wrptr` tells it in the
interrupt that follows.

A run is calls of `iwl_pcie_rx_handle` and wake-up interrupts, in any order, and with multiple queues the turns of a
call with wake-ups between them. `asleep` is what `CSR_UCODE_DRV_GP1` says each time the driver looks.

* `incWrPtr_bell`, `restock_announced`: the ring and its register as a doorbell.
* `toldRun_iff`, `mqToldRun_iff`: the device knows of all whole eights of buffers, or a wake-up is asked for, all along
  exactly the runs where no wake-up interrupt finds the MAC asleep again with something to tell. There `need_update` is
  cleared behind the new request.
-/

import IntelWifi.Lib.Doorbell
import IntelWifi.Pcie.RxMultiQueue

namespace IntelWifi.Pcie.Rxq

open IntelWifi.Doorbell IntelWifi.Loop IntelWifi.Machine

/-- `write_actual` is rounded down to these. -/
def wrPtrGranule : Nat := 8

/-- `write_actual` and `need_update`. -/
def RxState.bell (st : RxState) : Bell := ⟨st.writeActual, st.needUpdate⟩

/-- `iwl_pcie_rxq_check_wrptr`. -/
def iwlPcieRxqCheckWrptr (asleep : Bool) (st : RxState) : RxState :=
  if !st.needUpdate then st else { iwlPcieRxqIncWrPtr asleep st with needUpdate := false }

/-- `iwl_pcie_rxq_check_wrptr`, with multiple queues. -/
def mqCheckWrptr (asleep : Bool) (mq : MqState) : MqState :=
  if !mq.rx.needUpdate then mq
  else
    let mq := mqIncWrPtr asleep mq
    { mq with rx := { mq.rx with needUpdate := false } }

/-- **The device knows of the buffers**, or a wake-up is asked for. -/
def RxState.Told (st : RxState) : Prop := Announced wrPtrGranule st.write.val st.bell

def MqState.Told (mq : MqState) : Prop := Announced wrPtrGranule mq.write.val mq.rx.bell

/-! ### What does not ring -/

section Frames

variable {st : RxState}

theorem allocRbsLoop_bell (used : List Rxb) (st : RxState) :
    (allocRbsLoop used st).bell = st.bell ∧ (allocRbsLoop used st).write = st.write := by
  induction used generalizing st with
  | nil => exact ⟨rfl, rfl⟩
  | cons rxb rest ih =>
    unfold allocRbsLoop
    split
    · exact ⟨rfl, rfl⟩
    · exact ⟨rfl, rfl⟩
    · exact ih _

theorem allocRbs_bell (st : RxState) :
    (iwlPcieRxqAllocRbs st).bell = st.bell ∧ (iwlPcieRxqAllocRbs st).write = st.write :=
  allocRbsLoop_bell st.rxUsed st

theorem allocatorBatch_bell (left : Nat) (st : RxState) (localEmpty localAllocated : List Rxb) :
    (allocatorBatch left st localEmpty localAllocated).1.bell = st.bell ∧
      (allocatorBatch left st localEmpty localAllocated).1.write = st.write := by
  induction left generalizing st localEmpty localAllocated with
  | zero => exact ⟨rfl, rfl⟩
  | succ left ih =>
    cases localEmpty with
    | nil => exact ⟨rfl, rfl⟩
    | cons rxb rest => exact ih _ _ _

theorem allocatorLoop_bell (bound pending : Nat) (st : RxState) (localEmpty : List Rxb) :
    (allocatorLoop bound pending st localEmpty).1.bell = st.bell ∧
      (allocatorLoop bound pending st localEmpty).1.write = st.write := by
  induction bound generalizing pending st localEmpty with
  | zero => exact ⟨rfl, rfl⟩
  | succ bound ih =>
    cases pending with
    | zero => exact ⟨rfl, rfl⟩
    | succ pending =>
      have batch := allocatorBatch_bell rxClaimReqAlloc st localEmpty []
      unfold allocatorLoop
      dsimp only
      refine ⟨(ih _ _ _).1.trans ?_, (ih _ _ _).2.trans batch.2⟩
      exact batch.1

theorem rxAllocator_bell (st : RxState) :
    (iwlPcieRxAllocator st).bell = st.bell ∧ (iwlPcieRxAllocator st).write = st.write :=
  allocatorLoop_bell st.reqPending st.reqPending { st with reqPending := 0, rbdEmpty := [] } st.rbdEmpty

theorem reuse_bell (emergency : Bool) (st : RxState) (rxb : Rxb) :
    (iwlPcieRxReuseRbd emergency st rxb).bell = st.bell ∧
      (iwlPcieRxReuseRbd emergency st rxb).write = st.write := by
  unfold iwlPcieRxReuseRbd
  dsimp only
  split
  · exact ⟨rfl, rfl⟩
  · split
    · exact rxAllocator_bell _
    · exact ⟨rfl, rfl⟩

theorem handleRb_bell (stolen mapped emergency : Bool) (st : RxState) (held : Option Rxb) :
    (iwlPcieRxHandleRb stolen mapped emergency st held).bell = st.bell ∧
      (iwlPcieRxHandleRb stolen mapped emergency st held).write = st.write := by
  cases held with
  | none => exact ⟨rfl, rfl⟩
  | some rxb =>
    unfold iwlPcieRxHandleRb
    cases stolen
    all_goals
      simp only [Bool.false_eq_true, if_false, if_true]
      split
      · split
        · exact ⟨rfl, rfl⟩
        · exact reuse_bell _ _ _
      · exact reuse_bell _ _ _

theorem claimLoop_bell (left : Nat) {st st' : RxState} (claimed : claimLoop left st = .ok st') :
    st'.bell = st.bell ∧ st'.write = st.write := by
  induction left generalizing st with
  | zero =>
    cases claimed
    exact ⟨rfl, rfl⟩
  | succ left ih =>
    unfold claimLoop at claimed
    split at claimed
    · cases claimed
    · have rest := ih claimed
      exact rest

theorem rxAllocatorGet_bell {st' : RxState} (claimed : iwlPcieRxAllocatorGet st = .ok st') :
    st'.bell = st.bell ∧ st'.write = st.write := by
  unfold iwlPcieRxAllocatorGet at claimed
  split at claimed
  · cases claimed
    exact ⟨rfl, rfl⟩
  · cases loop : claimLoop rxClaimReqAlloc { st with reqReady := st.reqReady - 1 } with
    | error fault =>
      rw [loop] at claimed
      cases claimed
    | ok next =>
      rw [loop] at claimed
      cases claimed
      have rest := claimLoop_bell _ loop
      exact rest

theorem claim_bell {st' : RxState}
    (claimed : (if rxClaimReqAlloc ≤ st.usedCount then iwlPcieRxAllocatorGet st else .ok st) = .ok st') :
    st'.bell = st.bell ∧ st'.write = st.write := by
  split at claimed
  · exact rxAllocatorGet_bell claimed
  · cases claimed
    exact ⟨rfl, rfl⟩

/-- What neither moves the index nor rings. -/
theorem RxState.Told.frame {st' : RxState} (told : st.Told) (same : st'.bell = st.bell ∧ st'.write = st.write) :
    st'.Told := by
  unfold RxState.Told
  rw [same.1, same.2]
  exact told

end Frames

/-! ### What rings -/

section Rings

variable {st st' : RxState} {enabled asleep : Bool}

/-- **The register is a doorbell.** -/
theorem incWrPtr_bell : (iwlPcieRxqIncWrPtr asleep st).bell = ring wrPtrGranule asleep st.write.val st.bell := by
  cases asleep <;> rfl

theorem incWrPtr_write : (iwlPcieRxqIncWrPtr asleep st).write = st.write := by
  cases asleep <;> rfl

theorem checkWrptr_bell :
    (iwlPcieRxqCheckWrptr asleep st).bell = recheck wrPtrGranule asleep st.write.val st.bell ∧
      (iwlPcieRxqCheckWrptr asleep st).write = st.write := by
  unfold iwlPcieRxqCheckWrptr recheck
  cases waits : st.needUpdate with
  | false =>
    refine ⟨?_, rfl⟩
    show st.bell = if st.needUpdate = true then _ else st.bell
    rw [waits]
    rfl
  | true =>
    refine ⟨?_, incWrPtr_write⟩
    show _ = if st.needUpdate = true then _ else st.bell
    rw [waits, if_pos rfl, ← incWrPtr_bell]
    rfl

/-- The end of a restock is a call of the bell. -/
theorem restockTail_told :
    RxState.Told (if st.writeActual ≠ st.write.val / 8 * 8 then iwlPcieRxqIncWrPtr asleep st else st) := by
  by_cases moved : st.writeActual ≠ st.write.val / 8 * 8
  · have bell : publish wrPtrGranule asleep st.write.val st.bell = ring wrPtrGranule asleep st.write.val st.bell :=
      if_pos moved
    rw [if_pos moved]
    unfold RxState.Told
    rw [incWrPtr_bell, incWrPtr_write, ← bell]
    exact publish_announced
  · have bell : publish wrPtrGranule asleep st.write.val st.bell = st.bell := if_neg moved
    rw [if_neg moved]
    unfold RxState.Told
    rw [← bell]
    exact publish_announced

/-- **While no wake-up is asked for**, fewer than eight buffers are not told of. -/
theorem RxState.Told.lag (told : st.Told) (quiet : st.needUpdate = false) :
    st.writeActual ≤ st.write.val ∧ st.write.val < st.writeActual + wrPtrGranule :=
  Announced.lag told quiet (by decide)

/-- **Restocking announces what it puts into the ring**, if it runs at all. -/
theorem restock_announced (told : st.Told) (restocked : iwlPcieRxsqRestock enabled asleep st = .ok st') :
    st'.Told := by
  unfold iwlPcieRxsqRestock at restocked
  cases enabled with
  | false =>
    cases restocked
    exact told
  | true =>
    cases filled : restockLoop st.freeCount st with
    | error fault =>
      rw [filled] at restocked
      cases restocked
    | ok next =>
      rw [filled] at restocked
      obtain rfl := Except.ok.inj restocked
      exact restockTail_told

end Rings

/-! ### A call of `iwl_pcie_rx_handle` -/

theorem rxTurn_told {env : RxHandleEnv} {pass next : RxPass} (told : pass.st.Told)
    (turn : rxTurn env pass = .again next) : next.st.Told := by
  unfold rxTurn at turn
  split at turn
  · cases turn
  dsimp only at turn
  have handled := handleRb_bell (env.stolen pass.handled) (env.mapped pass.handled)
    (pass.emergency || pass.st.usedCount == rxQueueSize / 2)
    { pass.st with queue := Function.update pass.st.queue pass.i none } (pass.st.queue pass.i)
  split at turn
  · cases turn
  rename_i st claimed
  have here : st.Told := told.frame ⟨(claim_bell claimed).1.trans handled.1, (claim_bell claimed).2.trans handled.2⟩
  split at turn
  · cases turn
    exact here
  split at turn
  · split at turn
    · split at turn
      · cases turn
      · rename_i after restocked
        have read : RxState.Told { st with read := incWrap pass.i } := here
        have restock := restock_announced (read.frame (allocRbs_bell _)) restocked
        cases turn
        exact restock
    · cases turn
      exact here
  · cases turn
    exact here

theorem rxTurn_leaves_told {env : RxHandleEnv} {pass last : RxPass} (told : pass.st.Told)
    (turn : rxTurn env pass = .leave (.ok last)) : last.st.Told := by
  unfold rxTurn at turn
  split at turn
  · cases turn
    exact told
  dsimp only at turn
  split at turn
  · cases turn
  split at turn
  · cases turn
  split at turn
  · split at turn
    · split at turn <;> cases turn
    · cases turn
  · cases turn

/-- **A call keeps what the device is told.** -/
theorem rxHandle_told {env : RxHandleEnv} {fuel : Nat} {st st' : RxState} (told : st.Told)
    (handled : iwlPcieRxHandle env fuel st = some (.ok st')) : st'.Told := by
  unfold iwlPcieRxHandle at handled
  dsimp only at handled
  obtain ⟨left, ran, rest⟩ := Option.map_eq_some_iff.mp handled
  cases left with
  | error fault => cases rest
  | ok last =>
    have entered : RxState.Told { st with attempts := env.attempts } := told
    obtain lastTold := run_of_heads (fun pass : RxPass => pass.st.Told)
      (fun left => ∀ last, left = .ok last → last.st.Told) entered (fun _ _ inv turn => rxTurn_told inv turn)
      (fun _ _ inv turn last same => rxTurn_leaves_told inv (same ▸ turn)) ran last rfl
    refine restock_announced (?_ : RxState.Told _) rest
    split
    · have here : RxState.Told { last.st with read := last.i } := lastTold
      exact here.frame (allocRbs_bell _)
    · exact lastTold

/-! ### Runs with one queue -/

/-- An interrupt for received frames, or the one after a wake-up. -/
inductive BellAct where
  | rx (env : RxHandleEnv)
  | wakeup (asleep : Bool)

def bellStep (st : RxState) : BellAct → Option RxState
  | .rx env => (iwlPcieRxHandle env rxQueueSize st).bind Except.toOption
  | .wakeup asleep => some (iwlPcieRxqCheckWrptr asleep st)

/-- The MAC does not sleep again when there is something to tell it. -/
def wakesAwake (st : RxState) : BellAct → Bool
  | .rx _ => true
  | .wakeup asleep => !loses wrPtrGranule asleep st.write.val st.bell

theorem checkWrptr_told_iff {st : RxState} (asleep : Bool) (told : st.Told) :
    (iwlPcieRxqCheckWrptr asleep st).Told ↔ loses wrPtrGranule asleep st.write.val st.bell = false := by
  unfold RxState.Told
  rw [checkWrptr_bell.1, checkWrptr_bell.2]
  exact recheck_announced_iff told

theorem bellStep_told {st next : RxState} {act : BellAct} (told : st.Told) (ok : wakesAwake st act = true)
    (stepped : bellStep st act = some next) : next.Told := by
  cases act with
  | rx env =>
    obtain ⟨result, handled, done⟩ := Option.bind_eq_some_iff.mp stepped
    cases result with
    | error fault => cases done
    | ok after =>
      obtain rfl := Option.some.inj done
      exact rxHandle_told told handled
  | wakeup asleep =>
    obtain rfl := Option.some.inj stepped
    exact (checkWrptr_told_iff asleep told).mpr ((Bool.not_eq_true' _).mp ok)

theorem bellStep_loses {st : RxState} {act : BellAct} (told : st.Told) (lost : wakesAwake st act = false) :
    ∃ next, bellStep st act = some next ∧ ¬ next.Told := by
  cases act with
  | rx env => cases lost
  | wakeup asleep =>
    refine ⟨_, rfl, fun still => ?_⟩
    have kept := (checkWrptr_told_iff asleep told).mp still
    exact Bool.false_ne_true (kept.symm.trans ((Bool.not_eq_false' _).mp lost))

theorem rxInit_told {env : RxInitEnv} {st : RxState} (init : iwlPcieRxInit env = .ok st) : st.Told := by
  unfold iwlPcieRxInit at init
  cases restocked : iwlPcieRxsqRestock env.enabled env.asleep (iwlPcieRxqAllocRbs (rxPools env.attempts)) with
  | error fault =>
    rw [restocked] at init
    cases init
  | ok next =>
    rw [restocked] at init
    obtain rfl := Except.ok.inj init
    unfold RxState.Told
    rw [incWrPtr_bell, incWrPtr_write]
    exact ring_announced

/-- **The device is told of received buffers**, with one queue: exactly in the runs where no wake-up interrupt finds the
MAC asleep again with something to tell. -/
theorem toldRun_iff (env : RxInitEnv) (st : RxState) (acts : List BellAct) (init : iwlPcieRxInit env = .ok st) :
    Always bellStep RxState.Told st acts ↔ allowed bellStep wakesAwake st acts = true :=
  always_iff_allowed_of_enabled RxState.Told (fun _ _ _ told ok stepped => bellStep_told told ok stepped)
    (fun _ told => told) (fun _ _ told lost => bellStep_loses told lost) (rxInit_told init)

/-- There are pages for ten buffers, and the MAC sleeps. -/
def tenPages : RxInitEnv := ⟨true, true, List.replicate 10 .page ++ [.noPage]⟩

/-- Seven buffers were received, the page of the third is stolen, and the MAC sleeps again. -/
def sevenReceived : RxHandleEnv where
  closedRbNum := fun _ => 7
  enabled := fun _ => true
  asleep := fun _ => true
  stolen := fun handled => handled == 2
  mapped := fun _ => true
  attempts := []

/-- The wake-up behind the initialisation tells of 8 buffers, and the one behind the call of 16. -/
theorem toldRun_received :
    ∃ st last, iwlPcieRxInit tenPages = .ok st ∧
      run bellStep st [.wakeup false, .rx sevenReceived, .wakeup false] = some last ∧
      (st.write.val, last.write.val, last.writeActual) = (10, 16, 16) ∧
      Always bellStep RxState.Told st [.wakeup false, .rx sevenReceived, .wakeup false] :=
  ⟨_, _, rfl, rfl, rfl, (toldRun_iff tenPages _ _ rfl).mpr rfl⟩

/-! ### Runs with multiple queues -/

section Mq

variable {mq mq' : MqState} {enabled asleep : Bool}

theorem mqIncWrPtr_bell :
    (mqIncWrPtr asleep mq).rx.bell = ring wrPtrGranule asleep mq.write.val mq.rx.bell ∧
      (mqIncWrPtr asleep mq).write = mq.write := by
  cases asleep <;> exact ⟨rfl, rfl⟩

theorem mqIncWrPtr_told : (mqIncWrPtr asleep mq).Told := by
  unfold MqState.Told
  rw [mqIncWrPtr_bell.1, mqIncWrPtr_bell.2]
  exact ring_announced

theorem mqCheckWrptr_told_iff (asleep : Bool) (told : mq.Told) :
    (mqCheckWrptr asleep mq).Told ↔ loses wrPtrGranule asleep mq.write.val mq.rx.bell = false := by
  have bell : (mqCheckWrptr asleep mq).rx.bell = recheck wrPtrGranule asleep mq.write.val mq.rx.bell ∧
      (mqCheckWrptr asleep mq).write = mq.write := by
    unfold mqCheckWrptr recheck
    cases waits : mq.rx.needUpdate with
    | false =>
      refine ⟨?_, rfl⟩
      show mq.rx.bell = if mq.rx.needUpdate = true then _ else mq.rx.bell
      rw [waits]
      rfl
    | true =>
      refine ⟨?_, mqIncWrPtr_bell.2⟩
      show _ = if mq.rx.needUpdate = true then _ else mq.rx.bell
      rw [waits, if_pos rfl, ← mqIncWrPtr_bell.1]
      rfl
  unfold MqState.Told
  rw [bell.1, bell.2]
  exact recheck_announced_iff told

/-- What neither moves the index nor rings. -/
theorem MqState.Told.frame {rx : RxState} (told : mq.Told) (same : rx.bell = mq.rx.bell) :
    MqState.Told { mq with rx := rx } := by
  unfold MqState.Told
  rw [same]
  exact told

theorem mqRestock_told (told : mq.Told) (restocked : iwlPcieRxmqRestock enabled asleep mq = .ok mq') : mq'.Told := by
  unfold iwlPcieRxmqRestock at restocked
  cases enabled with
  | false =>
    cases restocked
    exact told
  | true =>
    cases filled : mqRestockLoop mq.rx.freeCount mq with
    | error fault =>
      rw [filled] at restocked
      cases restocked
    | ok next =>
      rw [filled] at restocked
      obtain rfl := Except.ok.inj restocked
      by_cases moved : next.rx.writeActual ≠ next.write.val / 8 * 8
      · rw [if_pos moved]
        exact mqIncWrPtr_told
      · rw [if_neg moved]
        exact .inl (Decidable.not_not.mp moved)

theorem mqAllocRbs_told (attempts : List PageAttempt) (told : mq.Told) : (mqAllocRbs attempts mq).Told :=
  told.frame (allocRbs_bell _).1

/-- After an initialisation, whatever there was before. -/
theorem mqInit_told {env : RxInitEnv} (init : iwlPcieRxMqInit env mq = .ok mq') : mq'.Told := by
  unfold iwlPcieRxMqInit at init
  cases restocked : iwlPcieRxmqRestock env.enabled env.asleep (mqAllocRbs env.attempts (mqPools mq)) with
  | error fault =>
    rw [restocked] at init
    cases init
  | ok next =>
    rw [restocked] at init
    obtain rfl := Except.ok.inj init
    exact mqIncWrPtr_told

theorem mqOut_told {env : MqTurnEnv} {pass : MqPass} (told : mq.Told) (out : mqOut env pass mq = .ok mq') :
    mq'.Told := by
  unfold mqOut at out
  refine mqRestock_told (?_ : MqState.Told _) out
  split
  · exact mqAllocRbs_told _ (told : MqState.Told { mq with read := pass.i })
  · exact told

theorem mqContinue_told {env : MqTurnEnv} {pass pass' : MqPass} (told : mq.Told)
    (went : mqContinue env pass mq = .ok (mq', pass')) : mq'.Told := by
  unfold mqContinue at went
  split at went
  · cases went
    exact told
  split at went
  · split at went
    · cases restocked : iwlPcieRxmqRestock env.enabled env.asleep
        (mqAllocRbs mq.rx.attempts { mq with read := pass.i }) with
      | error fault =>
        rw [restocked] at went
        cases went
      | ok next =>
        rw [restocked] at went
        cases went
        have read : MqState.Told { mq with read := pass.i } := told
        exact mqRestock_told (mqAllocRbs_told _ read) restocked
    · cases went
      exact told
  · cases went
    exact told

theorem mqHandle_told {env : MqTurnEnv} {pass pass' : MqPass} {rxb : Rxb} (told : mq.Told)
    (handled : mqHandle env pass mq rxb = .ok (mq', pass')) : mq'.Told := by
  unfold mqHandle at handled
  have packet := handleRb_bell env.stolen env.mapped pass.emergency
    { (mq.take rxb).rx with attempts := env.attempts } (some rxb)
  cases claimed : mqClaim (iwlPcieRxHandleRb env.stolen env.mapped pass.emergency
    { (mq.take rxb).rx with attempts := env.attempts } (some rxb)) with
  | error fault =>
    dsimp only at handled
    rw [claimed] at handled
    cases handled
  | ok rx =>
    dsimp only at handled
    rw [claimed] at handled
    have taken : (mq.take rxb).Told := told
    exact mqContinue_told (taken.frame ((claim_bell claimed).1.trans packet.1)) handled

end Mq

/-- The driver with multiple queues, and wake-up interrupts between any two of its steps. -/
inductive MqBellAct where
  | mq (act : MqAct)
  | wakeup (asleep : Bool)

def mqBellStep (sys : MqSystem) : MqBellAct → Option MqSystem
  | .mq act => mqStep sys act
  | .wakeup asleep => some { sys with mq := mqCheckWrptr asleep sys.mq }

def mqWakesAwake (sys : MqSystem) : MqBellAct → Bool
  | .mq _ => true
  | .wakeup asleep => !loses wrPtrGranule asleep sys.mq.write.val sys.mq.rx.bell

theorem settle_told {sys : MqSystem} {last : Completion} {result : Except RxFault (MqState × Option MqPass)}
    (told : sys.mq.Told) (after : ∀ mq pass, result = .ok (mq, pass) → mq.Told) :
    (sys.settle last result).mq.Told := by
  cases result with
  | error fault => exact told
  | ok both => exact after both.1 both.2 rfl

theorem map_none_told {result : Except RxFault MqState} (after : ∀ mq, result = .ok mq → mq.Told) (mq : MqState)
    (pass : Option MqPass) (same : result.map (·, none) = .ok (mq, pass)) : mq.Told := by
  cases result with
  | error fault => cases same
  | ok next =>
    cases same
    exact after mq rfl

theorem mqTurn_told {env : MqTurnEnv} {pass : MqPass} {sys : MqSystem} (told : sys.mq.Told) :
    (mqTurn env pass sys).mq.Told := by
  unfold mqTurn
  split
  · exact settle_told told (map_none_told fun mq out => mqOut_told told out)
  · dsimp only
    split
    · exact settle_told told (map_none_told fun mq out => mqOut_told told out)
    · exact told
    · rename_i rxb _
      refine settle_told told fun mq pass' same => ?_
      cases handled : mqHandle env
        { pass with emergency := pass.emergency || sys.mq.rx.usedCount == mqRxTableSize / 2 } sys.mq rxb with
      | error fault =>
        rw [handled] at same
        cases same
      | ok both =>
        rw [handled] at same
        cases same
        exact mqHandle_told told handled

theorem mqStep_told {sys next : MqSystem} {act : MqAct} (told : sys.mq.Told) (stepped : mqStep sys act = some next) :
    next.mq.Told := by
  unfold mqStep at stepped
  split at stepped
  · cases stepped
    exact told
  · split at stepped
    all_goals
      obtain rfl := Option.some.inj stepped
    · exact settle_told told (map_none_told fun mq init => mqInit_told init)
    · exact told
    · exact mqTurn_told told
    · exact told

/-- **The device is told of received buffers**, with multiple queues: exactly in the runs where no wake-up interrupt
finds the MAC asleep again with something to tell. -/
theorem mqToldRun_iff (env : RxInitEnv) (acts : List MqBellAct) :
    Always mqBellStep (fun sys => sys.mq.Told) (mqStart env) acts ↔
      allowed mqBellStep mqWakesAwake (mqStart env) acts = true := by
  refine always_iff_allowed_of_enabled (fun sys : MqSystem => sys.mq.Told) ?_ (fun _ told => told) ?_ ?_
  · intro sys act next told ok stepped
    cases act with
    | mq act => exact mqStep_told told stepped
    | wakeup asleep =>
      obtain rfl := Option.some.inj stepped
      exact (mqCheckWrptr_told_iff asleep told).mpr ((Bool.not_eq_true' _).mp ok)
  · intro sys act told lost
    cases act with
    | mq act => cases lost
    | wakeup asleep =>
      refine ⟨_, rfl, fun still => ?_⟩
      have kept := (mqCheckWrptr_told_iff asleep told).mp still
      exact Bool.false_ne_true (kept.symm.trans ((Bool.not_eq_false' _).mp lost))
  · have zero : mqZero.Told := .inl rfl
    exact @settle_told ⟨mqZero, none, true, .none⟩ _ _ zero (map_none_told fun mq init => mqInit_told init)

end IntelWifi.Pcie.Rxq
