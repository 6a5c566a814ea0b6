/-
**The interrupt handler at two debug levels.**

`iwl_pcie_irq_handler` tests `iwl_have_debug_level(IWL_DL_ISR)` three times. Two of the tests are about printing.
The third one is about counting too, and on a gen2 device about `iwl_pcie_rxmq_restock`: at `ALIVE` the receive
buffers are given to the firmware when the level has `IWL_DL_ISR`.

`writes` is what was written to the registers, in order. A run of the handler has a record of the causes that
were serviced, with the state before and after each. What the other functions do that it calls is given by
`Services`: apart from printing they do not ask for the level. `isr_stats` is left out.

* `rxmqRestock_idle_iff`: the states in which restocking does nothing.
* `debugLevel_iff`: the causes and states for which the handler does the same at all levels.
-/

import IntelWifi.Pcie.InterruptMask
import IntelWifi.Pcie.RxMultiQueue

namespace IntelWifi.Pcie.DebugLevel

open Rxq

/-! ### Registers -/

/-- `CSR_INT`, `CSR_INT_MASK`, `CSR_FH_INT_STATUS`, `CSR_GP_CNTRL` and `CSR_INT_PERIODIC_REG`. -/
def csrInt : Nat := 0x008
def csrIntMask : Nat := 0x00c
def csrFhIntStatus : Nat := 0x010
def csrGpCntrl : Nat := 0x024
def csrIntPeriodicReg : Nat := 0x005

/-- `CSR_MSIX_FH_INT_MASK_AD` and `CSR_MSIX_HW_INT_MASK_AD`. -/
def csrMsixFhIntMaskAd : Nat := 0x2000 + 0x804
def csrMsixHwIntMaskAd : Nat := 0x2000 + 0x80C

/-- `RFH_Q_FRBDCB_WIDX_TRG(0)` and `FH_RSCSR_CHNL0_WPTR`. -/
def rfhQFrbdcbWidxTrg : Nat := 0x1C80
def fhRscsrChnl0Wptr : Nat := 0x1000 + 0xBC0 + 0x008

/-- `CSR_FH_INT_RX_MASK` and `CSR_FH_INT_TX_MASK`. -/
def csrFhIntRxMask : BitVec 32 := 1#32 <<< 30 ||| 1#32 <<< 17 ||| 1#32 <<< 16
def csrFhIntTxMask : BitVec 32 := 1#32 <<< 1 ||| 1#32 <<< 0

/-- `CSR_INT_PERIODIC_DIS` and `CSR_INT_PERIODIC_ENA`. -/
def csrIntPeriodicDis : BitVec 8 := 0x00
def csrIntPeriodicEna : BitVec 8 := 0xFF

/-- `CSR_GP_CNTRL_REG_FLAG_MAC_ACCESS_REQ` and `CSR_GP_CNTRL_REG_FLAG_RFKILL_WAKE_L1A_EN`. -/
def macAccessReq : BitVec 32 := 0x00000008
def rfkillWakeL1aEn : BitVec 32 := 0x04000000

/-- `MSIX_FH_INT_CAUSES_D2S_CH0_NUM` and `MSIX_HW_INT_CAUSES_REG_RF_KILL`. -/
def msixD2sCh0Num : BitVec 32 := 1#32 <<< 16
def msixRegRfKill : BitVec 32 := 1#32 <<< 7

/-- A write to a register: `iwl_write32`, `iwl_write8` and `iwl_set_bit`. -/
inductive RegWrite where
  | write32 (reg : Nat) (value : BitVec 32)
  | write8 (reg : Nat) (value : BitVec 8)
  | setBit (reg : Nat) (mask : BitVec 32)
  deriving DecidableEq, Repr

/-! ### The transport -/

/-- The configuration, the status bits, the masks and the first receive queue. `macSleep` is what
`CSR_UCODE_DRV_GP1` says, and `rest` all that only the services use. -/
structure Trans (Rest : Type) where
  gen2 : Bool
  mqRxSupported : Bool
  family9000 : Bool
  shadowRegEnable : Bool
  msixEnabled : Bool
  hwInitMask : BitVec 32
  fhInitMask : BitVec 32
  hwMask : BitVec 32
  fhMask : BitVec 32
  intaMask : BitVec 32
  intEnabled : Bool
  deviceEnabled : Bool
  tpowerPmi : Bool
  macSleep : Bool
  mq : MqState
  ucodeWriteComplete : Bool
  writes : List RegWrite
  rest : Rest

variable {Rest : Type}

def Trans.write (trans : Trans Rest) (reg : RegWrite) : Trans Rest :=
  { trans with writes := trans.writes ++ [reg] }

/-- `_iwl_enable_interrupts`, `iwl_enable_fw_load_int`, `iwl_enable_rfkill_int`,
`_iwl_disable_interrupts`. -/
def Trans.perform (trans : Trans Rest) : MaskRequest → Trans Rest
  | .enableInterrupts =>
    if !trans.msixEnabled then
      { trans.write (.write32 csrIntMask csrIniSetMask) with intEnabled := true, intaMask := csrIniSetMask }
    else
      { (trans.write (.write32 csrMsixFhIntMaskAd (~~~trans.fhInitMask))).write
          (.write32 csrMsixHwIntMaskAd (~~~trans.hwInitMask)) with
        intEnabled := true
        hwMask := trans.hwInitMask
        fhMask := trans.fhInitMask }
  | .enableFwLoadInt =>
    if !trans.msixEnabled then
      { trans.write (.write32 csrIntMask intBitFhTx) with intaMask := intBitFhTx }
    else
      { (trans.write (.write32 csrMsixHwIntMaskAd trans.hwInitMask)).write
          (.write32 csrMsixFhIntMaskAd (~~~msixD2sCh0Num)) with fhMask := msixD2sCh0Num }
  | .enableRfkillInt =>
    let enabled : Trans Rest :=
      if !trans.msixEnabled then
        { trans.write (.write32 csrIntMask intBitRfKill) with intaMask := intBitRfKill }
      else
        { (trans.write (.write32 csrMsixFhIntMaskAd trans.fhInitMask)).write
            (.write32 csrMsixHwIntMaskAd (~~~msixRegRfKill)) with hwMask := msixRegRfKill }
    if trans.family9000 then enabled.write (.setBit csrGpCntrl rfkillWakeL1aEn) else enabled
  | .disableInterrupts =>
    if !trans.msixEnabled then
      { ((trans.write (.write32 csrIntMask 0)).write (.write32 csrInt 0xffffffff)).write
          (.write32 csrFhIntStatus 0xffffffff) with intEnabled := false }
    else
      { (trans.write (.write32 csrMsixFhIntMaskAd trans.fhInitMask)).write
          (.write32 csrMsixHwIntMaskAd trans.hwInitMask) with intEnabled := false }

/-! ### Restocking -/

/-- There are no shadow registers, and the MAC sleeps. -/
def Trans.asleep (trans : Trans Rest) : Bool := !trans.shadowRegEnable && trans.tpowerPmi && trans.macSleep

/-- `iwl_pcie_rxq_inc_wr_ptr`. -/
def iwlPcieRxqIncWrPtr (trans : Trans Rest) : Trans Rest :=
  let told := { trans with mq := mqIncWrPtr trans.asleep trans.mq }
  if trans.asleep then told.write (.setBit csrGpCntrl macAccessReq)
  else
    told.write (.write32 (if trans.mqRxSupported then rfhQFrbdcbWidxTrg else fhRscsrChnl0Wptr)
      (BitVec.ofNat 32 told.mq.rx.writeActual))

/-- The end of `iwl_pcie_rxmq_restock`. -/
def tellDevice (trans : Trans Rest) : Trans Rest :=
  if trans.mq.rx.writeActual ≠ trans.mq.write.val / 8 * 8 then iwlPcieRxqIncWrPtr trans else trans

/-- `iwl_pcie_rxmq_restock` with the first queue. -/
def iwlPcieRxmqRestock (trans : Trans Rest) : Except RxFault (Trans Rest) :=
  if !trans.deviceEnabled then .ok trans
  else (mqRestockLoop trans.mq.rx.freeCount trans.mq).map fun mq => tellDevice { trans with mq := mq }

/-! ### The handler -/

/-- `IWL_DL_ISR`. -/
def iwlDlIsr : BitVec 32 := 0x02000000

/-- `iwl_have_debug_level`. `debugBuild`: `CONFIG_IWLWIFI_DEBUG` is defined. -/
def iwlHaveDebugLevel (debugBuild : Bool) (debugLevel level : BitVec 32) : Bool :=
  debugBuild && debugLevel &&& level != 0

/-- The functions that are called: `iwl_pcie_irq_handle_error`, `iwl_pcie_handle_rfkill_irq`, the two that check
the write pointers, and `iwl_pcie_rx_handle`. -/
structure Services (Rest : Type) where
  handleError : Trans Rest → Except RxFault (Trans Rest)
  handleRfkillIrq : Trans Rest → Except RxFault (Trans Rest)
  checkWrptrs : Trans Rest → Except RxFault (Trans Rest)
  rxHandle : Trans Rest → Except RxFault (Trans Rest)

/-- A cause that was serviced, and what this did. -/
structure Serviced (Rest : Type) where
  bits : BitVec 32
  before : Trans Rest
  after : Except RxFault (Trans Rest)

/-- The handler, so far. -/
structure IrqRun (Rest : Type) where
  trans : Trans Rest
  serviced : List (Serviced Rest)
  faulted : Bool

/-- No cause was serviced. -/
def IrqRun.begin (trans : Trans Rest) : IrqRun Rest := ⟨trans, [], false⟩

/-- A service, if one of its causes was found. A fault ends the handler. -/
def IrqRun.service (run : IrqRun Rest) (inta bits : BitVec 32)
    (act : Trans Rest → Except RxFault (Trans Rest)) : IrqRun Rest :=
  if run.faulted ∨ inta &&& bits = 0 then run
  else
    let serviced := run.serviced ++ [⟨bits, run.trans, act run.trans⟩]
    match act run.trans with
    | .ok after => ⟨after, serviced, false⟩
    | .error _ => ⟨run.trans, serviced, true⟩

/-- The block of `ALIVE`. `haveLevel` is `iwl_have_debug_level(IWL_DL_ISR)`. -/
def serviceAlive (haveLevel : Bool) (trans : Trans Rest) : Except RxFault (Trans Rest) :=
  if haveLevel && trans.gen2 then iwlPcieRxmqRestock trans else .ok trans

/-- The block of the receive interrupts. -/
def serviceRx (services : Services Rest) (inta : BitVec 32) (trans : Trans Rest) :
    Except RxFault (Trans Rest) :=
  let frames := inta &&& (intBitFhRx ||| intBitSwRx) != 0
  let trans := if frames then trans.write (.write32 csrFhIntStatus csrFhIntRxMask) else trans
  let trans := if inta &&& intBitRxPeriodic ≠ 0 then trans.write (.write32 csrInt intBitRxPeriodic) else trans
  let trans := trans.write (.write8 csrIntPeriodicReg csrIntPeriodicDis)
  let trans := if frames then trans.write (.write8 csrIntPeriodicReg csrIntPeriodicEna) else trans
  services.rxHandle trans

/-- The block of `FH_TX`: the uCode load routine is woken. -/
def serviceFhTx (trans : Trans Rest) : Except RxFault (Trans Rest) :=
  .ok { trans.write (.write32 csrFhIntStatus csrFhIntTxMask) with ucodeWriteComplete := true }

/-- The blocks behind that of `ALIVE`. That of `CT_KILL` prints and counts. -/
def IrqRun.serviceRest (run : IrqRun Rest) (services : Services Rest) (inta : BitVec 32) : IrqRun Rest :=
  (((((run.service inta intBitRfKill services.handleRfkillIrq).service inta intBitCtKill .ok).service
    inta intBitSwErr services.handleError).service inta intBitWakeup services.checkWrptrs).service
    inta (intBitFhRx ||| intBitSwRx ||| intBitRxPeriodic) (serviceRx services inta)).service
    inta intBitFhTx serviceFhTx

/-- The end of the handler. -/
def IrqRun.restore (run : IrqRun Rest) (inta : BitVec 32) : IrqRun Rest :=
  if run.faulted then run
  else { run with trans := (restoration run.trans.intEnabled inta).elim run.trans run.trans.perform }

/-- `iwl_pcie_irq_handler`, where `iwl_pcie_int_cause_ict` or `iwl_pcie_int_cause_non_ict` has found `cause`. -/
def iwlPcieIrqHandler (services : Services Rest) (haveLevel : Bool) (cause : BitVec 32) (trans : Trans Rest) :
    IrqRun Rest :=
  let inta := cause &&& trans.intaMask
  if inta = 0 then .begin (if trans.intEnabled then trans.perform .enableInterrupts else trans)
  else if hardwareGone inta then .begin trans
  else
    let run := IrqRun.begin (trans.write (.write32 csrInt (inta ||| ~~~trans.intaMask)))
    if inta &&& intBitHwErr ≠ 0 then
      run.service inta intBitHwErr fun trans => services.handleError (trans.perform .disableInterrupts)
    else
      ((run.service inta intBitAlive (serviceAlive haveLevel)).serviceRest services inta).restore inta

/-! ### The property and its condition -/

/-- **The same at all levels**: the state, with the register writes, and what each service did. -/
def SameAtAllLevels (services : Services Rest) (debugBuild : Bool) (cause : BitVec 32) (trans : Trans Rest) :
    Prop :=
  ∀ level level' : BitVec 32,
    iwlPcieIrqHandler services (iwlHaveDebugLevel debugBuild level iwlDlIsr) cause trans =
      iwlPcieIrqHandler services (iwlHaveDebugLevel debugBuild level' iwlDlIsr) cause trans

/-- Nothing is to be restocked: the device is not enabled, or it has all buffers and knows of them. -/
def Trans.Stocked (trans : Trans Rest) : Prop :=
  trans.deviceEnabled = false ∨
    trans.mq.rx.freeCount = 0 ∧ trans.mq.rx.writeActual = trans.mq.write.val / 8 * 8

/-- **The condition**: the level is not asked for, the device is not gen2, `ALIVE` is not serviced, or there is
nothing to restock. -/
def LevelUnused (debugBuild : Bool) (cause : BitVec 32) (trans : Trans Rest) : Prop :=
  debugBuild = false ∨ trans.gen2 = false ∨ cause &&& trans.intaMask &&& intBitAlive = 0 ∨
    cause &&& trans.intaMask &&& intBitHwErr ≠ 0 ∨ trans.Stocked

/-! ### Restocking, where there is nothing to restock -/

variable {trans : Trans Rest} {services : Services Rest}

/-- After the loop no buffer is free. -/
theorem mqRestockLoop_freeCount {mq after : MqState} (ran : mqRestockLoop mq.rx.freeCount mq = .ok after) :
    after.rx.freeCount = 0 := by
  generalize count : mq.rx.freeCount = left at ran
  induction left generalizing mq with
  | zero =>
    cases ran
    exact count
  | succ left ih =>
    rw [mqRestockLoop] at ran
    cases free : mq.rx.rxFree with
    | nil =>
      rw [free] at ran
      cases ran
    | cons rxb rest =>
      rw [free] at ran
      exact ih rfl ran

theorem incWrPtr_mq (trans : Trans Rest) : (iwlPcieRxqIncWrPtr trans).mq = mqIncWrPtr trans.asleep trans.mq := by
  unfold iwlPcieRxqIncWrPtr Trans.write
  cases trans.asleep <;> rfl

/-- Telling the device is a write to a register. -/
theorem incWrPtr_writes (trans : Trans Rest) :
    (iwlPcieRxqIncWrPtr trans).writes.length = trans.writes.length + 1 := by
  unfold iwlPcieRxqIncWrPtr Trans.write
  cases trans.asleep <;> exact List.length_append

theorem tellDevice_freeCount (trans : Trans Rest) :
    (tellDevice trans).mq.rx.freeCount = trans.mq.rx.freeCount := by
  unfold tellDevice
  split
  · rw [incWrPtr_mq, mqIncWrPtr]
    cases trans.asleep <;> rfl
  · rfl

theorem tellDevice_eq_iff : tellDevice trans = trans ↔ trans.mq.rx.writeActual = trans.mq.write.val / 8 * 8 := by
  unfold tellDevice
  split
  case isTrue untold =>
    refine iff_of_false (fun same => ?_) untold
    have writes := congrArg (fun trans => trans.writes.length) same
    rw [incWrPtr_writes] at writes
    omega
  case isFalse told => exact iff_of_true rfl (not_not.mp told)

/-- **When restocking does nothing.** -/
theorem rxmqRestock_idle_iff : iwlPcieRxmqRestock trans = .ok trans ↔ trans.Stocked := by
  unfold iwlPcieRxmqRestock Trans.Stocked
  by_cases enabled : trans.deviceEnabled = false
  · rw [if_pos (by rw [enabled]; rfl)]
    exact iff_of_true rfl (.inl enabled)
  rw [if_neg (by simpa using enabled), or_iff_right enabled]
  constructor
  · intro same
    cases ran : mqRestockLoop trans.mq.rx.freeCount trans.mq with
    | error fault =>
      rw [ran] at same
      cases same
    | ok mq =>
      rw [ran] at same
      replace same : tellDevice { trans with mq := mq } = trans := Except.ok.inj same
      have none : trans.mq.rx.freeCount = 0 := by
        rw [← mqRestockLoop_freeCount ran]
        exact (congrArg (fun trans => trans.mq.rx.freeCount) same).symm.trans (tellDevice_freeCount _)
      rw [none, mqRestockLoop] at ran
      obtain rfl := Except.ok.inj ran
      exact ⟨none, tellDevice_eq_iff.mp same⟩
  · rintro ⟨none, told⟩
    rw [none, mqRestockLoop]
    exact congrArg Except.ok (tellDevice_eq_iff.mpr told)

/-- The queue is restocked as `Rxq.iwlPcieRxmqRestock` does it. -/
theorem rxmqRestock_mq (trans : Trans Rest) :
    (iwlPcieRxmqRestock trans).map (·.mq) =
      Rxq.iwlPcieRxmqRestock trans.deviceEnabled trans.asleep trans.mq := by
  unfold iwlPcieRxmqRestock Rxq.iwlPcieRxmqRestock
  by_cases disabled : (!trans.deviceEnabled) = true
  · rw [if_pos disabled, if_pos disabled]
    rfl
  rw [if_neg disabled, if_neg disabled]
  cases mqRestockLoop trans.mq.rx.freeCount trans.mq with
  | error fault => rfl
  | ok mq =>
    refine congrArg Except.ok ?_
    unfold tellDevice
    dsimp only
    split
    · exact incWrPtr_mq _
    · rfl

/-! ### The record of the services -/

variable {run : IrqRun Rest} {inta : BitVec 32}

/-- The record grows. -/
theorem service_grows (run : IrqRun Rest) (inta bits : BitVec 32) (act : Trans Rest → Except RxFault (Trans Rest)) :
    run.serviced <+: (run.service inta bits act).serviced := by
  unfold IrqRun.service
  split
  · exact List.prefix_rfl
  · dsimp only
    split <;> exact List.prefix_append ..

theorem serviceRest_grows (run : IrqRun Rest) (services : Services Rest) (inta : BitVec 32) :
    run.serviced <+: (run.serviceRest services inta).serviced := by
  unfold IrqRun.serviceRest
  refine .trans ?_ (service_grows ..)
  refine .trans ?_ (service_grows ..)
  refine .trans ?_ (service_grows ..)
  refine .trans ?_ (service_grows ..)
  refine .trans ?_ (service_grows ..)
  exact service_grows ..

theorem restore_serviced (run : IrqRun Rest) (inta : BitVec 32) : (run.restore inta).serviced = run.serviced := by
  unfold IrqRun.restore
  split <;> rfl

/-- The first service of a handler. -/
theorem begin_serviced {bits : BitVec 32} (found : inta &&& bits ≠ 0) (trans : Trans Rest)
    (act : Trans Rest → Except RxFault (Trans Rest)) :
    ((IrqRun.begin trans).service inta bits act).serviced = [⟨bits, trans, act trans⟩] := by
  unfold IrqRun.service
  rw [if_neg (by simpa [IrqRun.begin] using found)]
  dsimp only
  split <;> rfl

/-- Only what the service does to the state of the run matters. -/
theorem service_congr {bits : BitVec 32} {act act' : Trans Rest → Except RxFault (Trans Rest)}
    (same : act run.trans = act' run.trans) : run.service inta bits act = run.service inta bits act' := by
  unfold IrqRun.service
  rw [same]

theorem service_none {bits : BitVec 32} (none : inta &&& bits = 0) (act : Trans Rest → Except RxFault (Trans Rest)) :
    run.service inta bits act = run := if_pos (.inr none)

/-! ### Two levels -/

/-- The causes are acknowledged. -/
def Trans.acked (trans : Trans Rest) (cause : BitVec 32) : Trans Rest :=
  trans.write (.write32 csrInt (cause &&& trans.intaMask ||| ~~~trans.intaMask))

variable {cause : BitVec 32}

/-- The handler, where it gets to `ALIVE`. -/
theorem irqHandler_eq (found : cause &&& trans.intaMask ≠ 0) (fine : cause &&& trans.intaMask &&& intBitHwErr = 0)
    (haveLevel : Bool) :
    iwlPcieIrqHandler services haveLevel cause trans =
      (((IrqRun.begin (trans.acked cause)).service (cause &&& trans.intaMask) intBitAlive
        (serviceAlive haveLevel)).serviceRest services (cause &&& trans.intaMask)).restore
        (cause &&& trans.intaMask) := by
  have here : hardwareGone (cause &&& trans.intaMask) ≠ true := fun gone => hwErr_of_gone gone fine
  unfold iwlPcieIrqHandler
  dsimp only
  rw [if_neg found, if_neg here, if_neg (not_not.mpr fine)]
  rfl

/-- Where it does not, it does not ask for the level. -/
theorem irqHandler_early (early : cause &&& trans.intaMask = 0 ∨ cause &&& trans.intaMask &&& intBitHwErr ≠ 0)
    (haveLevel haveLevel' : Bool) :
    iwlPcieIrqHandler services haveLevel cause trans = iwlPcieIrqHandler services haveLevel' cause trans := by
  unfold iwlPcieIrqHandler
  dsimp only
  by_cases none : cause &&& trans.intaMask = 0
  · rw [if_pos none, if_pos none]
  · rw [if_neg none, if_neg none, if_pos (early.resolve_left none), if_pos (early.resolve_left none)]

/-- Nothing is restocked: the level does not matter at `ALIVE`. -/
theorem serviceAlive_idle (idle : trans.gen2 = false ∨ trans.Stocked) (haveLevel : Bool) :
    serviceAlive haveLevel trans = .ok trans := by
  unfold serviceAlive
  rcases idle with gen1 | stocked
  · rw [gen1, Bool.and_false, if_neg Bool.false_ne_true]
  · rw [rxmqRestock_idle_iff.mpr stocked, ite_self]

/-- **Where the level is not used.** -/
theorem irqHandler_unused (unused : LevelUnused true cause trans) (haveLevel haveLevel' : Bool) :
    iwlPcieIrqHandler services haveLevel cause trans = iwlPcieIrqHandler services haveLevel' cause trans := by
  by_cases early : cause &&& trans.intaMask = 0 ∨ cause &&& trans.intaMask &&& intBitHwErr ≠ 0
  · exact irqHandler_early early haveLevel haveLevel'
  obtain ⟨found, err⟩ := not_or.mp early
  have fine := not_not.mp err
  rw [irqHandler_eq found fine, irqHandler_eq found fine]
  congr 2
  by_cases none : cause &&& trans.intaMask &&& intBitAlive = 0
  · rw [service_none none, service_none none]
  · refine service_congr ?_
    have idle : (trans.acked cause).gen2 = false ∨ (trans.acked cause).Stocked := by
      rcases unused with build | gen1 | off | err' | stocked
      · cases build
      · exact .inl gen1
      · exact absurd off none
      · exact absurd err' err
      · exact .inr stocked
    dsimp only [IrqRun.begin]
    rw [serviceAlive_idle idle, serviceAlive_idle idle]

/-- **The first service at two levels**: where it is the same, nothing was to be restocked. -/
theorem levelUnused_of_same
    (same : iwlPcieIrqHandler services true cause trans = iwlPcieIrqHandler services false cause trans) :
    LevelUnused true cause trans := by
  by_contra used
  obtain ⟨-, gen2, alive, err, unstocked⟩ :
      ¬ true = false ∧ ¬ trans.gen2 = false ∧ ¬ cause &&& trans.intaMask &&& intBitAlive = 0 ∧
        ¬ cause &&& trans.intaMask &&& intBitHwErr ≠ 0 ∧ ¬ trans.Stocked := by
    simpa only [LevelUnused, not_or] using used
  have fine := not_not.mp err
  have found : cause &&& trans.intaMask ≠ 0 := fun none => alive (by rw [none]; exact BitVec.zero_and)
  rw [irqHandler_eq found fine, irqHandler_eq found fine] at same
  have record : ∀ haveLevel, [⟨intBitAlive, trans.acked cause, serviceAlive haveLevel (trans.acked cause)⟩] <+:
      ((((IrqRun.begin (trans.acked cause)).service (cause &&& trans.intaMask) intBitAlive
        (serviceAlive haveLevel)).serviceRest services (cause &&& trans.intaMask)).restore
        (cause &&& trans.intaMask)).serviced := by
    intro haveLevel
    rw [restore_serviced, ← begin_serviced alive]
    exact serviceRest_grows ..
  have first := record true
  rw [same] at first
  have entry := List.cons.inj ((List.prefix_of_prefix_length_le first (record false) le_rfl).eq_of_length rfl)
  have restocked : serviceAlive true (trans.acked cause) = serviceAlive false (trans.acked cause) :=
    congrArg Serviced.after entry.1
  unfold serviceAlive at restocked
  rw [if_pos (by simpa [Trans.acked, Trans.write] using gen2), Bool.false_and, if_neg Bool.false_ne_true] at restocked
  have stocked : (trans.acked cause).Stocked := rxmqRestock_idle_iff.mp restocked
  exact unstocked stocked

/-- **The causes and states for which the level does not matter.** -/
theorem debugLevel_iff (services : Services Rest) (debugBuild : Bool) (cause : BitVec 32) (trans : Trans Rest) :
    SameAtAllLevels services debugBuild cause trans ↔ LevelUnused debugBuild cause trans := by
  constructor
  · intro same
    cases debugBuild with
    | false => exact .inl rfl
    | true => exact levelUnused_of_same (same iwlDlIsr 0)
  · rintro unused level level'
    cases debugBuild with
    | false => rfl
    | true => exact irqHandler_unused unused _ _

/-- A gen2 device at `ALIVE`, with one buffer that is free. -/
def aliveTrans : Trans Unit where
  gen2 := true
  mqRxSupported := true
  family9000 := false
  shadowRegEnable := true
  msixEnabled := false
  hwInitMask := 0
  fhInitMask := 0
  hwMask := 0
  fhMask := 0
  intaMask := csrIniSetMask
  intEnabled := true
  deviceEnabled := true
  tpowerPmi := false
  macSleep := false
  mq :=
    { rx := { rxPools [] with rxUsed := [], rxFree := [6], freeCount := 1 }
      globalTable := fun _ => none
      invalid := fun _ => true
      read := ⟨0, Rxq.mqRxTableSize_pos⟩
      write := ⟨0, Rxq.mqRxTableSize_pos⟩
      bd := fun _ => none
      device := [] }
  ucodeWriteComplete := false
  writes := []
  rest := ()

/-- **The firmware gets its receive buffer only when the driver prints.** -/
theorem restock_needs_level :
    ¬ SameAtAllLevels (⟨.ok, .ok, .ok, .ok⟩ : Services Unit) true intBitAlive aliveTrans := by
  intro same
  rcases levelUnused_of_same (same iwlDlIsr 0) with build | gen1 | off | err | disabled | ⟨none, -⟩
  · cases build
  · cases gen1
  · exact absurd off (by decide)
  · exact err (by decide)
  · cases disabled
  · cases none

end IntelWifi.Pcie.DebugLevel
