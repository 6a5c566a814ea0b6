/-
**The mutex of the transport.**

`start_hw`, `start_fw`, `stop_device`, `op_mode_leave` and the RF-kill interrupt, with the functions they
call. What the hardware, an allocation or the firmware answers is given for every moment it is asked;
registers that are written and not read are left out, and so are `iwl_pcie_tx_stop` and `iwl_pcie_rx_stop`,
which take no lock and return nothing.

* `prepareCardHw_iff`: `iwl_pcie_prepare_card_hw` succeeds when one of 760 polls does.
* `mutexBalanced_iff`: only `start_fw` is unbalanced, and only when the card does not get ready.
-/

import IntelWifi.Lib.Locks

namespace IntelWifi.Pcie.TransLocks

open IntelWifi.Locks

inductive TransLock where
  | mutex
  | waitCommandQueue
  | ucodeWriteWaitq
  deriving DecidableEq

/-- `struct fw_desc`: whether there is `data`. -/
structure FwDesc where
  data : Bool
  len : Nat
  offset : Nat

/-- `struct fw_img`. -/
structure FwImg where
  sec : Nat → FwDesc
  numSec : Nat
  isDualCpus : Bool

/-- The configuration of a device, and its answers at each time it is asked something: `iwl_poll_bit`, the
RF-kill switch in `CSR_GP_CNTRL`, `iwl_pcie_rx_init`, `iwl_pcie_tx_init`, the segments of a section's
buffer, NIC access, `ucode_write_complete`, and whether the wait for it is ended by a wakeup. -/
structure Device where
  family8000 : Bool
  lpXtalWorkaround : Bool
  debugRfkill : Bool
  pollBit : Nat → Int
  hwRfKillSw : Nat → Bool
  rxInit : Nat → Int
  txInit : Nat → Int
  segments : Nat → Bool
  grabNicAccess : Nat → Bool
  ucodeWriteComplete : Nat → Bool
  awakened : Nat → Bool

/-- The time, the log of the locks, and the flags of the transport. -/
structure TransState where
  time : Nat
  log : List (LockEvent TransLock)
  isDown : Bool
  opmodeDown : Bool
  syncHcmdActive : Bool
  deviceEnabled : Bool
  tpowerPmi : Bool
  intEnabled : Bool
  rfkillHw : Bool
  rfkillOpmode : Bool

abbrev Trans := StateM TransState

def eio : Int := 5
def enomem : Int := 12
def etimedout : Int := 60
def erfkill : Int := 132

/-- Something is asked of the device. -/
def ask {α : Type} (answer : Nat → α) : Trans α := fun st => (answer st.time, { st with time := st.time + 1 })

def ioLockLock (lock : TransLock) : Trans Unit := modify fun st => { st with log := st.log ++ [.lock lock] }

def ioLockUnlock (lock : TransLock) : Trans Unit :=
  modify fun st => { st with log := st.log ++ [.unlock lock] }

variable (hw : Device)

/-! ### The card -/

/-- `iwl_pcie_apm_init`. -/
def iwlPcieApmInit : Trans Int := do
  let ret ← ask hw.pollBit
  if ret < 0 then return ret
  else
    modify fun st => { st with deviceEnabled := true }
    return 0

/-- `iwl_pcie_apm_stop`. -/
def iwlPcieApmStop (opModeLeave : Bool) : Trans Unit := do
  let st ← get
  let _ ← (if opModeLeave && !st.deviceEnabled then iwlPcieApmInit hw else pure 0)
  modify fun st => { st with deviceEnabled := false }
  -- `iwl_pcie_apm_stop_master`, then `iwl_pcie_apm_lp_xtal_enable`.
  let _ ← ask hw.pollBit
  let _ ← (if hw.lpXtalWorkaround then ask hw.pollBit else pure 0)
  return ()

/-- `iwl_pcie_nic_init`. -/
def iwlPcieNicInit : Trans Int := do
  let ret ← iwlPcieApmInit hw
  if ret ≠ 0 then return ret
  else
    let _ ← ask hw.rxInit
    let ret ← ask hw.txInit
    if ret ≠ 0 then return -enomem else return 0

/-- `iwl_pcie_set_hw_ready`. -/
def iwlPcieSetHwReady : Trans Int := ask hw.pollBit

/-- The inner loop of `iwl_pcie_prepare_card_hw`, from a given `t`: the last poll, and `t` after it. -/
def readyLoop (t : Nat) : Trans (Int × Nat) := do
  let ret ← iwlPcieSetHwReady hw
  if 0 ≤ ret then return (ret, t)
  else if t + 200 < 150000 then readyLoop (t + 200)
  else return (ret, t + 200)
termination_by 150000 - t

/-- The outer loop, with the turns it has left. -/
def prepareLoop : Nat → Nat → Int → Trans Int
  | 0, _, ret => return ret
  | turns + 1, t, _ => do
    let (ret, t) ← readyLoop hw t
    if 0 ≤ ret then return 0 else prepareLoop turns t ret

/-- `iwl_pcie_prepare_card_hw`. -/
def iwlPciePrepareCardHw : Trans Int := do
  let ret ← iwlPcieSetHwReady hw
  if 0 ≤ ret then return 0 else prepareLoop hw 10 0 ret

/-! ### Loading the firmware -/

/-- `iwl_pcie_load_firmware_chunk`. -/
def iwlPcieLoadFirmwareChunk : Trans Int := do
  let access ← ask hw.grabNicAccess
  if !access then return -eio
  else
    ioLockLock .ucodeWriteWaitq
    let complete ← ask hw.ucodeWriteComplete
    if complete then
      ioLockUnlock .ucodeWriteWaitq
      return 0
    else
      let awakened ← ask hw.awakened
      ioLockUnlock .ucodeWriteWaitq
      if !awakened then return -etimedout else return 0

/-- `FH_MEM_TB_MAX_LENGTH`. -/
def fhMemTbMaxLength : Nat := 0x20000

/-- The loop of `iwl_pcie_load_section`, with the chunks that are left. -/
def loadChunks : Nat → Trans Int
  | 0 => return 0
  | chunks + 1 => do
    let ret ← iwlPcieLoadFirmwareChunk hw
    if ret ≠ 0 then return ret else loadChunks chunks

/-- `iwl_pcie_load_section`. -/
def iwlPcieLoadSection (sec : FwDesc) : Trans Int := do
  let segments ← ask hw.segments
  if !segments then return -1
  else loadChunks hw ((sec.len + fhMemTbMaxLength - 1) / fhMemTbMaxLength)

/-- `CPU1_CPU2_SEPARATOR_SECTION`. -/
def cpu1Cpu2SeparatorSection : Nat := 0xffffcccc

/-- `PAGING_SEPARATOR_SECTION`. -/
def pagingSeparatorSection : Nat := 0xaaaabbbb

/-- The loop over the sections of one CPU: the error, and the last section read. -/
def loadSections (fw : FwImg) : List Nat → Nat → Trans (Int × Nat)
  | [], last => return (0, last)
  | i :: later, _ => do
    if !(fw.sec i).data || (fw.sec i).offset == cpu1Cpu2SeparatorSection ||
        (fw.sec i).offset == pagingSeparatorSection then
      return (0, i)
    else
      let ret ← iwlPcieLoadSection hw (fw.sec i)
      if ret ≠ 0 then return (ret, i) else loadSections fw later i

/-- `iwl_pcie_load_cpu_sections`, from `*first_ucode_section` on. -/
def iwlPcieLoadCpuSections (fw : FwImg) (first : Nat) : Trans (Int × Nat) :=
  loadSections hw fw ((List.range fw.numSec).drop first) 0

/-- `iwl_pcie_load_cpu_sections_8000`. -/
def iwlPcieLoadCpuSections8000 (fw : FwImg) (first : Nat) : Trans (Int × Nat) := do
  let (ret, last) ← loadSections hw fw ((List.range fw.numSec).drop first) 0
  if ret ≠ 0 then return (ret, last)
  else
    modify fun st => { st with intEnabled := true }
    return (0, last)

/-- `iwl_pcie_load_given_ucode`. -/
def iwlPcieLoadGivenUcode (fw : FwImg) : Trans Int := do
  let (ret, last) ← iwlPcieLoadCpuSections hw fw 0
  if ret ≠ 0 then return ret
  else
    let (ret, _) ← (if fw.isDualCpus then iwlPcieLoadCpuSections hw fw (last + 1) else pure (0, last))
    if ret ≠ 0 then return ret
    else
      modify fun st => { st with intEnabled := true }
      return 0

/-- `iwl_pcie_load_given_ucode_8000`. -/
def iwlPcieLoadGivenUcode8000 (fw : FwImg) : Trans Int := do
  let (ret, last) ← iwlPcieLoadCpuSections8000 hw fw 0
  if ret ≠ 0 then return ret
  else
    let (ret, _) ← iwlPcieLoadCpuSections8000 hw fw (last + 1)
    return ret

/-! ### RF kill -/

/-- `iwl_is_rfkill_set`. -/
def iwlIsRfkillSet : Trans Bool := do
  if hw.debugRfkill then return true
  else
    let switch ← ask hw.hwRfKillSw
    return !switch

/-- `iwl_trans_pcie_rf_kill`. Its call of the op mode, which could stop the device, is commented out. -/
def iwlTransPcieRfKill (_state : Bool) : Trans Unit := return ()

/-- `iwl_pcie_check_hw_rf_kill`. -/
def iwlPcieCheckHwRfKill : Trans Bool := do
  let hwRfkill ← iwlIsRfkillSet hw
  let before ← get
  modify fun st =>
    if hwRfkill then { st with rfkillHw := true, rfkillOpmode := true }
    else { st with rfkillHw := false, rfkillOpmode := st.rfkillOpmode && !st.opmodeDown }
  let st ← get
  (if before.rfkillOpmode ≠ st.rfkillOpmode then iwlTransPcieRfKill st.rfkillOpmode else pure ())
  return hwRfkill

/-- `iwl_trans_pcie_handle_stop_rfkill`. -/
def iwlTransPcieHandleStopRfkill (wasInRfkill : Bool) : Trans Unit := do
  let hwRfkill ← iwlIsRfkillSet hw
  modify fun st => { st with rfkillHw := hwRfkill, rfkillOpmode := hwRfkill }
  if hwRfkill ≠ wasInRfkill then iwlTransPcieRfKill hwRfkill else return ()

/-! ### The operations -/

/-- `_iwl_trans_pcie_stop_device`. -/
def stopDeviceLocked : Trans Unit := do
  let st ← get
  if st.isDown then return ()
  else
    modify fun st => { st with isDown := true, intEnabled := false, deviceEnabled := false }
    iwlPcieApmStop hw false
    modify fun st => { st with syncHcmdActive := false, intEnabled := false, tpowerPmi := false }
    let _ ← iwlPciePrepareCardHw hw
    return ()

/-- `iwl_trans_pcie_start_fw` from after it takes the mutex to its label `out`. -/
def startFwLocked (fw : FwImg) (runInRfkill : Bool) : Trans Int := do
  let hwRfkill ← iwlPcieCheckHwRfKill hw
  if hwRfkill && !runInRfkill then return -erfkill
  else
    let st ← get
    if st.isDown then return -eio
    else
      let ret ← iwlPcieNicInit hw
      if ret ≠ 0 then return ret
      else
        let ret ← (if hw.family8000 then iwlPcieLoadGivenUcode8000 hw fw else iwlPcieLoadGivenUcode hw fw)
        let hwRfkill ← iwlPcieCheckHwRfKill hw
        if hwRfkill && !runInRfkill then return -erfkill else return ret

/-- `iwl_trans_pcie_start_fw`. -/
def iwlTransPcieStartFw (fw : FwImg) (runInRfkill : Bool) : Trans Int := do
  let notReady ← iwlPciePrepareCardHw hw
  if notReady ≠ 0 then
    ioLockUnlock .mutex
    return -eio
  else
    modify fun st => { st with intEnabled := false }
    ioLockLock .mutex
    let ret ← startFwLocked hw fw runInRfkill
    ioLockUnlock .mutex
    return ret

/-- `iwl_trans_pcie_stop_device`. -/
def iwlTransPcieStopDevice : Trans Unit := do
  ioLockLock .mutex
  let value ← (do
    modify fun st => { st with opmodeDown := true }
    let st ← get
    stopDeviceLocked hw
    iwlTransPcieHandleStopRfkill hw st.rfkillOpmode)
  ioLockUnlock .mutex
  return value

/-- `_iwl_trans_pcie_start_hw`. -/
def startHwLocked : Trans Int := do
  let err ← iwlPciePrepareCardHw hw
  if err ≠ 0 then return err
  else
    let err ← iwlPcieApmInit hw
    if err ≠ 0 then return err
    else
      modify fun st => { st with opmodeDown := false, isDown := false }
      let _ ← iwlPcieCheckHwRfKill hw
      return 0

/-- `iwl_trans_pcie_start_hw`. -/
def iwlTransPcieStartHw : Trans Int := do
  ioLockLock .mutex
  let ret ← startHwLocked hw
  ioLockUnlock .mutex
  return ret

/-- `iwl_trans_pcie_op_mode_leave`. -/
def iwlTransPcieOpModeLeave : Trans Unit := do
  ioLockLock .mutex
  let value ← (do
    modify fun st => { st with intEnabled := false }
    iwlPcieApmStop hw true
    modify fun st => { st with intEnabled := false })
  ioLockUnlock .mutex
  return value

/-- `iwl_pcie_handle_rfkill_irq` while it has the mutex. -/
def handleRfkillLocked : Trans Bool := do
  let before ← get
  let hwRfkill ← iwlIsRfkillSet hw
  modify fun st => if hwRfkill then { st with rfkillOpmode := true, rfkillHw := true } else st
  let st ← get
  let report := if st.opmodeDown then hwRfkill else st.rfkillOpmode
  (if before.rfkillOpmode ≠ report then iwlTransPcieRfKill report else pure ())
  return hwRfkill

/-- `iwl_pcie_handle_rfkill_irq` after that. -/
def handleRfkillRest (hwRfkill : Bool) : Trans Unit := do
  if hwRfkill then
    modify fun st => { st with syncHcmdActive := false }
    ioLockLock .waitCommandQueue
    ioLockUnlock .waitCommandQueue
  else
    modify fun st => { st with
      rfkillHw := false
      rfkillOpmode := st.rfkillOpmode && !st.opmodeDown }

/-- `iwl_pcie_handle_rfkill_irq`. -/
def iwlPcieHandleRfkillIrq : Trans Unit := do
  let hwRfkill ← (do
    ioLockLock .mutex
    let hwRfkill ← handleRfkillLocked hw
    ioLockUnlock .mutex
    return hwRfkill)
  handleRfkillRest hwRfkill

/-- The operations that take the mutex. -/
inductive TransOp where
  | startHw
  | startFw (fw : FwImg) (runInRfkill : Bool)
  | stopDevice
  | opModeLeave
  | handleRfkillIrq

/-- **An operation is balanced**: what it adds to the log. -/
def MutexBalanced (st : TransState) : TransOp → Prop
  | .startHw => KeepsAt TransState.log .mutex (iwlTransPcieStartHw hw) st
  | .startFw fw runInRfkill => KeepsAt TransState.log .mutex (iwlTransPcieStartFw hw fw runInRfkill) st
  | .stopDevice => KeepsAt TransState.log .mutex (iwlTransPcieStopDevice hw) st
  | .opModeLeave => KeepsAt TransState.log .mutex (iwlTransPcieOpModeLeave hw) st
  | .handleRfkillIrq => KeepsAt TransState.log .mutex (iwlPcieHandleRfkillIrq hw) st

/-! ### How often the card is polled -/

variable {hw} {t turns : Nat} {st : TransState}

/-- The turns of the inner loop. -/
def turnsFrom (t : Nat) : Nat := max 1 ((150000 - t + 199) / 200)

/-- After something was asked. -/
def TransState.later (st : TransState) (n : Nat) : TransState := { st with time := st.time + n }

theorem later_later (n k : Nat) : (st.later n).later k = st.later (n + k) := by
  unfold TransState.later
  rw [Nat.add_assoc]

theorem readyLoop_run : (readyLoop hw t).run st =
    if 0 ≤ hw.pollBit st.time then ((hw.pollBit st.time, t), st.later 1)
    else if t + 200 < 150000 then (readyLoop hw (t + 200)).run (st.later 1)
    else ((hw.pollBit st.time, t + 200), st.later 1) := by
  rw [readyLoop]
  show (if 0 ≤ hw.pollBit st.time then (pure (hw.pollBit st.time, t) : Trans (Int × Nat))
    else if t + 200 < 150000 then readyLoop hw (t + 200)
    else pure (hw.pollBit st.time, t + 200)).run (st.later 1) = _
  split
  · rfl
  · split <;> rfl

/-- **The inner loop ends** at the first poll that succeeds, or after its turns. -/
theorem readyLoop_spec (hw : Device) (t : Nat) (st : TransState) :
    (0 ≤ ((readyLoop hw t).run st).1.1 ∧ ∃ i < turnsFrom t, 0 ≤ hw.pollBit (st.time + i)) ∨
    (((readyLoop hw t).run st).1.1 < 0 ∧ (∀ i < turnsFrom t, hw.pollBit (st.time + i) < 0) ∧
      ((readyLoop hw t).run st).1.2 = t + 200 * turnsFrom t ∧
      ((readyLoop hw t).run st).2 = st.later (turnsFrom t)) := by
  induction t using readyLoop.induct generalizing st with
  | case1 t ih =>
    have once : 1 ≤ turnsFrom t := Nat.le_max_left _ _
    rw [readyLoop_run]
    by_cases ready : 0 ≤ hw.pollBit st.time
    · rw [if_pos ready]
      exact .inl ⟨ready, 0, once, ready⟩
    · rw [if_neg ready]
      have first : hw.pollBit (st.time + 0) < 0 := Int.not_le.mp ready
      by_cases again : t + 200 < 150000
      · have turns : turnsFrom t = turnsFrom (t + 200) + 1 := by
          unfold turnsFrom
          omega
        have shift (i : Nat) : (st.later 1).time + i = st.time + (i + 1) := by
          show st.time + 1 + i = _
          omega
        rw [if_pos again, turns]
        rcases ih again (st.later 1) with ⟨ends, i, less, success⟩ | ⟨ends, fails, last, after⟩
        · rw [shift] at success
          exact .inl ⟨ends, i + 1, Nat.succ_lt_succ less, success⟩
        · refine .inr ⟨ends, fun i less => ?_, ?_, ?_⟩
          · cases i with
            | zero => exact first
            | succ i =>
              rw [← shift]
              exact fails i (Nat.lt_of_succ_lt_succ less)
          · rw [last]
            omega
          · rw [after, later_later, Nat.add_comm]
      · have turns : turnsFrom t = 1 := by
          unfold turnsFrom
          omega
        rw [if_neg again, turns]
        refine .inr ⟨first, fun i less => ?_, rfl, rfl⟩
        rw [Nat.lt_one_iff.mp less]
        exact first

/-- **The outer loop**, from its second turn on, polls once in each. -/
theorem prepareLoop_spec (turns : Nat) {t : Nat} (past : 150000 ≤ t) {ret : Int} (failed : ret < 0)
    (st : TransState) : ((prepareLoop hw turns t ret).run st).1 = 0 ↔
      ∃ i < turns, 0 ≤ hw.pollBit (st.time + i) := by
  induction turns generalizing t ret st with
  | zero =>
    refine ⟨fun zero => ?_, fun ⟨_, less, _⟩ => absurd less (Nat.not_lt_zero _)⟩
    have zero : ret = 0 := zero
    omega
  | succ turns ih =>
    have once : turnsFrom t = 1 := by
      unfold turnsFrom
      omega
    have spec := readyLoop_spec hw t st
    have unfolded : (prepareLoop hw (turns + 1) t ret).run st =
        (if 0 ≤ ((readyLoop hw t).run st).1.1 then (pure 0 : Trans Int)
          else prepareLoop hw turns ((readyLoop hw t).run st).1.2 ((readyLoop hw t).run st).1.1).run
          ((readyLoop hw t).run st).2 := rfl
    rw [unfolded]
    rw [once] at spec
    rcases spec with ⟨ends, i, less, success⟩ | ⟨ends, fails, last, after⟩
    · rw [if_pos ends]
      exact iff_of_true rfl ⟨i, Nat.lt_of_lt_of_le less (Nat.succ_pos turns), success⟩
    · rw [if_neg (Int.not_le.mpr ends), after, ih (by omega) ends]
      have shift (i : Nat) : (st.later 1).time + i = st.time + (i + 1) := by
        show st.time + 1 + i = _
        omega
      constructor
      · rintro ⟨i, less, success⟩
        rw [shift] at success
        exact ⟨i + 1, Nat.succ_lt_succ less, success⟩
      · rintro ⟨i, less, success⟩
        cases i with
        | zero => exact absurd success (Int.not_le.mpr (fails 0 Nat.one_pos))
        | succ i =>
          rw [← shift] at success
          exact ⟨i, Nat.lt_of_succ_lt_succ less, success⟩

/-- One of the polls of `iwl_pcie_prepare_card_hw` succeeds: the first, the 750 of the first turn of the
outer loop, and one in each of its nine other turns. -/
def CardReady (hw : Device) (time : Nat) : Prop := ∃ i < 760, 0 ≤ hw.pollBit (time + i)

/-- **When the card gets ready.** -/
theorem prepareCardHw_iff (hw : Device) (st : TransState) :
    ((iwlPciePrepareCardHw hw).run st).1 = 0 ↔ CardReady hw st.time := by
  have unfolded : (iwlPciePrepareCardHw hw).run st =
      (if 0 ≤ hw.pollBit st.time then (pure 0 : Trans Int)
        else prepareLoop hw 10 0 (hw.pollBit st.time)).run (st.later 1) := rfl
  have turned : (prepareLoop hw 10 0 (hw.pollBit st.time)).run (st.later 1) =
      (if 0 ≤ ((readyLoop hw 0).run (st.later 1)).1.1 then (pure 0 : Trans Int)
        else prepareLoop hw 9 ((readyLoop hw 0).run (st.later 1)).1.2
          ((readyLoop hw 0).run (st.later 1)).1.1).run ((readyLoop hw 0).run (st.later 1)).2 := rfl
  have turns : turnsFrom 0 = 750 := rfl
  have spec := readyLoop_spec hw 0 (st.later 1)
  have shift (n i : Nat) : (st.later n).time + i = st.time + (n + i) := Nat.add_assoc _ _ _
  rw [unfolded]
  unfold CardReady
  by_cases ready : 0 ≤ hw.pollBit st.time
  · rw [if_pos ready]
    exact iff_of_true rfl ⟨0, by decide, ready⟩
  · rw [if_neg ready, turned]
    rw [turns] at spec
    rcases spec with ⟨ends, i, less, success⟩ | ⟨ends, fails, last, after⟩
    · rw [if_pos ends]
      rw [shift] at success
      exact iff_of_true rfl ⟨1 + i, by omega, success⟩
    · rw [if_neg (Int.not_le.mpr ends), after, later_later,
        prepareLoop_spec 9 (Nat.le_of_eq last.symm) ends]
      constructor
      · rintro ⟨i, less, success⟩
        rw [shift] at success
        exact ⟨1 + 750 + i, by omega, success⟩
      · rintro ⟨i, less, success⟩
        rcases Nat.lt_or_ge i 751 with early | late
        · exfalso
          cases i with
          | zero => exact ready success
          | succ i =>
            refine absurd success (Int.not_le.mpr ?_)
            have failed := fails i (Nat.lt_of_succ_lt_succ early)
            rw [shift, Nat.add_comm 1 i] at failed
            exact failed
        · refine ⟨i - 751, by omega, ?_⟩
          rw [shift, show 1 + 750 + (i - 751) = i by omega]
          exact success

/-! ### Who touches the mutex -/

/-- Only another lock, or none. -/
abbrev NoMutex {α : Type} (program : Trans α) : Prop := Avoids TransState.log .mutex program

theorem ask_noMutex {α : Type} (answer : Nat → α) : NoMutex (ask answer) := .of_same fun _ => rfl

theorem get_noMutex : NoMutex (get : Trans TransState) := .of_same fun _ => rfl

/-- Flags are written. -/
theorem modify_noMutex {write : TransState → TransState} (same : ∀ st, (write st).log = st.log) :
    NoMutex (modify write : Trans Unit) := .of_same same

/-- An access to another lock. -/
theorem lock_noMutex {lock : TransLock} (other : lock ≠ .mutex) : NoMutex (ioLockLock lock) :=
  fun _ => ⟨[.lock lock], rfl, fun event member => by rw [List.mem_singleton.mp member]; exact other⟩

theorem unlock_noMutex {lock : TransLock} (other : lock ≠ .mutex) : NoMutex (ioLockUnlock lock) :=
  fun _ => ⟨[.unlock lock], rfl, fun event member => by rw [List.mem_singleton.mp member]; exact other⟩

theorem apmInit_noMutex : NoMutex (iwlPcieApmInit hw) :=
  .bind (ask_noMutex _) fun _ => .ite (.pure _ _) (.bind (modify_noMutex fun _ => rfl) fun _ => .pure _ _)

theorem apmStop_noMutex (opModeLeave : Bool) : NoMutex (iwlPcieApmStop hw opModeLeave) :=
  .bind get_noMutex fun _ =>
    .bind (.ite apmInit_noMutex (.pure _ _)) fun _ =>
    .bind (modify_noMutex fun _ => rfl) fun _ =>
    .bind (ask_noMutex _) fun _ =>
    .bind (.ite (ask_noMutex _) (.pure _ _)) fun _ => .pure _ _

theorem nicInit_noMutex : NoMutex (iwlPcieNicInit hw) :=
  .bind apmInit_noMutex fun _ => .ite (.pure _ _) <|
    .bind (ask_noMutex _) fun _ => .bind (ask_noMutex _) fun _ => .ite (.pure _ _) (.pure _ _)

theorem readyLoop_noMutex (t : Nat) : NoMutex (readyLoop hw t) := by
  induction t using readyLoop.induct with
  | case1 t ih =>
    rw [readyLoop]
    refine .bind (ask_noMutex _) fun ret => .ite (.pure _ _) ?_
    split
    · next again => exact ih again
    · exact .pure _ _

theorem prepareLoop_noMutex (turns t : Nat) (ret : Int) : NoMutex (prepareLoop hw turns t ret) := by
  induction turns generalizing t ret with
  | zero => exact .pure _ _
  | succ turns ih => exact .bind (readyLoop_noMutex t) fun _ => .ite (.pure _ _) (ih _ _)

theorem prepareCardHw_noMutex : NoMutex (iwlPciePrepareCardHw hw) :=
  .bind (ask_noMutex _) fun _ => .ite (.pure _ _) (prepareLoop_noMutex 10 0 _)

theorem loadFirmwareChunk_noMutex : NoMutex (iwlPcieLoadFirmwareChunk hw) :=
  .bind (ask_noMutex _) fun _ => .ite (.pure _ _) <|
    .bind (lock_noMutex (by decide)) fun _ =>
    .bind (ask_noMutex _) fun _ =>
    .ite (.bind (unlock_noMutex (by decide)) fun _ => .pure _ _) <|
      .bind (ask_noMutex _) fun _ =>
      .bind (unlock_noMutex (by decide)) fun _ => .ite (.pure _ _) (.pure _ _)

theorem loadChunks_noMutex (chunks : Nat) : NoMutex (loadChunks hw chunks) := by
  induction chunks with
  | zero => exact .pure _ _
  | succ chunks ih => exact .bind loadFirmwareChunk_noMutex fun _ => .ite (.pure _ _) ih

theorem loadSection_noMutex (sec : FwDesc) : NoMutex (iwlPcieLoadSection hw sec) :=
  .bind (ask_noMutex _) fun _ => .ite (.pure _ _) (loadChunks_noMutex _)

theorem loadSections_noMutex (fw : FwImg) (indices : List Nat) (last : Nat) :
    NoMutex (loadSections hw fw indices last) := by
  induction indices generalizing last with
  | nil => exact .pure _ _
  | cons i later ih =>
    exact .ite (.pure _ _) (.bind (loadSection_noMutex _) fun _ => .ite (.pure _ _) (ih i))

theorem loadCpuSections8000_noMutex (fw : FwImg) (first : Nat) :
    NoMutex (iwlPcieLoadCpuSections8000 hw fw first) :=
  .bind (loadSections_noMutex fw _ _) fun _ => .ite (.pure _ _) <|
    .bind (modify_noMutex fun _ => rfl) fun _ => .pure _ _

theorem loadGivenUcode_noMutex (fw : FwImg) : NoMutex (iwlPcieLoadGivenUcode hw fw) :=
  .bind (loadSections_noMutex fw _ _) fun _ => .ite (.pure _ _) <|
    .bind (.ite (loadSections_noMutex fw _ _) (.pure _ _)) fun _ => .ite (.pure _ _) <|
      .bind (modify_noMutex fun _ => rfl) fun _ => .pure _ _

theorem loadGivenUcode8000_noMutex (fw : FwImg) : NoMutex (iwlPcieLoadGivenUcode8000 hw fw) :=
  .bind (loadCpuSections8000_noMutex fw 0) fun _ => .ite (.pure _ _) <|
    .bind (loadCpuSections8000_noMutex fw _) fun _ => .pure _ _

theorem isRfkillSet_noMutex : NoMutex (iwlIsRfkillSet hw) :=
  .ite (.pure _ _) (.bind (ask_noMutex _) fun _ => .pure _ _)

theorem checkHwRfKill_noMutex : NoMutex (iwlPcieCheckHwRfKill hw) :=
  .bind isRfkillSet_noMutex fun hwRfkill =>
    .bind get_noMutex fun _ =>
    .bind (modify_noMutex fun _ => by cases hwRfkill <;> rfl) fun _ =>
    .bind get_noMutex fun _ => .bind (.ite (.pure _ _) (.pure _ _)) fun _ => .pure _ _

theorem handleStopRfkill_noMutex (wasInRfkill : Bool) :
    NoMutex (iwlTransPcieHandleStopRfkill hw wasInRfkill) :=
  .bind isRfkillSet_noMutex fun _ => .bind (modify_noMutex fun _ => rfl) fun _ => .ite (.pure _ _) (.pure _ _)

theorem stopDeviceLocked_noMutex : NoMutex (stopDeviceLocked hw) :=
  .bind get_noMutex fun _ => .ite (.pure _ _) <|
    .bind (modify_noMutex fun _ => rfl) fun _ =>
    .bind (apmStop_noMutex false) fun _ =>
    .bind (modify_noMutex fun _ => rfl) fun _ => .bind prepareCardHw_noMutex fun _ => .pure _ _

theorem startFwLocked_noMutex (fw : FwImg) (runInRfkill : Bool) : NoMutex (startFwLocked hw fw runInRfkill) :=
  .bind checkHwRfKill_noMutex fun _ => .ite (.pure _ _) <|
    .bind get_noMutex fun _ => .ite (.pure _ _) <|
    .bind nicInit_noMutex fun _ => .ite (.pure _ _) <|
    .bind (.ite (loadGivenUcode8000_noMutex fw) (loadGivenUcode_noMutex fw)) fun _ =>
    .bind checkHwRfKill_noMutex fun _ => .ite (.pure _ _) (.pure _ _)

theorem startHwLocked_noMutex : NoMutex (startHwLocked hw) :=
  .bind prepareCardHw_noMutex fun _ => .ite (.pure _ _) <|
    .bind apmInit_noMutex fun _ => .ite (.pure _ _) <|
    .bind (modify_noMutex fun _ => rfl) fun _ => .bind checkHwRfKill_noMutex fun _ => .pure _ _

theorem handleRfkillLocked_noMutex : NoMutex (handleRfkillLocked hw) :=
  .bind get_noMutex fun _ =>
    .bind isRfkillSet_noMutex fun hwRfkill =>
    .bind (modify_noMutex fun _ => by cases hwRfkill <;> rfl) fun _ =>
    .bind get_noMutex fun _ => .bind (.ite (.pure _ _) (.pure _ _)) fun _ => .pure _ _

theorem handleRfkillRest_noMutex (hwRfkill : Bool) : NoMutex (handleRfkillRest hwRfkill) :=
  .ite (.bind (modify_noMutex fun _ => rfl) fun _ =>
    .bind (lock_noMutex (by decide)) fun _ => unlock_noMutex (by decide)) (modify_noMutex fun _ => rfl)

/-! ### The law -/

/-- **What runs with the mutex, between taking and releasing it.** -/
theorem locked_balanced {α : Type} {body : Trans α} (inside : NoMutex body) (st : TransState) :
    KeepsAt TransState.log .mutex
      (do ioLockLock .mutex; let value ← body; ioLockUnlock .mutex; return value) st :=
  .section (fun _ => rfl) (fun _ => rfl) inside st

/-- `start_fw`, when the card is ready. -/
theorem startFw_balanced (fw : FwImg) (runInRfkill : Bool) (ready : CardReady hw st.time) :
    MutexBalanced hw st (.startFw fw runInRfkill) := by
  refine KeepsAt.after prepareCardHw_noMutex ?_
  rw [(prepareCardHw_iff hw st).mpr ready, if_neg (not_not_intro rfl)]
  exact .after (modify_noMutex fun _ => rfl) (locked_balanced (startFwLocked_noMutex fw runInRfkill) _)

/-- **`start_fw` releases a mutex it did not take**, when the card does not get ready. -/
theorem startFw_unbalanced (fw : FwImg) (runInRfkill : Bool) (missing : ¬ CardReady hw st.time) :
    ¬ MutexBalanced hw st (.startFw fw runInRfkill) := by
  refine not_keepsAt_unlock (ioLockUnlock .mutex) (fun _ => rfl) prepareCardHw_noMutex ⟨-eio, ?_⟩
  rw [if_pos (mt (prepareCardHw_iff hw st).mp missing)]

/-- The operations that wait for the card before they take the mutex. -/
def TransOp.preparesFirst : TransOp → Bool
  | .startFw _ _ => true
  | _ => false

/-- **When an operation is balanced**: always, but for `start_fw` on a card that does not get ready. -/
theorem mutexBalanced_iff (hw : Device) (op : TransOp) (st : TransState) :
    MutexBalanced hw st op ↔ (op.preparesFirst = true → CardReady hw st.time) := by
  cases op with
  | startHw =>
    exact iff_of_true (locked_balanced startHwLocked_noMutex st) fun other => absurd other Bool.false_ne_true
  | startFw fw runInRfkill =>
    refine ⟨fun balanced _ => ?_, fun ready => startFw_balanced fw runInRfkill (ready rfl)⟩
    by_contra missing
    exact startFw_unbalanced fw runInRfkill missing balanced
  | stopDevice =>
    refine iff_of_true (locked_balanced ?_ st) fun other => absurd other Bool.false_ne_true
    exact .bind (modify_noMutex fun _ => rfl) fun _ => .bind get_noMutex fun _ =>
      .bind stopDeviceLocked_noMutex fun _ => handleStopRfkill_noMutex _
  | opModeLeave =>
    refine iff_of_true (locked_balanced ?_ st) fun other => absurd other Bool.false_ne_true
    exact .bind (modify_noMutex fun _ => rfl) fun _ => .bind (apmStop_noMutex true) fun _ =>
      modify_noMutex fun _ => rfl
  | handleRfkillIrq =>
    exact iff_of_true (.before (locked_balanced handleRfkillLocked_noMutex st) handleRfkillRest_noMutex)
      fun other => absurd other Bool.false_ne_true

/-- A card that another owner keeps: no poll succeeds. -/
def ownedCard : Device where
  family8000 := false
  lpXtalWorkaround := false
  debugRfkill := false
  pollBit := fun _ => -etimedout
  hwRfKillSw := fun _ => true
  rxInit := fun _ => 0
  txInit := fun _ => 0
  segments := fun _ => true
  grabNicAccess := fun _ => true
  ucodeWriteComplete := fun _ => true
  awakened := fun _ => true

/-- The transport after it is allocated. -/
def TransState.start : TransState := ⟨0, [], true, true, false, false, false, false, false, false⟩

/-- **An unbalanced start**: `start_fw` on a card that another owner keeps. -/
theorem ownedCard_unbalanced :
    ¬ MutexBalanced ownedCard .start (.startFw ⟨fun _ => ⟨false, 0, 0⟩, 0, false⟩ false) := by
  refine startFw_unbalanced _ _ ?_
  rintro ⟨i, _, success⟩
  have success : (0 : Int) ≤ -etimedout := success
  exact absurd success (by decide)

end IntelWifi.Pcie.TransLocks
