/-
**Bringing the device up and down.**

`iwlagn_mac_start` runs the init image for its calibrations, stops the device, and runs the runtime image; each part may
fail, and then `iwl_down` cleans up. `setPOWER` of the system calls it with no look at whether the device is up already,
and at no result. Beside the driver's state is the device: a host command is for an image that has said it is alive.

* `macStart_closed`, `macStart_open`: what a start ends in, from each state.
* `truthful_iff`: no command goes to a device that runs no image, and `getPOWER` tells whether the runtime image runs,
  after all steps of a run, exactly when no start of an open device fails behind its broadcast stations.

The notification waits, what the commands are made of, and the stations are elsewhere; the commands of a commit, and
those of a scan's end, are one here.
-/

import IntelWifi.Lib.Machine
import IntelWifi.Lib.Unwinding
import IntelWifi.Dvm.Stations

namespace IntelWifi.Dvm.BringUp

open IntelWifi.Machine IntelWifi.Unwinding

/-! ### The device -/

/-- Of `enum iwl_ucode_type`. -/
inductive UcodeType where
  | regular
  | init
  deriving DecidableEq, Repr

/-- What the device is doing. It is at fault when a command finds no image running. -/
inductive Device where
  | off
  | ready
  | loading (ucode : UcodeType)
  | running (ucode : UcodeType)
  | atFault
  deriving DecidableEq, Repr

namespace Device

/-- The start of the hardware. -/
def startHw (ok : Bool) : Device → Device
  | atFault => atFault
  | _ => if ok then ready else off

/-- The start of an image. -/
def startFw (ucode : UcodeType) (ok : Bool) : Device → Device
  | ready => if ok then loading ucode else ready
  | _ => atFault

/-- The image says it is alive. -/
def sayAlive : Device → Device
  | loading ucode => running ucode
  | other => other

def command : Device → Device
  | running ucode => running ucode
  | _ => atFault

def stop : Device → Device
  | atFault => atFault
  | _ => off

end Device

/-! ### The driver -/

/-- Of `struct iwl_priv`: bits of `status`, and what goes with them. -/
structure Nic where
  exitPending : Bool
  alive : Bool
  ready : Bool
  scanHw : Bool
  ucodeLoaded : Bool
  curUcode : UcodeType
  isOpen : Bool
  device : Device
  deriving DecidableEq, Repr

/-- As `iwl_op_mode_dvm_start` leaves it. -/
def Nic.boot : Nic := ⟨false, false, false, false, false, .regular, false, .off⟩

/-- Of `bt_params`. -/
inductive BtCoex where
  | none
  | twoWire
  | advanced
  deriving DecidableEq, Repr

/-- Of the firmware file and `struct iwl_dvm_cfg`. -/
structure NicConfig where
  /-- The file has an init image. -/
  hasInit : Bool
  btCoex : BtCoex
  noXtalCalib : Bool
  needTempOffsetCalib : Bool
  /-- `IWL_UCODE_API(priv->fw->ucode_ver) > 1`. -/
  selectsTxAnt : Bool

/-- What may fail. -/
inductive Part where
  | exiting
  | bcast (ctx : CtxId)
  | startHw (ucode : UcodeType)
  | startFw (ucode : UcodeType)
  | aliveWait (ucode : UcodeType)
  | notLoaded
  | wimaxCoex (ucode : UcodeType)
  | xtalCalib (ucode : UcodeType)
  | calibResults (ucode : UcodeType)
  | btEnvInit
  | calibCfg
  | tempOffset
  | calibWait
  | rfkill
  | btConfig
  | prioTbl
  | btEnvOpen
  | btEnvClose
  | calibCfgRt
  | txAnt
  | rxon
  | ctKill
  | powerMode
  | scanAbort
  | scanSettings
  deriving DecidableEq, Repr

/-- What becomes of a command: RF-kill, CT-kill or a firmware error keeps it back; or it fails; or it passes. -/
inductive Fate where
  | held
  | failed
  | passed
  deriving DecidableEq, Repr

/-- What a start or a stop meets. -/
structure Meets where
  passes : Part → Bool
  fate : Part → Fate

variable (config : NicConfig) (meets : Meets)

/-- What is done under a condition only. -/
def onlyIf (condition : Bool) (program : Fallible Nic Part Unit) : Fallible Nic Part Unit :=
  if condition then program else pure ()

/-- A part that is no command. -/
def check (part : Part) : Fallible Nic Part Unit := if meets.passes part then pure () else throw part

/-- `iwl_dvm_send_cmd`. -/
def iwlDvmSendCmd (fate : Part → Fate) (part : Part) : Fallible Nic Part Unit := do
  if fate part = .held then throw part
  else
    let st ← get
    if !st.ucodeLoaded then throw .notLoaded
    else
      modify fun st => { st with device := st.device.command }
      if fate part = .failed then throw part else pure ()

/-- A command whose result nobody looks at. -/
def sendAnyway (fate : Part → Fate) (part : Part) : Fallible Nic Part Unit :=
  tryCatch (iwlDvmSendCmd fate part) fun _ => pure ()

/-- `start_hw`. -/
def startHw (ucode : UcodeType) : Fallible Nic Part Unit := do
  modify fun st => { st with device := st.device.startHw (meets.passes (.startHw ucode)) }
  check meets (.startHw ucode)

/-- `iwl_alive_notify`, but for the queues. -/
def iwlAliveNotify (ucode : UcodeType) : Fallible Nic Part Unit := do
  iwlDvmSendCmd meets.fate (.wimaxCoex ucode)
  onlyIf (!config.noXtalCalib) (check meets (.xtalCalib ucode))
  iwlDvmSendCmd meets.fate (.calibResults ucode)

/-- From the start of the image to the end of `iwl_load_ucode_wait_alive`, up to `cur_ucode`. -/
def startImage (ucode : UcodeType) : Fallible Nic Part Unit := do
  modify fun st => { st with device := st.device.startFw ucode (meets.passes (.startFw ucode)) }
  check meets (.startFw ucode)
  check meets (.aliveWait ucode)
  modify fun st => { st with device := st.device.sayAlive, ucodeLoaded := true }
  iwlAliveNotify config meets ucode

/-- `iwl_load_ucode_wait_alive`. -/
def iwlLoadUcodeWaitAlive (ucode : UcodeType) : Fallible Nic Part Unit := do
  let old ← get
  modify fun st => { st with curUcode := ucode, ucodeLoaded := false }
  tryCatch (startImage config meets ucode) fun why => do
    modify fun st => { st with curUcode := old.curUcode }
    throw why

/-- `iwl_init_alive_start`. -/
def iwlInitAliveStart : Fallible Nic Part Unit := do
  onlyIf (config.btCoex = .advanced) (iwlDvmSendCmd meets.fate .btEnvInit)
  iwlDvmSendCmd meets.fate .calibCfg
  onlyIf config.needTempOffsetCalib (check meets .tempOffset)

/-- The init image, from its start to its calibrations. -/
def calibrate : Fallible Nic Part Unit := do
  iwlLoadUcodeWaitAlive config meets .init
  iwlInitAliveStart config meets
  check meets .calibWait

/-- The device is stopped, whatever happened. -/
def stopDevice (st : Nic) : Nic := { st with device := st.device.stop, ucodeLoaded := false }

/-- `iwl_run_init_ucode`. -/
def iwlRunInitUcode : Fallible Nic Part Unit :=
  if !config.hasInit then pure ()
  else do
    tryCatch (calibrate config meets) fun why => do
      modify stopDevice
      throw why
    modify stopDevice

/-- The BT coexistence of `iwl_alive_start`. -/
def btCoexStart : Fallible Nic Part Unit :=
  match config.btCoex with
  | .none => pure ()
  | .twoWire => sendAnyway meets.fate .btConfig
  | .advanced => do
    sendAnyway meets.fate .btConfig
    sendAnyway meets.fate .prioTbl
    iwlDvmSendCmd meets.fate .btEnvOpen
    iwlDvmSendCmd meets.fate .btEnvClose

/-- `iwl_alive_start`. -/
def iwlAliveStart : Fallible Nic Part Unit := do
  modify fun st => { st with alive := true }
  check meets .rfkill
  btCoexStart config meets
  sendAnyway meets.fate .calibCfgRt
  onlyIf config.selectsTxAnt (sendAnyway meets.fate .txAnt)
  modify fun st => { st with ready := true }
  iwlDvmSendCmd meets.fate .rxon
  sendAnyway meets.fate .ctKill
  iwlDvmSendCmd meets.fate .powerMode

/-- `iwl_scan_cancel_timeout`, of the commands. -/
def iwlScanCancelTimeout (fate : Part → Fate) : Fallible Nic Part Unit := do
  let st ← get
  onlyIf (st.ready && st.scanHw) (sendAnyway fate .scanAbort)
  onlyIf (st.ready && !st.exitPending) (sendAnyway fate .scanSettings)

/-- What `iwl_down` leaves of the status, with the device stopped. -/
def goDown (st : Nic) : Nic :=
  { stopDevice st with alive := false, ready := false, scanHw := false }

/-- `iwl_down`. -/
def iwlDown (fate : Part → Fate) : Fallible Nic Part Unit := do
  iwlScanCancelTimeout fate
  modify goDown

/-- `__iwl_up`, behind the broadcast stations. -/
def bringUp : Fallible Nic Part Unit := do
  startHw meets .init
  iwlRunInitUcode config meets
  startHw meets .regular
  iwlLoadUcodeWaitAlive config meets .regular
  iwlAliveStart config meets

/-- The end of a failed start. -/
def abandon (why : Part) : Fallible Nic Part Unit := do
  modify fun st => { st with exitPending := true }
  iwlDown meets.fate
  modify fun st => { st with exitPending := false }
  throw why

/-- `__iwl_up`. -/
def iwlUp : Fallible Nic Part Unit := do
  let st ← get
  if st.exitPending then throw .exiting
  else
    check meets (.bcast .bss)
    check meets (.bcast .pan)
    tryCatch (bringUp config meets) (abandon meets)

/-- `iwlagn_mac_start`. -/
def iwlagnMacStart : Fallible Nic Part Unit := do
  iwlUp config meets
  modify fun st => { st with isOpen := true }

/-- `iwlagn_mac_stop`. -/
def iwlagnMacStop (fate : Part → Fate) : Fallible Nic Part Unit := do
  let st ← get
  if !st.isOpen then pure ()
  else
    modify fun st => { st with isOpen := false }
    iwlDown fate

/-! ### Runs -/

/-- What happens: `setPOWER`, a host command of any other kind, a scan and its end. -/
inductive NicAct where
  | powerOn (meets : Meets)
  | powerOff (fate : Part → Fate)
  | command (part : Part) (fate : Part → Fate)
  | scan (part : Part) (fate : Part → Fate)
  | scanDone

/-- `setPOWER` looks at no result. -/
def nicStep (st : Nic) : NicAct → Nic
  | .powerOn meets => ((iwlagnMacStart config meets).exec st).2
  | .powerOff fate => ((iwlagnMacStop fate).exec st).2
  | .command part fate => ((iwlDvmSendCmd fate part).exec st).2
  | .scan part fate =>
    if st.ready && !st.exitPending then
      match (iwlDvmSendCmd fate part).exec st with
      | (.ok _, st) => { st with scanHw := true }
      | (.error _, st) => st
    else st
  | .scanDone => { st with scanHw := false }

/-- `getPOWER`. -/
def getPower (st : Nic) : Bool := st.isOpen

/-- **The driver tells the truth**: no command found the device without an image, and the power is told to be on
exactly where the runtime image runs and the driver is ready. -/
structure Truthful (st : Nic) : Prop where
  obeyed : st.device ≠ .atFault
  power : getPower st = true ↔ st.device = .running .regular ∧ st.ready = true

/-- An open device that is started again comes up, or fails before anything is done to it. -/
def NicAct.ok (st : Nic) : NicAct → Bool
  | .powerOn meets =>
    !st.isOpen || !meets.passes (.bcast .bss) || !meets.passes (.bcast .pan) ||
      ((iwlagnMacStart config meets).exec st).1.isOk
  | _ => true

/-! ### Commands -/

section Commands

variable {pre : Nic → Prop} {meets : Meets} {fate : Part → Fate}

theorem check_triple (part : Part) : Triple pre (check meets part) (fun _ => pre) fun _ => pre :=
  Triple.ite (fun _ => Triple.pure _ fun _ holds => holds) fun _ => Triple.failure _ fun _ holds => holds

/-- A command changes the device, and where the image is loaded only. -/
theorem send_triple (commands : ∀ st, pre st → st.ucodeLoaded = true → pre { st with device := st.device.command })
    (part : Part) : Triple pre (iwlDvmSendCmd fate part) (fun _ => pre) fun _ => pre := by
  refine Triple.ite (fun _ => Triple.failure _ fun _ holds => holds) fun _ => ?_
  refine Triple.bind (fun seen st => seen = st ∧ pre st) (Triple.reading fun _ holds => ⟨rfl, holds⟩) fun seen => ?_
  refine Triple.ite (fun _ => Triple.failure _ fun _ holds => holds.2) fun loaded => ?_
  have loaded : seen.ucodeLoaded = true := eq_true_of_ne_false fun clear => loaded (Bool.not_eq_true' _ ▸ clear)
  refine Triple.bind (fun _ => pre) (Triple.changing fun st holds => ?_) fun _ => ?_
  · exact commands st holds.2 (holds.1 ▸ loaded)
  · exact Triple.ite (fun _ => Triple.failure _ fun _ holds => holds) fun _ => Triple.pure _ fun _ holds => holds

theorem sendAnyway_triple
    (commands : ∀ st, pre st → st.ucodeLoaded = true → pre { st with device := st.device.command })
    (part : Part) : Triple pre (sendAnyway fate part) (fun _ => pre) fun _ _ => False :=
  Triple.catching (fun _ => pre) (send_triple commands part) fun _ => Triple.pure _ fun _ holds => holds

theorem onlyIf_triple {condition : Bool} {program : Fallible Nic Part Unit} {fails : Part → Nic → Prop}
    (triple : Triple pre program (fun _ => pre) fails) : Triple pre (onlyIf condition program) (fun _ => pre) fails :=
  Triple.ite (fun _ => triple) fun _ => Triple.pure _ fun _ holds => holds

end Commands

/-! ### The way up -/

/-- Before an image is loaded. -/
structure Resting (opened : Bool) (st : Nic) : Prop where
  isOpen : st.isOpen = opened
  staying : st.exitPending = false
  obeyed : st.device ≠ .atFault
  quiet : opened = false → st.ucodeLoaded = false

/-- An image runs. -/
structure Running (opened : Bool) (ucode : UcodeType) (st : Nic) : Prop where
  isOpen : st.isOpen = opened
  staying : st.exitPending = false
  device : st.device = .running ucode

/-- Where a start may fail. -/
structure Fallen (opened : Bool) (st : Nic) : Prop where
  isOpen : st.isOpen = opened
  obeyed : st.device ≠ .atFault
  quiet : opened = false → st.ucodeLoaded = true → ∃ ucode, st.device = .running ucode

section WayUp

variable {opened : Bool} {ucode : UcodeType} {st : Nic} {config : NicConfig} {meets : Meets}

theorem Resting.fallen (resting : Resting opened st) : Fallen opened st :=
  ⟨resting.isOpen, resting.obeyed, fun closed loaded =>
    absurd ((resting.quiet closed).symm.trans loaded) Bool.false_ne_true⟩

theorem Running.fallen (running : Running opened ucode st) : Fallen opened st := by
  refine ⟨running.isOpen, fun fault => ?_, fun _ _ => ⟨ucode, running.device⟩⟩
  rw [running.device] at fault
  cases fault

theorem Running.command (running : Running opened ucode st) :
    Running opened ucode { st with device := st.device.command } :=
  ⟨running.isOpen, running.staying, congrArg Device.command running.device⟩

/-- The hardware is ready for an image. -/
structure Ready (opened : Bool) (st : Nic) : Prop extends Resting opened st where
  device : st.device = .ready

theorem startHw_triple (ucode : UcodeType) :
    Triple (Resting opened) (startHw meets ucode) (fun _ => Ready opened) fun _ => Fallen opened := by
  unfold startHw check
  cases meets.passes (.startHw ucode) with
  | true =>
    refine Triple.bind (fun _ => Ready opened) (Triple.changing fun st resting => ?_)
      fun _ => Triple.pure _ fun _ holds => holds
    have device : st.device.startHw true = .ready := by
      cases before : st.device with
      | atFault => exact absurd before resting.obeyed
      | off | ready | loading _ | running _ => rfl
    exact { resting with obeyed := fun fault => (by cases device.symm.trans fault), device := device }
  | false =>
    refine Triple.bind (fun _ => Resting opened) (Triple.changing fun st resting => ?_)
      fun _ => Triple.failure _ fun _ holds => holds.fallen
    have device : st.device.startHw false = .off := by
      cases before : st.device with
      | atFault => exact absurd before resting.obeyed
      | off | ready | loading _ | running _ => rfl
    exact { resting with obeyed := fun fault => (by cases device.symm.trans fault) }

theorem iwlAliveNotify_triple : Triple (Running opened ucode) (iwlAliveNotify config meets ucode)
    (fun _ => Running opened ucode) fun _ => Running opened ucode := by
  have commands : ∀ st, Running opened ucode st → st.ucodeLoaded = true →
      Running opened ucode { st with device := st.device.command } := fun _ running _ => running.command
  refine Triple.bind _ (send_triple commands _) fun _ => ?_
  exact Triple.bind _ (onlyIf_triple (check_triple _)) fun _ => send_triple commands _

/-- An image is loading. -/
structure Loading (opened : Bool) (ucode : UcodeType) (st : Nic) : Prop where
  isOpen : st.isOpen = opened
  staying : st.exitPending = false
  clear : st.ucodeLoaded = false
  device : st.device = .loading ucode

theorem Loading.fallen (loading : Loading opened ucode st) : Fallen opened st := by
  refine ⟨loading.isOpen, fun fault => ?_, fun _ loaded => absurd (loading.clear.symm.trans loaded) Bool.false_ne_true⟩
  rw [loading.device] at fault
  cases fault

theorem startImage_triple : Triple (fun st => Ready opened st ∧ st.ucodeLoaded = false)
    (startImage config meets ucode) (fun _ => Running opened ucode) fun _ => Fallen opened := by
  unfold startImage check
  cases meets.passes (.startFw ucode) with
  | false =>
    refine Triple.bind (fun _ => Resting opened) (Triple.changing fun st holds => ?_)
      fun _ => Triple.bind (fun _ _ => False) (Triple.failure _ fun _ resting => resting.fallen) fun _ _ never => never.elim
    have device : st.device.startFw ucode false = .ready := by
      rw [holds.1.device]
      rfl
    exact { holds.1.toResting with obeyed := fun fault => (by cases device.symm.trans fault) }
  | true =>
    refine Triple.bind (fun _ => Loading opened ucode) (Triple.changing fun st holds => ?_) fun _ => ?_
    · have device : st.device.startFw ucode true = .loading ucode := by
        rw [holds.1.device]
        rfl
      exact ⟨holds.1.isOpen, holds.1.staying, holds.2, device⟩
    · refine Triple.bind (fun _ => Loading opened ucode) (Triple.pure _ fun _ holds => holds) fun _ => ?_
      refine Triple.bind (fun _ => Loading opened ucode)
        ((check_triple _).consequence (fun _ holds => holds) (fun _ _ holds => holds) fun _ _ holds => holds.fallen)
        fun _ => ?_
      refine Triple.bind (fun _ => Running opened ucode) (Triple.changing fun st holds => ?_) fun _ => ?_
      · exact ⟨holds.isOpen, holds.staying, congrArg Device.sayAlive holds.device⟩
      · exact iwlAliveNotify_triple.consequence (fun _ holds => holds) (fun _ _ holds => holds)
          fun _ _ holds => holds.fallen

/-- **An image is started**, and answers the first commands; or the start fails. -/
theorem loadUcodeWaitAlive_triple : Triple (Ready opened) (iwlLoadUcodeWaitAlive config meets ucode)
    (fun _ => Running opened ucode) fun _ => Fallen opened := by
  refine Triple.bind (fun _ => Ready opened) (Triple.reading fun _ holds => holds) fun old => ?_
  refine Triple.bind (fun _ st => Ready opened st ∧ st.ucodeLoaded = false) (Triple.changing fun st holds => ?_)
    fun _ => Triple.catching (fun _ => Fallen opened) startImage_triple fun why => ?_
  · exact ⟨{ holds with quiet := fun _ => rfl }, rfl⟩
  · refine Triple.bind (fun _ => Fallen opened) (Triple.changing fun st holds => ?_)
      fun _ => Triple.failure _ fun _ holds => holds
    exact { holds with }

theorem initAliveStart_triple : Triple (Running opened ucode) (iwlInitAliveStart config meets)
    (fun _ => Running opened ucode) fun _ => Running opened ucode := by
  have commands : ∀ st, Running opened ucode st → st.ucodeLoaded = true →
      Running opened ucode { st with device := st.device.command } := fun _ running _ => running.command
  refine Triple.bind _ (onlyIf_triple (send_triple commands _)) fun _ => ?_
  exact Triple.bind _ (send_triple commands _) fun _ => onlyIf_triple (check_triple _)

theorem calibrate_triple : Triple (Ready opened) (calibrate config meets) (fun _ => Running opened .init)
    fun _ => Fallen opened := by
  refine Triple.bind (fun _ => Running opened .init) loadUcodeWaitAlive_triple fun _ => ?_
  refine Triple.bind (fun _ => Running opened .init) ?_ fun _ => ?_
  · exact initAliveStart_triple.consequence (fun _ holds => holds) (fun _ _ holds => holds)
      fun _ _ holds => holds.fallen
  · exact (check_triple _).consequence (fun _ holds => holds) (fun _ _ holds => holds) fun _ _ holds => holds.fallen

/-- **The init image has run**, and the device is stopped, however it went. -/
theorem runInitUcode_triple : Triple (Ready opened) (iwlRunInitUcode config meets) (fun _ => Resting opened)
    fun _ => Fallen opened := by
  refine Triple.ite (fun _ => Triple.pure _ fun _ holds => holds.toResting) fun _ => ?_
  refine Triple.bind (fun _ => Running opened .init) ?_ fun _ => Triple.changing fun st running => ?_
  · refine Triple.catching (fun _ => Fallen opened) calibrate_triple fun why => ?_
    refine Triple.bind (fun _ => Fallen opened) (Triple.changing fun st fallen => ?_)
      fun _ => Triple.failure _ fun _ holds => holds
    refine ⟨fallen.isOpen, ?_, fun _ loaded => absurd loaded Bool.false_ne_true⟩
    intro fault
    have before := fallen.obeyed
    cases device : st.device with
    | atFault => exact before device
    | off | ready | loading _ | running _ =>
      rw [stopDevice, device] at fault
      cases fault
  · refine ⟨running.isOpen, running.staying, fun fault => ?_, fun _ => rfl⟩
    rw [stopDevice, running.device] at fault
    cases fault

/-- The runtime image runs, and the driver is ready. -/
structure Up (opened : Bool) (st : Nic) : Prop extends Running opened .regular st where
  ready : st.ready = true

theorem Up.command (up : Up opened st) : Up opened { st with device := st.device.command } :=
  { up.toRunning.command with ready := up.ready }

theorem btCoexStart_triple : Triple (Running opened ucode) (btCoexStart config meets)
    (fun _ => Running opened ucode) fun _ => Running opened ucode := by
  have commands : ∀ st, Running opened ucode st → st.ucodeLoaded = true →
      Running opened ucode { st with device := st.device.command } := fun _ running _ => running.command
  have anyway : ∀ part, Triple (Running opened ucode) (sendAnyway meets.fate part) (fun _ => Running opened ucode)
      fun _ => Running opened ucode :=
    fun part => (sendAnyway_triple commands part).consequence (fun _ holds => holds) (fun _ _ holds => holds)
      fun _ _ never => never.elim
  unfold btCoexStart
  cases config.btCoex with
  | none => exact Triple.pure _ fun _ holds => holds
  | twoWire => exact anyway _
  | advanced =>
    refine Triple.bind _ (anyway _) fun _ => Triple.bind _ (anyway _) fun _ => ?_
    exact Triple.bind _ (send_triple commands _) fun _ => send_triple commands _

theorem aliveStart_triple : Triple (Running opened .regular) (iwlAliveStart config meets) (fun _ => Up opened)
    fun _ => Fallen opened := by
  have commands : ∀ st, Running opened .regular st → st.ucodeLoaded = true →
      Running opened .regular { st with device := st.device.command } := fun _ running _ => running.command
  have ready : ∀ st, Up opened st → st.ucodeLoaded = true → Up opened { st with device := st.device.command } :=
    fun _ up _ => up.command
  have anyway : ∀ part, Triple (Running opened .regular) (sendAnyway meets.fate part)
      (fun _ => Running opened .regular) fun _ => Fallen opened :=
    fun part => (sendAnyway_triple commands part).consequence (fun _ holds => holds) (fun _ _ holds => holds)
      fun _ _ never => never.elim
  have sent : ∀ part, Triple (Up opened) (iwlDvmSendCmd meets.fate part) (fun _ => Up opened) fun _ => Fallen opened :=
    fun part => (send_triple ready part).consequence (fun _ holds => holds) (fun _ _ holds => holds)
      fun _ _ holds => holds.fallen
  refine Triple.bind (fun _ => Running opened .regular) (Triple.changing fun st holds => { holds with }) fun _ => ?_
  refine Triple.bind (fun _ => Running opened .regular) ?_ fun _ => ?_
  · exact (check_triple _).consequence (fun _ holds => holds) (fun _ _ holds => holds) fun _ _ holds => holds.fallen
  refine Triple.bind (fun _ => Running opened .regular) ?_ fun _ => ?_
  · exact btCoexStart_triple.consequence (fun _ holds => holds) (fun _ _ holds => holds) fun _ _ holds => holds.fallen
  refine Triple.bind _ (anyway _) fun _ => Triple.bind _ (onlyIf_triple (anyway _)) fun _ => ?_
  refine Triple.bind (fun _ => Up opened) (Triple.changing fun st holds => { holds with ready := rfl }) fun _ => ?_
  refine Triple.bind _ (sent _) fun _ => Triple.bind (fun _ => Up opened) ?_ fun _ => sent _
  exact (sendAnyway_triple ready _).consequence (fun _ holds => holds) (fun _ _ holds => holds)
    fun _ _ never => never.elim

/-- **The way up.** -/
theorem bringUp_triple : Triple (Resting opened) (bringUp config meets) (fun _ => Up opened) fun _ => Fallen opened :=
  Triple.bind (fun _ => Ready opened) (startHw_triple _) fun _ =>
    Triple.bind (fun _ => Resting opened) runInitUcode_triple fun _ =>
      Triple.bind (fun _ => Ready opened) (startHw_triple _) fun _ =>
        Triple.bind (fun _ => Running opened .regular) loadUcodeWaitAlive_triple fun _ => aliveStart_triple

end WayUp

/-! ### The way down -/

/-- On the way down. A device that was open before a failed start is in no state to be relied on. -/
structure Fading (opened leaving : Bool) (st : Nic) : Prop where
  isOpen : st.isOpen = opened
  leaving : st.exitPending = leaving
  obeyed : opened = false → st.device ≠ .atFault
  quiet : opened = false → st.ucodeLoaded = true → ∃ ucode, st.device = .running ucode

/-- Behind `iwl_down`. -/
structure Down (opened leaving : Bool) (st : Nic) : Prop where
  isOpen : st.isOpen = opened
  leaving : st.exitPending = leaving
  clear : st.ucodeLoaded = false
  notReady : st.ready = false
  off : opened = false → st.device = .off

section WayDown

variable {opened leaving : Bool} {st : Nic} {config : NicConfig} {meets : Meets} {fate : Part → Fate}

theorem Fading.command (fading : Fading opened leaving st) (loaded : st.ucodeLoaded = true) :
    Fading opened leaving { st with device := st.device.command } := by
  have same : opened = false → st.device.command = st.device := by
    intro closed
    obtain ⟨ucode, running⟩ := fading.quiet closed loaded
    rw [running]
    rfl
  refine ⟨fading.isOpen, fading.leaving, fun closed => ?_, fun closed loaded => ?_⟩
  · exact fun fault => fading.obeyed closed ((same closed).symm.trans fault)
  · obtain ⟨ucode, running⟩ := fading.quiet closed loaded
    exact ⟨ucode, (same closed).trans running⟩

theorem Fading.goDown (fading : Fading opened leaving st) : Down opened leaving (goDown st) := by
  refine ⟨fading.isOpen, fading.leaving, rfl, rfl, fun closed => ?_⟩
  have before := fading.obeyed closed
  cases device : st.device with
  | atFault => exact absurd device before
  | off | ready | loading _ | running _ =>
    show st.device.stop = .off
    rw [device]
    rfl

/-- **The way down.** -/
theorem iwlDown_triple : Triple (Fading opened leaving) (iwlDown fate) (fun _ => Down opened leaving)
    fun _ _ => False := by
  have commands : ∀ st, Fading opened leaving st → st.ucodeLoaded = true →
      Fading opened leaving { st with device := st.device.command } := fun _ fading loaded => fading.command loaded
  refine Triple.bind (fun _ => Fading opened leaving) ?_ fun _ => Triple.changing fun st fading => fading.goDown
  refine Triple.bind (fun _ => Fading opened leaving) (Triple.reading fun _ holds => holds) fun seen => ?_
  exact Triple.bind (fun _ => Fading opened leaving) (onlyIf_triple (sendAnyway_triple commands _))
    fun _ => onlyIf_triple (sendAnyway_triple commands _)

/-- A failed start ends with the device down. -/
theorem abandon_triple (why : Part) : Triple (Fallen opened) (abandon meets why) (fun _ _ => False)
    fun _ => Down opened false := by
  refine Triple.bind (fun _ => Fading opened true) (Triple.changing fun st fallen => ?_) fun _ => ?_
  · exact ⟨fallen.isOpen, rfl, fun _ => fallen.obeyed, fallen.quiet⟩
  refine Triple.bind (fun _ => Down opened true)
    (iwlDown_triple.consequence (fun _ holds => holds) (fun _ _ holds => holds) fun _ _ never => never.elim) fun _ => ?_
  exact Triple.bind (fun _ => Down opened false) (Triple.changing fun st down => { down with leaving := rfl })
    fun _ => Triple.failure _ fun _ holds => holds

/-- **A start**: the runtime image runs; or it fails, and the device is down, but for a broadcast station that fails,
when all is as it was. -/
theorem iwlUp_triple (before : Nic → Prop) : Triple (fun st => Resting opened st ∧ before st) (iwlUp config meets)
    (fun _ => Up opened) fun _ st =>
      if meets.passes (.bcast .bss) && meets.passes (.bcast .pan) then Down opened false st else before st := by
  refine Triple.bind (fun seen st => (Resting opened st ∧ before st) ∧ seen = st)
    (Triple.reading fun _ holds => ⟨holds, rfl⟩) fun seen => ?_
  refine Triple.ite (fun exiting => ?_) fun _ => ?_
  · refine Triple.failure _ fun st holds => ?_
    have staying : seen.exitPending = false := holds.2 ▸ holds.1.1.staying
    exact absurd (staying.symm.trans exiting) Bool.false_ne_true
  unfold check
  cases meets.passes (.bcast .bss) with
  | false => exact Triple.bind (fun _ _ => False) (Triple.failure _ fun _ holds => holds.1.2) fun _ _ never => never.elim
  | true =>
    refine Triple.bind (fun _ st => Resting opened st ∧ before st) (Triple.pure _ fun _ holds => holds.1) fun _ => ?_
    cases meets.passes (.bcast .pan) with
    | false => exact Triple.bind (fun _ _ => False) (Triple.failure _ fun _ holds => holds.2) fun _ _ never => never.elim
    | true =>
      refine Triple.bind (fun _ => Resting opened) (Triple.pure _ fun _ holds => holds.1) fun _ => ?_
      refine Triple.catching (fun _ => Fallen opened) bringUp_triple fun why => ?_
      exact (abandon_triple why).consequence (fun _ holds => holds) (fun _ _ never => never.elim) fun _ _ down => down

theorem macStart_triple (before : Nic → Prop) : Triple (fun st => Resting opened st ∧ before st)
    (iwlagnMacStart config meets) (fun _ => Up true) fun _ st =>
      if meets.passes (.bcast .bss) && meets.passes (.bcast .pan) then Down opened false st else before st :=
  Triple.bind (fun _ => Up opened) (iwlUp_triple before) fun _ =>
    Triple.changing fun _ up => { up with isOpen := rfl }

theorem macStop_triple : Triple (Up true) (iwlagnMacStop fate) (fun _ => Down false false) fun _ _ => False := by
  refine Triple.bind (fun seen st => Up true st ∧ seen = st) (Triple.reading fun _ holds => ⟨holds, rfl⟩) fun seen => ?_
  refine Triple.ite (fun closed => ?_) fun _ => ?_
  · refine Triple.pure _ fun st holds => ?_
    have opened : seen.isOpen = true := holds.2 ▸ holds.1.isOpen
    rw [opened] at closed
    cases closed
  · refine Triple.bind (fun _ => Fading false false) (Triple.changing fun st holds => ?_) fun _ => iwlDown_triple
    have up := holds.1
    exact ⟨rfl, up.staying, fun _ => up.fallen.obeyed, fun _ _ => ⟨.regular, up.device⟩⟩

end WayDown

/-! ### Every run -/

/-- The device is down, or up. -/
def Settled (st : Nic) : Prop := Down false false st ∨ Up true st

section Steps

variable {config : NicConfig} {st : Nic}

theorem Settled.truthful (settled : Settled st) : Truthful st := by
  obtain down | up := settled
  · refine ⟨fun fault => ?_, fun isOn => ?_, fun both => ?_⟩
    · cases (down.off rfl).symm.trans fault
    · exact absurd (down.isOpen.symm.trans isOn) Bool.false_ne_true
    · exact absurd (down.notReady.symm.trans both.2) Bool.false_ne_true
  · exact ⟨up.fallen.obeyed, fun _ => ⟨up.device, up.ready⟩, fun _ => up.isOpen⟩

theorem Down.resting (down : Down false false st) : Resting false st := by
  refine ⟨down.isOpen, down.leaving, fun fault => ?_, fun _ => down.clear⟩
  cases (down.off rfl).symm.trans fault

theorem Up.resting (up : Up true st) : Resting true st :=
  ⟨up.isOpen, up.staying, up.fallen.obeyed, fun closed => by cases closed⟩

/-- The runs of a program from a state. -/
theorem exec_of_triple {pre : Nic → Prop} {post : Unit → Nic → Prop} {fails : Part → Nic → Prop}
    {program : Fallible Nic Part Unit} (triple : Triple pre program post fails) (holds : pre st) :
    (∃ after, program.exec st = (.ok (), after) ∧ post () after) ∨
      ∃ why after, program.exec st = (.error why, after) ∧ fails why after := by
  have ends := triple st holds
  generalize program.exec st = ran at ends
  obtain ⟨result, after⟩ := ran
  cases result with
  | ok value => exact .inl ⟨after, rfl, ends⟩
  | error why => exact .inr ⟨why, after, rfl, ends⟩

/-- **A start of a device that is down.** -/
theorem macStart_closed (down : Down false false st) (meets : Meets) :
    Settled ((iwlagnMacStart config meets).exec st).2 := by
  obtain ⟨after, ran, up⟩ | ⟨why, after, ran, fails⟩ :=
    exec_of_triple (@macStart_triple false config meets (Down false false)) ⟨down.resting, down⟩
  · rw [ran]
    exact .inr up
  · rw [ran]
    exact .inl (by split at fails <;> exact fails)

/-- **A start of a device that is up**, which may leave it down and told to be up. -/
theorem macStart_open (up : Up true st) (meets : Meets) :
    if (NicAct.powerOn meets).ok config st then Settled ((iwlagnMacStart config meets).exec st).2
    else Down true false ((iwlagnMacStart config meets).exec st).2 := by
  simp only [NicAct.ok, up.isOpen, Bool.not_true, Bool.false_or]
  obtain ⟨after, ran, up'⟩ | ⟨why, after, ran, fails⟩ :=
    exec_of_triple (@macStart_triple true config meets (Up true)) ⟨up.resting, up⟩
  · rw [ran]
    simp only [Except.isOk, Except.toBool, Bool.or_true, if_true]
    exact .inr up'
  · rw [ran]
    simp only [Except.isOk, Except.toBool, Bool.or_false]
    revert fails
    cases meets.passes (.bcast .bss) with
    | false => exact fun fails => .inr fails
    | true =>
      cases meets.passes (.bcast .pan) with
      | false => exact fun fails => .inr fails
      | true => exact fun fails => fails

theorem powerOff_settled (settled : Settled st) (fate : Part → Fate) : Settled ((iwlagnMacStop fate).exec st).2 := by
  obtain down | up := settled
  · have nothing : (iwlagnMacStop fate).exec st = (.ok (), st) := by
      show (if !st.isOpen then _ else _ : Fallible Nic Part Unit).exec st = _
      rw [down.isOpen]
      rfl
    rw [nothing]
    exact .inl down
  · obtain ⟨after, ran, down⟩ | ⟨why, after, ran, never⟩ := exec_of_triple (@macStop_triple fate) up
    · rw [ran]
      exact .inl down
    · exact never.elim

theorem Settled.command (settled : Settled st) (loaded : st.ucodeLoaded = true) :
    Settled { st with device := st.device.command } := by
  obtain down | up := settled
  · exact absurd (down.clear.symm.trans loaded) Bool.false_ne_true
  · exact .inr up.command

theorem command_settled (settled : Settled st) (fate : Part → Fate) (part : Part) :
    Settled ((iwlDvmSendCmd fate part).exec st).2 := by
  obtain ⟨after, ran, settled⟩ | ⟨why, after, ran, settled⟩ :=
    exec_of_triple (@send_triple Settled fate (fun _ settled loaded => settled.command loaded) part) settled
  · rw [ran]
    exact settled
  · rw [ran]
    exact settled

theorem Settled.scan (settled : Settled st) (scanHw : Bool) : Settled { st with scanHw := scanHw } :=
  settled.imp (fun down => { down with }) fun up => { up with }

/-- **One step.** -/
theorem nicStep_settled (settled : Settled st) (act : NicAct) (ok : act.ok config st = true) :
    Settled (nicStep config st act) := by
  cases act with
  | powerOn meets =>
    obtain down | up := settled
    · exact macStart_closed down meets
    · have after := @macStart_open config st up meets
      rw [if_pos ok] at after
      exact after
  | powerOff fate => exact powerOff_settled settled fate
  | command part fate => exact command_settled settled fate part
  | scan part fate =>
    have sent := command_settled settled fate part
    simp only [nicStep]
    split
    · split
      · rename_i ran
        rw [ran] at sent
        exact sent.scan true
      · rename_i ran
        rw [ran] at sent
        exact sent
    · exact settled
  | scanDone => exact settled.scan false

/-- An open device that fails to start is still told to be on. -/
theorem nicStep_bad (settled : Settled st) (act : NicAct) (bad : act.ok config st = false) :
    ¬ Truthful (nicStep config st act) := by
  cases act with
  | powerOn meets =>
    obtain down | up := settled
    · rw [NicAct.ok, down.isOpen] at bad
      cases bad
    · have after := @macStart_open config st up meets
      rw [if_neg (ne_true_of_eq_false bad)] at after
      intro truthful
      exact Bool.false_ne_true (after.notReady.symm.trans (truthful.power.mp after.isOpen).2)
  | powerOff _ | command _ _ | scan _ _ | scanDone => cases bad

end Steps

/-- **Commands go to a running image, and the power is what `getPOWER` says**, in every state of a run, exactly when no
start of a device that is open fails behind its broadcast stations. -/
theorem truthful_iff (config : NicConfig) (acts : List NicAct) :
    (∀ done, done <+: acts → Truthful (done.foldl (nicStep config) .boot)) ↔
      allowed (fun st act => some (nicStep config st act)) (fun st act => act.ok config st) .boot acts = true := by
  rw [← always_total_iff]
  refine always_iff_allowed Settled ?_ (fun _ settled => settled.truthful) ?_ (fun st act => ⟨_, rfl⟩) ?_
  · intro st act next settled ok stepped
    exact Option.some.inj stepped ▸ nicStep_settled settled act ok
  · intro st act next settled bad stepped
    exact Option.some.inj stepped ▸ nicStep_bad settled act bad
  · exact .inl ⟨rfl, rfl, rfl, rfl, fun _ => rfl⟩

end IntelWifi.Dvm.BringUp
