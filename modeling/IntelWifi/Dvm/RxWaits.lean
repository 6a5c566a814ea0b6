/-
**What the receive thread waits for.**

Work that was queued elsewhere is begun by handlers of received packets: a completed scan through
`iwl_bg_scan_completed`, and bad statistics through `iwl_force_rf_reset`. Both go through the command gate,
which runs the action on the calling thread or is busy. The response to a synchronous command is delivered
by this very thread, and `priv->mutex` is held by who sends one. A packet of a command behind the table of
handlers, that finds a wait registered, makes the thread run what is no code.

A computation ends where the thread would wait first, so a command that is sent ends it: behind one there is
only the way for a command that is refused. `iwl_wait_notification` is called behind a command that was sent.

* `processScanComplete_waitsIf`: when a completed scan sends a command.
* `rxRun_dispatch`: a packet runs what its handler calls.
* `rxWaits_iff`: the runs in which the thread waits for nothing.
-/

import IntelWifi.Dvm.HandlerReads
import IntelWifi.Dvm.Rxon
import IntelWifi.Dvm.Scan

namespace IntelWifi.Dvm.RxWaits

open Bytes Checked

/-- Where the thread does not come back. -/
inductive Wait where
  /-- `iwl_pcie_send_hcmd_sync`. -/
  | hcmdSync
  /-- `IOLockLock(priv->mutex)`. -/
  | mutex
  /-- The call of a wait for a handler. -/
  | astray
  deriving DecidableEq, Repr

/-- `struct iwl_rxon_context`, with what of its interface a commit uses. -/
structure RxonContext where
  isActive : Bool
  staging : Rxon.RxonCmd
  active : Rxon.RxonCmd
  vif : Option Rxon.Vif

/-- `enum nl80211_band`. -/
inductive Band where
  | ghz2
  | ghz5
  | ghz60
  deriving DecidableEq, Repr

/-- `struct cfg80211_scan_request`: the band of each channel. -/
structure ScanRequest where
  first : Band
  others : List Band

def ScanRequest.channels (request : ScanRequest) : List Band := request.first :: request.others

/-- The driver, with what a packet finds of the transport and of the command gate. -/
structure RxSystem where
  rx : RxPriv
  ready : Bool
  alive : Bool
  ctKill : Bool
  fwError : Bool
  scanAborting : Bool
  ucodeLoaded : Bool
  /-- `STATUS_RFKILL_OPMODE`, `STATUS_FW_ERROR` and `IWL_TRANS_FW_ALIVE` of the transport. -/
  transRfkill : Bool
  transFwError : Bool
  transFwAlive : Bool
  gateBusy : Bool
  lastResetJiffies : BitVec 64
  scanType : Scan.ScanType
  scanRequest : Option ScanRequest
  /-- `scan_cmd` is there, or can be allocated. -/
  scanCmdRoom : Bool
  /-- `wiphy->bands`. -/
  hasBand : Band → Bool
  sleepCmd : List UInt8
  sleepCmdNext : List UInt8
  /-- What `iwl_power_build_cmd` builds. -/
  builtSleepCmd : List UInt8
  /-- `IWL_TX_POWER_CALIB_DISABLED`. -/
  txPowerCalibDisabled : Bool
  txPowerUserLmt : Int
  txPowerNext : Int
  maxTxPwrHalfDbm : Int
  /-- The PAN context is valid. -/
  panValid : Bool
  contexts : CtxId → RxonContext
  useRtsForAggregation : Bool
  /-- An asynchronous command finds room in its queue. -/
  asyncRoom : Bool

variable (env : RxEnv) (sys : RxSystem)

/-! ### Commands -/

/-- `iwl_is_ready_rf`. -/
def RxSystem.readyRf : Bool := !sys.rx.rfKillHw && (sys.ready && !sys.rx.exitPending)

/-- `iwl_dvm_send_cmd`, `iwl_trans_send_cmd` and `iwl_trans_pcie_send_hcmd` pass a command on. -/
def RxSystem.passes : Bool :=
  !sys.rx.rfKillHw && !sys.ctKill && !sys.fwError && sys.ucodeLoaded && !sys.transRfkill &&
    !sys.transFwError && sys.transFwAlive

/-- A synchronous command: it is refused, or the thread waits. -/
def sendSync : Except Wait Unit := if sys.passes then .error .hcmdSync else .ok ()

/-- `CMD_ASYNC`: whether it is sent. -/
def sendAsync : Bool := sys.passes && sys.asyncRoom

/-- `iwlagn_set_pan_params`, with its success. -/
def iwlagnSetPanParams : Except Wait Bool :=
  if !sys.panValid then .ok true
  else if !(sys.contexts .pan).isActive then .ok true
  else do
    sendSync sys
    return false

/-- `iwl_power_set_mode`, with its success. -/
def iwlPowerSetMode (cmd : List UInt8) (force : Bool) : Except Wait (Bool × RxSystem) :=
  if sys.sleepCmd = cmd ∧ force = false then .ok (true, sys)
  else if !sys.readyRf then .ok (false, sys)
  else
    let sys := { sys with sleepCmdNext := cmd }
    if sys.rx.scanning && !force then .ok (true, sys)
    else do
      sendSync sys
      return (false, sys)

/-- `IWLAGN_TX_POWER_TARGET_POWER_MIN`. -/
def txPowerMin : Int := 0

/-- `DIV_ROUND_UP(priv->nvm_data->max_tx_pwr_half_dbm, 2)`, with C's division. -/
def RxSystem.txPowerMax : Int := (sys.maxTxPwrHalfDbm + 2 - 1).tdiv 2

/-- `iwlagn_send_tx_power`. -/
def iwlagnSendTxPower : Except Wait Unit := if sys.rx.scanHw then .ok () else sendSync sys

/-- `iwl_set_tx_power` without `force`. A refused command restores what was set before. -/
def iwlSetTxPower (txPower : Int) : Except Wait RxSystem :=
  if sys.txPowerCalibDisabled then .ok sys
  else if sys.txPowerUserLmt = txPower then .ok sys
  else if txPower < txPowerMin then .ok sys
  else if sys.txPowerMax < txPower then .ok sys
  else if !sys.readyRf then .ok sys
  else
    let sys := { sys with txPowerNext := txPower }
    if sys.rx.scanning ∨ (sys.contexts .bss).active ≠ (sys.contexts .bss).staging then .ok sys
    else do
      iwlagnSendTxPower { sys with txPowerUserLmt := txPower }
      return { sys with txPowerNext := sys.txPowerUserLmt }

/-! ### Committing -/

/-- A context is given another staging image. -/
def RxSystem.stage (ctx : CtxId) (staging : Rxon.RxonCmd) : RxSystem :=
  { sys with contexts := Function.update sys.contexts ctx { sys.contexts ctx with staging := staging } }

/-- `memcpy(active, &ctx->staging, sizeof(*active))`. -/
def RxSystem.activate (ctx : CtxId) (active : Rxon.RxonCmd) : RxSystem :=
  { sys with contexts := Function.update sys.contexts ctx { sys.contexts ctx with active := active } }

/-- What a commit of the context prepares. -/
def RxSystem.call (ctx : CtxId) : Rxon.CommitCall where
  ctx := ctx
  staging := (sys.contexts ctx).staging
  vif := (sys.contexts ctx).vif
  isActive := (sys.contexts ctx).isActive
  alive := sys.alive
  useRtsForAggregation := sys.useRtsForAggregation
  swcrypto := env.swcrypto
  panActive := sys.panValid && (sys.contexts .pan).isActive
  reply := fun _ => .refused

/-- A channel switch to another channel is aborted, as `iwl_chswitch_done` does. -/
def RxSystem.abortSwitch (channel : UInt16) : RxSystem :=
  if sys.rx.channelSwitchPending ∧ sys.rx.switchChannel ≠ channel.toNat ∧ sys.rx.exitPending = false then
    { sys with rx := { sys.rx with channelSwitchPending := false } }
  else sys

/-- `iwlagn_commit_rxon`, once the image was checked: `iwlagn_send_rxon_assoc` sends a command unless it would
change nothing, and a full RXON begins with a synchronous command on both contexts. -/
def sendRxon (ctx : CtxId) (prepared image : Rxon.RxonCmd) : Except Wait RxSystem :=
  let active := (sys.contexts ctx).active
  if !Rxon.iwlFullRxonRequired prepared active then
    if !(Rxon.sameRxonAssoc prepared active || sendAsync sys) then .ok sys
    else do
      let sys ← iwlSetTxPower (sys.activate ctx prepared) sys.txPowerNext
      let (_, sys) ← iwlPowerSetMode sys sys.builtSleepCmd true
      return sys
  else do
    sendSync sys
    return sys.stage ctx image

/-- `iwlagn_commit_rxon`. -/
def iwlagnCommitRxon (ctx : CtxId) : Except Wait RxSystem :=
  let call := sys.call env ctx
  if !sys.alive then .ok sys
  else if !(sys.contexts ctx).isActive then .ok sys
  else
    let sys := sys.stage ctx call.prepared
    if !Rxon.iwlCheckRxonCmd call.prepared then .ok sys
    else sendRxon (sys.abortSwitch call.prepared.channel) ctx call.prepared call.image

/-- A context of `iwlagn_post_scan`. -/
def commitStaged (ctx : CtxId) : Except Wait RxSystem :=
  if (sys.contexts ctx).staging = (sys.contexts ctx).active then .ok sys
  else iwlagnCommitRxon env sys ctx

/-- The loop of `iwlagn_post_scan` over the contexts that are valid. -/
def commitContexts : Except Wait RxSystem := do
  let sys ← commitStaged env sys .bss
  if sys.panValid then commitStaged env sys .pan else .ok sys

/-- `iwlagn_post_scan`. -/
def iwlagnPostScan : Except Wait RxSystem := do
  let (_, sys) ← iwlPowerSetMode sys sys.sleepCmdNext false
  let sys ← iwlSetTxPower sys sys.txPowerNext
  let sys ← commitContexts env sys
  let _ ← iwlagnSetPanParams sys
  return sys

/-! ### Scans -/

/-- `MAX_SCAN_CHANNEL`. -/
def maxScanChannel : Nat := 50

/-- `iwlagn_request_scan` gets as far as its commands, for a scan that was requested: there are not too many
channels, there is memory, the band is known, and some channel is in it. -/
def RxSystem.preparesScan (request : ScanRequest) : Bool :=
  request.channels.length ≤ maxScanChannel && sys.scanCmdRoom &&
    (request.first == .ghz2 || request.first == .ghz5) &&
    (if sys.hasBand request.first then request.channels.count request.first != 0 else false)

/-- The commands of `iwlagn_request_scan`, with its success. A scan that is refused counts as a success. -/
def sendScan : Except Wait (Bool × RxSystem) := do
  let cleared := { sys with rx := { sys.rx with scanHw := false } }
  if !(← iwlagnSetPanParams sys) then return (false, cleared)
  else
    sendSync sys
    let _ ← iwlagnSetPanParams cleared
    return (true, cleared)

/-- `iwlagn_request_scan`. -/
def iwlagnRequestScan (request : ScanRequest) : Except Wait (Bool × RxSystem) :=
  if !sys.preparesScan request then .ok (false, sys)
  else sendScan { sys with rx := { sys.rx with scanHw := true } }

/-- `iwl_scan_initiate` with `IWL_SCAN_NORMAL`. -/
def iwlScanInitiate (request : ScanRequest) : Except Wait (Bool × RxSystem) :=
  if !sys.readyRf then .ok (false, sys)
  else if sys.rx.scanHw then .ok (false, sys)
  else if sys.scanAborting then .ok (false, sys)
  else do
    let sys := { sys with rx := { sys.rx with scanning := true }, scanType := .normal }
    let (started, sys) ← iwlagnRequestScan sys request
    if !started then
      return (false, { sys with rx := { sys.rx with scanning := false }, scanType := .normal })
    else return (true, sys)

/-- `iwl_complete_scan`. -/
def iwlCompleteScan : RxSystem := { sys with scanType := .normal, scanRequest := none }

/-- `iwl_process_scan_complete` from `out_settings` on. -/
def outSettings : Except Wait RxSystem := if !sys.readyRf then .ok sys else iwlagnPostScan env sys

/-- `iwl_process_scan_complete` of a scan that was on: a scan that was asked for during an internal one is
started, and the scan is over otherwise. -/
def endScan (aborted : Bool) : Except Wait RxSystem :=
  if sys.scanType ≠ .normal ∧ aborted = false then
    match sys.scanRequest with
    | none => outSettings env (iwlCompleteScan sys)
    | some request => do
      let (started, sys) ← iwlScanInitiate sys request
      if started then return sys else outSettings env (iwlCompleteScan sys)
  else outSettings env (iwlCompleteScan sys)

/-- The bits that `iwl_process_scan_complete` tests and clears. -/
def RxSystem.scanCleared : RxSystem :=
  { sys with rx := { sys.rx with scanComplete := false, scanning := false }, scanAborting := false }

/-- `iwl_process_scan_complete`. -/
def iwlProcessScanComplete : Except Wait RxSystem :=
  if !sys.rx.scanComplete then .ok sys
  else if !sys.rx.scanning then outSettings env sys.scanCleared
  else endScan env sys.scanCleared sys.scanAborting

/-! ### Handlers -/

/-- `IWL_DELAY_NEXT_FORCE_RF_RESET`. -/
def delayNextForceRfReset : BitVec 64 := 3000#64

/-- `iwl_force_rf_reset`: the request comes too early after the last one. -/
def RxSystem.rejectsReset (external : Bool) : Bool :=
  !external && sys.lastResetJiffies != 0 &&
    (env.jiffies - (sys.lastResetJiffies + delayNextForceRfReset)).slt 0

/-- `iwl_force_rf_reset`, with `iwl_internal_short_hw_scan`: `iwl_bg_start_internal_scan` begins with the
mutex. -/
def iwlForceRfReset (external : Bool) : Except Wait RxSystem :=
  if sys.rx.exitPending then .ok sys
  else if !sys.rx.anyAssociated then .ok sys
  else if sys.rejectsReset env external then .ok sys
  else
    let sys := { sys with lastResetJiffies := env.jiffies }
    if sys.gateBusy then .ok sys else .error .mutex

/-- What a handler calls. A channel switch, a register, a page and a wake-up wait for nothing;
`iwl_tt_handler` and `iwl_scan_cancel` queue nothing any more; and what `iwl_init_sensitivity` sends is
asynchronous. -/
def runCall : RxCall → Except Wait RxSystem
  | .forceRfReset external => iwlForceRfReset env sys external
  | .bgScanCompleted => if sys.gateBusy then .ok sys else iwlProcessScanComplete env sys
  | .chswitchDone _ | .temperature | .initSensitivity | .gp1Set | .gp1Clr | .mbxC | .scanCancel
  | .inputPacket | .notificationNotify => .ok sys

/-- The layout of the statistics in a packet. -/
def statisticsLayout (pkt : RxMemory) : Option StatsLayout :=
  if rxPacketPayloadLen pkt = BitVec.ofNat 32 btNotifStatistics.size then some btNotifStatistics
  else if rxPacketPayloadLen pkt = BitVec.ofNat 32 notifStatistics.size then some notifStatistics
  else none

/-- `iwlagn_recover_from_statistics` forces a reset: the counters of PLCP errors have risen too fast. -/
def statisticsReset (priv : RxPriv) (pkt : RxMemory) : Bool :=
  match statisticsLayout pkt with
  | none => false
  | some layout =>
    let msecs := jiffiesToMsecs (env.jiffies - priv.rxStatisticsJiffies)
    let delta := BitVec.ofNat 32 (dataAt pkt (layout.rxOfdm + ofdmPlcpErr) 4) -
      BitVec.ofNat 32 (leAt priv.statistics.rxOfdm ofdmPlcpErr 4) +
      BitVec.ofNat 32 (dataAt pkt (layout.rxOfdmHt + ofdmHtPlcpErr) 4) -
      BitVec.ofNat 32 (leAt priv.statistics.rxOfdmHt ofdmHtPlcpErr 4)
    !priv.exitPending && priv.anyAssociated && 99 ≤ msecs.toNat && priv.plcpDeltaThreshold != 0 &&
      !goodPlcpHealth priv.plcpDeltaThreshold delta msecs

/-- The bits that `iwl_rx_scan_complete_notif` writes. -/
def RxSystem.scanDone : RxSystem :=
  { sys with rx := { sys.rx with scanComplete := true, scanHw := false } }

/-- **A received packet**, on the thread that received it. -/
def rxRun (pkt : RxMemory) : Except Wait RxSystem :=
  if !sys.rx.entryCallable (packetHdr pkt).cmd then .error .astray
  else
    match rxHandlers (packetHdr pkt).cmd with
    | some .statistics | some .replyStatistics =>
      if statisticsReset env sys.rx pkt then runCall env sys (.forceRfReset false) else .ok sys
    | some .scanComplete => runCall env sys.scanDone .bgScanCompleted
    | _ => .ok sys

/-! ### When a command is due -/

/-- A scan was requested during the internal one that has completed. -/
def RxSystem.scanDue : Bool :=
  sys.rx.scanning && !sys.scanAborting && sys.scanType != .normal && sys.scanRequest.any sys.preparesScan

/-- The sleep command has changed. -/
def RxSystem.powerDue : Bool := sys.sleepCmd != sys.sleepCmdNext

/-- The power for transmitting has changed, and can be set. -/
def RxSystem.txPowerDue : Bool :=
  !sys.txPowerCalibDisabled && sys.txPowerUserLmt != sys.txPowerNext && txPowerMin ≤ sys.txPowerNext &&
    sys.txPowerNext ≤ sys.txPowerMax && (sys.contexts .bss).active == (sys.contexts .bss).staging

/-- The context has something staged that is valid, and is not stopped by a full queue. -/
def RxSystem.rxonDue (ctx : CtxId) : Bool :=
  let prepared := (sys.call env ctx).prepared
  let active := (sys.contexts ctx).active
  (sys.contexts ctx).staging != active && sys.alive && (sys.contexts ctx).isActive &&
    Rxon.iwlCheckRxonCmd prepared &&
    (Rxon.iwlFullRxonRequired prepared active || Rxon.sameRxonAssoc prepared active || sys.asyncRoom)

/-- The PAN context has parameters to send. -/
def RxSystem.panDue : Bool := sys.panValid && (sys.contexts .pan).isActive

/-- One of the settings that a scan has put off is to be sent. -/
def RxSystem.settingsDue : Bool :=
  sys.powerDue || sys.txPowerDue || sys.rxonDue env .bss || sys.panValid && sys.rxonDue env .pan ||
    sys.panDue

/-- **The thread comes back**: the command has an entry in the table, or no wait is registered. And the gate is busy,
or the packet is neither statistics that force a reset, soon enough after the last one, nor the end of a scan behind
which a command is due and goes out. -/
def rxClear (pkt : RxMemory) : Bool :=
  sys.rx.entryCallable (packetHdr pkt).cmd && (sys.gateBusy ||
    match rxHandlers (packetHdr pkt).cmd with
    | some .statistics | some .replyStatistics => !statisticsReset env sys.rx pkt || sys.rejectsReset env false
    | some .scanComplete => !(sys.passes && sys.readyRf && (sys.scanDue || sys.settingsDue env))
    | _ => true)

/-! ### Where the thread comes back -/

/-- The thread comes back, with a result like this. -/
def Returns {α : Type} (x : Except Wait α) (P : α → Prop) : Prop := ∃ a, x = .ok a ∧ P a

section Returns

variable {α β : Type} {x y : Except Wait α} {P : α → Prop} {Q : β → Prop}

theorem returns_ok {a : α} (holds : P a) : Returns (.ok a) P := ⟨a, rfl, holds⟩

theorem Returns.bind {f : α → Except Wait β} (first : Returns x P)
    (second : ∀ a, P a → Returns (f a) Q) : Returns (x >>= f) Q := by
  obtain ⟨a, rfl, holds⟩ := first
  exact second a holds

theorem Returns.mono {R : α → Prop} (first : Returns x P) (imp : ∀ a, P a → R a) : Returns x R := by
  obtain ⟨a, rfl, holds⟩ := first
  exact ⟨a, rfl, imp a holds⟩

theorem returns_ite {c : Prop} [Decidable c] (yes : c → Returns x P) (no : ¬ c → Returns y P) :
    Returns (if c then x else y) P := by
  by_cases h : c
  · rw [if_pos h]
    exact yes h
  · rw [if_neg h]
    exact no h

end Returns

/-! ### Where every command is refused -/

section Refused

variable {env sys} (refused : sys.passes = false)

include refused

theorem sendSync_refused : sendSync sys = .ok () := by
  unfold sendSync
  rw [refused]
  rfl

theorem setPanParams_refused : Returns (iwlagnSetPanParams sys) fun _ => True := by
  unfold iwlagnSetPanParams
  rw [sendSync_refused refused]
  exact returns_ite (fun _ => returns_ok trivial) fun _ =>
    returns_ite (fun _ => returns_ok trivial) fun _ => returns_ok trivial

theorem powerSetMode_refused (cmd : List UInt8) (force : Bool) :
    Returns (iwlPowerSetMode sys cmd force) fun result => result.2.passes = false := by
  have sent : sendSync { sys with sleepCmdNext := cmd } = .ok () := sendSync_refused refused
  unfold iwlPowerSetMode
  iterate 3 refine returns_ite (fun _ => returns_ok refused) fun _ => ?_
  rw [sent]
  exact returns_ok refused

theorem setTxPower_refused (txPower : Int) :
    Returns (iwlSetTxPower sys txPower) fun after => after.passes = false := by
  have sent : iwlagnSendTxPower { sys with txPowerNext := txPower, txPowerUserLmt := txPower } = .ok () := by
    unfold iwlagnSendTxPower
    split
    · rfl
    · exact sendSync_refused refused
  unfold iwlSetTxPower
  iterate 6 refine returns_ite (fun _ => returns_ok refused) fun _ => ?_
  rw [sent]
  exact returns_ok refused

theorem abortSwitch_refused (channel : UInt16) : (sys.abortSwitch channel).passes = false := by
  unfold RxSystem.abortSwitch
  split <;> exact refused

theorem sendRxon_refused (ctx : CtxId) (prepared image : Rxon.RxonCmd) :
    Returns (sendRxon sys ctx prepared image) fun after => after.passes = false := by
  have active : (sys.activate ctx prepared).passes = false := refused
  unfold sendRxon
  refine returns_ite (fun _ => returns_ite (fun _ => returns_ok refused) fun _ => ?_) fun _ => ?_
  · refine (setTxPower_refused active _).bind fun after refused => ?_
    exact (powerSetMode_refused refused _ _).bind fun result refused => returns_ok refused
  · rw [sendSync_refused refused]
    exact returns_ok refused

theorem commitRxon_refused (ctx : CtxId) :
    Returns (iwlagnCommitRxon env sys ctx) fun after => after.passes = false := by
  unfold iwlagnCommitRxon
  iterate 3 refine returns_ite (fun _ => returns_ok refused) fun _ => ?_
  exact sendRxon_refused (@abortSwitch_refused (sys.stage ctx _) refused _) ctx _ _

theorem commitStaged_refused (ctx : CtxId) :
    Returns (commitStaged env sys ctx) fun after => after.passes = false :=
  returns_ite (fun _ => returns_ok refused) fun _ => commitRxon_refused refused ctx

theorem commitContexts_refused : Returns (commitContexts env sys) fun after => after.passes = false :=
  (commitStaged_refused refused .bss).bind fun _ refused =>
    returns_ite (fun _ => commitStaged_refused refused .pan) fun _ => returns_ok refused

theorem postScan_refused : Returns (iwlagnPostScan env sys) fun _ => True :=
  (powerSetMode_refused refused _ _).bind fun _ refused => (setTxPower_refused refused _).bind fun _ refused =>
    (commitContexts_refused refused).bind fun _ refused =>
      (setPanParams_refused refused).bind fun _ _ => returns_ok trivial

theorem sendScan_refused : Returns (sendScan sys) fun result => result.2.passes = false := by
  have cleared : ({ sys with rx := { sys.rx with scanHw := false } } : RxSystem).passes = false := refused
  refine (setPanParams_refused refused).bind fun set _ => returns_ite (fun _ => returns_ok cleared) fun _ => ?_
  rw [sendSync_refused refused]
  exact (setPanParams_refused cleared).bind fun _ _ => returns_ok cleared

theorem requestScan_refused (request : ScanRequest) :
    Returns (iwlagnRequestScan sys request) fun result => result.2.passes = false := by
  have started : ({ sys with rx := { sys.rx with scanHw := true } } : RxSystem).passes = false := refused
  exact returns_ite (fun _ => returns_ok refused) fun _ => sendScan_refused started

theorem scanInitiate_refused (request : ScanRequest) :
    Returns (iwlScanInitiate sys request) fun result => result.2.passes = false := by
  unfold iwlScanInitiate
  iterate 3 refine returns_ite (fun _ => returns_ok refused) fun _ => ?_
  have scanning : ({ sys with
      rx := { sys.rx with scanning := true }, scanType := .normal } : RxSystem).passes = false := refused
  refine (requestScan_refused scanning request).bind fun result refused => ?_
  exact returns_ite (fun _ => returns_ok refused) fun _ => returns_ok refused

end Refused

/-! ### Where commands pass -/

/-- Commands pass, and no scan is on. -/
structure RxSystem.Open : Prop where
  passes : sys.passes = true
  ready : sys.readyRf = true
  scanning : sys.rx.scanning = false
  scanHw : sys.rx.scanHw = false

/-- The thread waits for the answer to a command if one is due, and otherwise comes back. -/
def WaitsIf {α : Type} (due : Bool) (x : Except Wait α) (P : α → Prop) : Prop :=
  (due = true → x = .error .hcmdSync) ∧ (due = false → Returns x P)

section WaitsIf

variable {α β : Type} {due later : Bool} {x : Except Wait α} {P : α → Prop} {Q : β → Prop}

theorem waitsIf_ok {a : α} (holds : P a) : WaitsIf false (.ok a) P :=
  ⟨fun due => (nomatch due), fun _ => returns_ok holds⟩

theorem waitsIf_error : WaitsIf true (.error .hcmdSync) P := ⟨fun _ => rfl, fun idle => (nomatch idle)⟩

/-- What is due later counts where nothing was due before. -/
theorem WaitsIf.bind {f : α → Except Wait β} (first : WaitsIf due x P)
    (second : ∀ a, P a → WaitsIf later (f a) Q) : WaitsIf (due || later) (x >>= f) Q := by
  cases due with
  | true =>
    rw [first.1 rfl]
    exact waitsIf_error
  | false =>
    obtain ⟨a, rfl, holds⟩ := first.2 rfl
    exact second a holds

/-- What is behind a wait is not reached. -/
theorem WaitsIf.before (waits : WaitsIf true x P) (f : α → Except Wait β) : WaitsIf true (x >>= f) Q := by
  rw [waits.1 rfl]
  exact waitsIf_error

/-- On a branch that comes back nothing is due. -/
theorem WaitsIf.unless {c : Prop} [Decidable c] {a : α} (back : c → due = false ∧ P a)
    (waits : ¬ c → WaitsIf due x P) : WaitsIf due (if c then .ok a else x) P := by
  by_cases h : c
  · rw [if_pos h, (back h).1]
    exact waitsIf_ok (back h).2
  · rw [if_neg h]
    exact waits h

theorem WaitsIf.congr {other : Bool} (waits : WaitsIf due x P) (same : due = other) : WaitsIf other x P :=
  same ▸ waits

theorem WaitsIf.mono {R : α → Prop} (waits : WaitsIf due x P) (imp : ∀ a, P a → R a) : WaitsIf due x R :=
  ⟨waits.1, fun idle => (waits.2 idle).mono imp⟩

theorem WaitsIf.error_iff (waits : WaitsIf due x P) (w : Wait) :
    x = .error w ↔ due = true ∧ w = .hcmdSync := by
  cases due with
  | true =>
    rw [waits.1 rfl]
    exact ⟨fun same => ⟨rfl, (Except.error.inj same).symm⟩, fun both => both.2 ▸ rfl⟩
  | false =>
    obtain ⟨a, rfl, -⟩ := waits.2 rfl
    exact iff_of_false (fun same => nomatch same) fun both => nomatch both.1

theorem WaitsIf.never_iff (waits : WaitsIf due x P) : (∀ w, x ≠ .error w) ↔ due = false := by
  cases due with
  | true => exact iff_of_false (fun never => never _ (waits.1 rfl)) (by decide)
  | false =>
    obtain ⟨a, rfl, -⟩ := waits.2 rfl
    exact iff_of_true (fun _ same => nomatch same) rfl

end WaitsIf

/-- What a commit that sends nothing leaves: the image is prepared, and a channel switch may be over. -/
def RxSystem.PreparedTo (ctx : CtxId) (after : RxSystem) : Prop :=
  ∃ staging pending, after = { sys with
    rx := { sys.rx with channelSwitchPending := pending }
    contexts := Function.update sys.contexts ctx { sys.contexts ctx with staging := staging } }

section Open

variable {env sys} {ctx : CtxId} {after : RxSystem}

theorem RxSystem.PreparedTo.refl (ctx : CtxId) : sys.PreparedTo ctx sys := by
  refine ⟨(sys.contexts ctx).staging, sys.rx.channelSwitchPending, ?_⟩
  rw [Function.update_eq_self]

theorem RxSystem.PreparedTo.abortSwitch (staging : Rxon.RxonCmd) (channel : UInt16) :
    sys.PreparedTo ctx ((sys.stage ctx staging).abortSwitch channel) := by
  unfold RxSystem.abortSwitch
  split
  · exact ⟨staging, false, rfl⟩
  · exact ⟨staging, sys.rx.channelSwitchPending, rfl⟩

theorem RxSystem.PreparedTo.open (prepared : sys.PreparedTo ctx after) (opened : sys.Open) : after.Open := by
  obtain ⟨staging, pending, rfl⟩ := prepared
  exact ⟨opened.passes, opened.ready, opened.scanning, opened.scanHw⟩

theorem RxSystem.PreparedTo.active (prepared : sys.PreparedTo ctx after) :
    (after.contexts ctx).active = (sys.contexts ctx).active := by
  obtain ⟨staging, pending, rfl⟩ := prepared
  dsimp only
  rw [Function.update_self]

theorem RxSystem.PreparedTo.asyncRoom (prepared : sys.PreparedTo ctx after) :
    after.asyncRoom = sys.asyncRoom := by
  obtain ⟨staging, pending, rfl⟩ := prepared
  rfl

theorem RxSystem.PreparedTo.panDue (prepared : sys.PreparedTo ctx after) : after.panDue = sys.panDue := by
  obtain ⟨staging, pending, rfl⟩ := prepared
  unfold RxSystem.panDue
  dsimp only
  rw [Function.update_apply]
  split
  · next same => rw [← same]
  · rfl

/-- A commit of one context leaves the other one as it was. -/
theorem RxSystem.PreparedTo.rxonDue (prepared : sys.PreparedTo .bss after) :
    after.rxonDue env .pan = sys.rxonDue env .pan := by
  obtain ⟨staging, pending, rfl⟩ := prepared
  rfl

theorem RxSystem.PreparedTo.panValid (prepared : sys.PreparedTo ctx after) : after.panValid = sys.panValid := by
  obtain ⟨staging, pending, rfl⟩ := prepared
  rfl

theorem sends {β : Type} {Q : β → Prop} (sys : RxSystem) (passes : sys.passes = true) (f : Unit → Except Wait β) :
    WaitsIf true (sendSync sys >>= f) Q := by
  have waits : sendSync sys = .error .hcmdSync := if_pos passes
  rw [waits]
  exact waitsIf_error

theorem setPanParams_waitsIf (passes : sys.passes = true) :
    WaitsIf sys.panDue (iwlagnSetPanParams sys) (· = true) := by
  unfold iwlagnSetPanParams
  refine .unless (fun invalid => ⟨by simp_all [RxSystem.panDue], rfl⟩) fun valid => ?_
  refine .unless (fun inactive => ⟨by simp_all [RxSystem.panDue], rfl⟩) fun active => ?_
  exact (sends sys passes _).congr (by simp_all [RxSystem.panDue])

variable (opened : sys.Open)

include opened

theorem powerSetMode_waitsIf :
    WaitsIf sys.powerDue (iwlPowerSetMode sys sys.sleepCmdNext false) (·.2 = sys) := by
  unfold iwlPowerSetMode
  refine .unless (fun same => ⟨by simp [RxSystem.powerDue, same.1], rfl⟩) fun differs => ?_
  refine .unless (fun unready => by simp [opened.ready] at unready) fun _ => ?_
  refine .unless (fun scanning => by simp [opened.scanning] at scanning) fun _ => ?_
  exact (sends { sys with sleepCmdNext := _ } opened.passes _).congr (by simp_all [RxSystem.powerDue])

theorem powerSetMode_forced (cmd : List UInt8) {P : Bool × RxSystem → Prop} :
    WaitsIf true (iwlPowerSetMode sys cmd true) P := by
  unfold iwlPowerSetMode
  refine .unless (fun same => (nomatch same.2)) fun _ => ?_
  refine .unless (fun unready => by simp [opened.ready] at unready) fun _ => ?_
  refine .unless (fun scanning => by simp at scanning) fun _ => ?_
  exact sends { sys with sleepCmdNext := _ } opened.passes _

theorem setTxPower_waitsIf : WaitsIf sys.txPowerDue (iwlSetTxPower sys sys.txPowerNext) (· = sys) := by
  unfold iwlSetTxPower
  refine .unless (fun disabled => ⟨by simp [RxSystem.txPowerDue, disabled], rfl⟩) fun enabled => ?_
  refine .unless (fun same => ⟨by simp [RxSystem.txPowerDue, same], rfl⟩) fun differs => ?_
  refine .unless (fun low => ⟨by simp [RxSystem.txPowerDue, not_le.mpr low], rfl⟩) fun above => ?_
  refine .unless (fun high => ⟨by simp [RxSystem.txPowerDue, not_le.mpr high], rfl⟩) fun below => ?_
  refine .unless (fun unready => by simp [opened.ready] at unready) fun _ => ?_
  refine .unless (fun defer => ⟨?_, rfl⟩) fun now => ?_
  · have staged := defer.resolve_left (by simp [opened.scanning])
    simp [RxSystem.txPowerDue, staged]
  · have due : sys.txPowerDue = true := by
      simp_all [RxSystem.txPowerDue]
    unfold iwlagnSendTxPower
    rw [if_neg (by simp [opened.scanHw])]
    exact (sends { sys with txPowerNext := _, txPowerUserLmt := _ } opened.passes _).congr due.symm

/-- A full RXON begins with a command, and the short one ends with one. -/
theorem sendRxon_waitsIf (prepared image : Rxon.RxonCmd) :
    WaitsIf (Rxon.iwlFullRxonRequired prepared (sys.contexts ctx).active ||
      Rxon.sameRxonAssoc prepared (sys.contexts ctx).active || sys.asyncRoom)
      (sendRxon sys ctx prepared image) (· = sys) := by
  have active : (sys.activate ctx prepared).Open :=
    ⟨opened.passes, opened.ready, opened.scanning, opened.scanHw⟩
  unfold sendRxon
  dsimp only
  cases full : Rxon.iwlFullRxonRequired prepared (sys.contexts ctx).active with
  | true => exact (sends sys opened.passes _).congr (by simp)
  | false =>
    refine .unless (fun stopped => ⟨?_, rfl⟩) fun goes => ?_
    · simp_all [sendAsync, opened.passes]
    · have goesOn : (Rxon.sameRxonAssoc prepared (sys.contexts ctx).active || sys.asyncRoom) = true := by
        rw [Bool.not_eq_true', Bool.not_eq_false] at goes
        simpa [sendAsync, opened.passes] using goes
      have tx : WaitsIf _ (iwlSetTxPower (sys.activate ctx prepared) sys.txPowerNext) _ :=
        setTxPower_waitsIf active
      have power (after : RxSystem) (same : after = sys.activate ctx prepared) : WaitsIf true
          (do
            let (_, sys) ← iwlPowerSetMode after after.builtSleepCmd true
            return sys) (· = sys) := by
        subst same
        exact (powerSetMode_forced (P := fun _ => True) active _).before _
      exact (tx.bind power).congr (by simp [goesOn])

/-- A context of `iwlagn_post_scan`. -/
theorem commitStaged_waitsIf (ctx : CtxId) :
    WaitsIf (sys.rxonDue env ctx) (commitStaged env sys ctx) (sys.PreparedTo ctx) := by
  have prepared : sys.PreparedTo ctx _ :=
    .abortSwitch (sys.call env ctx).prepared (sys.call env ctx).prepared.channel
  have sent := @sendRxon_waitsIf _ ctx (prepared.open opened) (sys.call env ctx).prepared
    (sys.call env ctx).image
  rw [prepared.active, prepared.asyncRoom] at sent
  unfold commitStaged iwlagnCommitRxon
  refine .unless (fun same => ⟨by simp [RxSystem.rxonDue, same], .refl ctx⟩) fun differs => ?_
  refine .unless (fun dead => ⟨by simp_all [RxSystem.rxonDue], .refl ctx⟩) fun alive => ?_
  refine .unless (fun inactive => ⟨by simp_all [RxSystem.rxonDue], .refl ctx⟩) fun active => ?_
  refine .unless (fun invalid => ⟨by simp_all [RxSystem.rxonDue], _, sys.rx.channelSwitchPending, rfl⟩)
    fun checked => ?_
  refine (sent.congr (by simp_all [RxSystem.rxonDue])).mono ?_
  rintro _ rfl
  exact prepared

theorem commitContexts_waitsIf : WaitsIf (sys.rxonDue env .bss || sys.panValid && sys.rxonDue env .pan)
    (commitContexts env sys) fun after => after.Open ∧ after.panDue = sys.panDue := by
  refine (commitStaged_waitsIf opened .bss).bind fun after prepared => ?_
  have pan := @commitStaged_waitsIf env _ (prepared.open opened) .pan
  rw [prepared.rxonDue] at pan
  rw [prepared.panValid]
  cases sys.panValid with
  | false => exact waitsIf_ok ⟨prepared.open opened, prepared.panDue⟩
  | true =>
    refine pan.mono fun later panPrepared => ?_
    exact ⟨panPrepared.open (prepared.open opened), panPrepared.panDue.trans prepared.panDue⟩

/-- **What a scan has put off is sent.** -/
theorem postScan_waitsIf : WaitsIf (sys.settingsDue env) (iwlagnPostScan env sys) fun _ => True := by
  have params (after : RxSystem) (committed : after.Open ∧ after.panDue = sys.panDue) : WaitsIf sys.panDue
      (do
        let _ ← iwlagnSetPanParams after
        return after) fun _ => True :=
    ((setPanParams_waitsIf committed.1.passes).bind fun _ _ => waitsIf_ok trivial).congr
      ((Bool.or_false _).trans committed.2)
  have settings (result : Bool × RxSystem) (same : result.2 = sys) :
      WaitsIf (sys.txPowerDue || (sys.rxonDue env .bss || sys.panValid && sys.rxonDue env .pan || sys.panDue))
        (do
          let sys ← iwlSetTxPower result.2 result.2.txPowerNext
          let sys ← commitContexts env sys
          let _ ← iwlagnSetPanParams sys
          return sys) fun _ => True := by
    rw [same]
    refine (setTxPower_waitsIf opened).bind ?_
    rintro _ rfl
    exact (commitContexts_waitsIf opened).bind params
  refine ((powerSetMode_waitsIf opened).bind settings).congr ?_
  unfold RxSystem.settingsDue
  simp only [Bool.or_assoc]

end Open

/-! ### Scans -/

section Scans

variable {env sys}

/-- The parameters of the PAN context are sent, or else the scan. -/
theorem sendScan_waits (passes : sys.passes = true) {P : Bool × RxSystem → Prop} :
    WaitsIf true (sendScan sys) P := by
  refine ((setPanParams_waitsIf passes).bind fun set done => ?_).congr (Bool.or_true _)
  rw [done]
  exact sends sys passes _

theorem requestScan_waitsIf (passes : sys.passes = true) (request : ScanRequest) :
    WaitsIf (sys.preparesScan request) (iwlagnRequestScan sys request) (· = (false, sys)) := by
  refine .unless (fun unprepared => ⟨by simpa using unprepared, rfl⟩) fun prepares => ?_
  rw [Bool.not_eq_true', Bool.not_eq_false] at prepares
  exact (@sendScan_waits { sys with rx := { sys.rx with scanHw := true } } passes _).congr prepares.symm

/-- A new scan that cannot be prepared leaves the scan that has completed. -/
theorem scanInitiate_waitsIf (opened : sys.Open) (idle : sys.scanAborting = false) (request : ScanRequest) :
    WaitsIf (sys.preparesScan request) (iwlScanInitiate sys request)
      (· = (false, { sys with scanType := .normal })) := by
  refine .unless (fun unready => by simp [opened.ready] at unready) fun _ => ?_
  refine .unless (fun scanHw => by simp [opened.scanHw] at scanHw) fun _ => ?_
  refine .unless (fun aborting => by simp [idle] at aborting) fun _ => ?_
  have stopped : { sys.rx with scanning := false } = sys.rx := by rw [← opened.scanning]
  have passes : ({ sys with
      rx := { sys.rx with scanning := true }, scanType := .normal } : RxSystem).passes = true := opened.passes
  refine ((requestScan_waitsIf passes request).bind fun result same => ?_).congr (Bool.or_false _)
  rw [same]
  refine waitsIf_ok ?_
  dsimp only
  rw [stopped]

theorem outSettings_waitsIf (opened : sys.Open) :
    WaitsIf (sys.settingsDue env) (outSettings env sys) fun _ => True :=
  .unless (fun unready => by simp [opened.ready] at unready) fun _ => postScan_waitsIf opened

theorem endScan_waitsIf (opened : sys.Open) (idle : sys.scanAborting = false) (aborted : Bool) :
    WaitsIf (!aborted && sys.scanType != .normal && sys.scanRequest.any sys.preparesScan || sys.settingsDue env)
      (endScan env sys aborted) fun _ => True := by
  have complete : WaitsIf (sys.settingsDue env) (outSettings env (iwlCompleteScan sys)) fun _ => True :=
    @outSettings_waitsIf env (iwlCompleteScan sys)
      ⟨opened.passes, opened.ready, opened.scanning, opened.scanHw⟩
  unfold endScan
  by_cases internal : sys.scanType ≠ .normal ∧ aborted = false
  · rw [if_pos internal, internal.2, bne_iff_ne.mpr internal.1]
    cases sys.scanRequest with
    | none => exact complete
    | some request =>
      refine (scanInitiate_waitsIf opened idle request).bind ?_
      rintro _ rfl
      exact complete
  · have none : (!aborted && sys.scanType != .normal) = false := by
      rw [← Bool.not_eq_true, Bool.and_eq_true, bne_iff_ne, Bool.not_eq_true']
      exact fun both => internal both.symm
    rw [if_neg internal, none]
    exact complete

theorem processScanComplete_open (passes : sys.passes = true) (ready : sys.readyRf = true)
    (complete : sys.rx.scanComplete = true) (scanHw : sys.rx.scanHw = false) :
    WaitsIf (sys.scanDue || sys.settingsDue env) (iwlProcessScanComplete env sys) fun _ => True := by
  have opened : sys.scanCleared.Open := ⟨passes, ready, rfl, scanHw⟩
  unfold iwlProcessScanComplete RxSystem.scanDue
  refine .unless (fun incomplete => by simp [complete] at incomplete) fun _ => ?_
  cases sys.rx.scanning with
  | false => exact @outSettings_waitsIf env _ opened
  | true => exact @endScan_waitsIf env _ opened rfl sys.scanAborting

end Scans

/-! ### Where no command goes out -/

section Blocked

variable {env sys} (blocked : (sys.passes && sys.readyRf) = false)

include blocked

theorem outSettings_blocked : Returns (outSettings env sys) fun _ => True := by
  refine returns_ite (fun _ => returns_ok trivial) fun ready => ?_
  rw [Bool.not_eq_true, Bool.not_eq_false'] at ready
  rw [ready, Bool.and_true] at blocked
  exact postScan_refused blocked

theorem scanInitiate_blocked (request : ScanRequest) :
    Returns (iwlScanInitiate sys request) fun result => (result.2.passes && result.2.readyRf) = false := by
  cases ready : sys.readyRf with
  | false => exact returns_ite (fun _ => returns_ok blocked) fun refused => absurd (by rw [ready]; rfl) refused
  | true =>
    rw [ready, Bool.and_true] at blocked
    refine (scanInitiate_refused blocked request).mono fun result refused => ?_
    rw [refused, Bool.false_and]

theorem endScan_blocked (aborted : Bool) : Returns (endScan env sys aborted) fun _ => True := by
  have complete {after : RxSystem} (blocked : (after.passes && after.readyRf) = false) :
      Returns (outSettings env (iwlCompleteScan after)) fun _ => True :=
    @outSettings_blocked env (iwlCompleteScan after) blocked
  unfold endScan
  refine returns_ite (fun _ => ?_) fun _ => complete blocked
  cases sys.scanRequest with
  | none => exact complete blocked
  | some request =>
    refine (scanInitiate_blocked blocked request).bind fun result blocked => ?_
    exact returns_ite (fun _ => returns_ok trivial) fun _ => complete blocked

theorem processScanComplete_blocked : Returns (iwlProcessScanComplete env sys) fun _ => True :=
  returns_ite (fun _ => returns_ok trivial) fun _ =>
    returns_ite (fun _ => @outSettings_blocked env sys.scanCleared blocked) fun _ =>
      @endScan_blocked env sys.scanCleared blocked sys.scanAborting

end Blocked

/-- **A completed scan sends a command** when a scan was asked for meanwhile that can be prepared, or else when
one of the settings is due; if commands go out at all. -/
theorem processScanComplete_waitsIf (complete : sys.rx.scanComplete = true) (scanHw : sys.rx.scanHw = false) :
    WaitsIf (sys.passes && sys.readyRf && (sys.scanDue || sys.settingsDue env))
      (iwlProcessScanComplete env sys) fun _ => True := by
  cases goes : sys.passes && sys.readyRf with
  | false => exact ⟨fun due => (nomatch due), fun _ => processScanComplete_blocked goes⟩
  | true =>
    rw [Bool.and_eq_true] at goes
    exact processScanComplete_open goes.1 goes.2 complete scanHw

/-! ### A packet -/

/-- Statistics that force a reset take the mutex, unless the gate is busy or the last reset was just before. -/
theorem statisticsReset_never_iff {pkt : RxMemory} (forces : statisticsReset env sys.rx pkt = true) :
    (∀ w, runCall env sys (.forceRfReset false) ≠ .error w) ↔
      (sys.gateBusy || sys.rejectsReset env false) = true := by
  have open' : sys.rx.exitPending = false ∧ sys.rx.anyAssociated = true := by
    unfold statisticsReset at forces
    split at forces
    · exact nomatch forces
    · simp_all
  unfold runCall iwlForceRfReset
  dsimp only
  rw [open'.1, open'.2]
  cases sys.gateBusy <;> cases RxSystem.rejectsReset env sys false <;> simp

/-- **The packets that the thread handles without waiting.** -/
theorem rxRun_never_iff (pkt : RxMemory) :
    (∀ w, rxRun env sys pkt ≠ .error w) ↔ rxClear env sys pkt = true := by
  have returns {P : Prop} (holds : P) : (∀ w, (.ok sys : Except Wait RxSystem) ≠ .error w) ↔ P :=
    iff_of_true (fun _ same => nomatch same) holds
  have statistics : (∀ w, (if statisticsReset env sys.rx pkt then runCall env sys (.forceRfReset false)
      else .ok sys) ≠ .error w) ↔
      (sys.gateBusy || (!statisticsReset env sys.rx pkt || sys.rejectsReset env false)) = true := by
    cases forces : statisticsReset env sys.rx pkt with
    | false => exact returns (by simp)
    | true => exact statisticsReset_never_iff env sys forces
  have scan : (∀ w, runCall env sys.scanDone .bgScanCompleted ≠ .error w) ↔
      (sys.gateBusy || !(sys.passes && sys.readyRf && (sys.scanDue || sys.settingsDue env))) = true := by
    have gate : sys.scanDone.gateBusy = sys.gateBusy := rfl
    unfold runCall
    rw [gate]
    cases sys.gateBusy with
    | true => exact iff_of_true (fun _ same => nomatch same) rfl
    | false =>
      rw [Bool.false_or, Bool.not_eq_true']
      exact (processScanComplete_waitsIf env sys.scanDone rfl rfl).never_iff
  unfold rxRun rxClear
  cases sys.rx.entryCallable (packetHdr pkt).cmd with
  | false => exact iff_of_false (fun never => never .astray rfl) Bool.false_ne_true
  | true => ?_
  rw [if_neg (by decide), Bool.true_and]
  cases rxHandlers (packetHdr pkt).cmd with
  | none => exact returns (by simp)
  | some handler =>
    cases handler with
    | statistics | replyStatistics => exact statistics
    | scanComplete => exact scan
    | replyError | csa | spectrumMeasure | pmSleep | pmDebugStatistics | beacon | addSta | noa | replyScan
    | scanStart | scanResults | cardState | missedBeacon | replyRxPhy | replyRx => exact returns (by simp)

/-! ### The handlers -/

/-- The calls run one after the other. -/
def runCalls : RxSystem → List RxCall → Except Wait RxSystem
  | sys, [] => .ok sys
  | sys, call :: later => do
    let sys ← runCall env sys call
    runCalls sys later

/-- What waits for nothing, whatever the state. -/
def quiet : RxCall → Bool
  | .forceRfReset _ | .bgScanCompleted => false
  | _ => true

section Dispatch

variable {env sys} {priv : RxPriv} {pkt : RxMemory}

theorem runCalls_quiet {calls : List RxCall} (all : calls.all quiet = true) (later : List RxCall) :
    runCalls env sys (calls ++ later) = runCalls env sys later := by
  induction calls with
  | nil => rfl
  | cons call calls ih =>
    rw [List.all_cons, Bool.and_eq_true] at all
    have first : runCall env sys call = .ok sys := by
      cases call with
      | forceRfReset _ | bgScanCompleted => exact nomatch all.1
      | _ => rfl
    change (runCall env sys call >>= fun sys => runCalls env sys (calls ++ later)) = _
    rw [first]
    exact ih all.2

/-- The handlers of statistics and of the end of a scan. -/
def mayWait : RxHandler → Bool
  | .replyStatistics | .statistics | .scanComplete => true
  | _ => false

theorem handler_quiet (handler : RxHandler) (never : mayWait handler = false) :
    Gives (handler.call env priv pkt) fun result => result.2.all quiet = true := by
  cases handler with
  | replyError | pmSleep | pmDebugStatistics | addSta | replyScan | scanStart | scanResults | replyRxPhy =>
    repeat refine gives_then fun _ => ?_
    exact gives_ok rfl
  | csa =>
    refine gives_ite (fun _ => gives_ok rfl) fun _ => gives_then fun _ => gives_then fun _ => ?_
    exact gives_ite (fun _ => gives_then fun _ => gives_ok rfl) fun _ => gives_then fun _ => gives_ok rfl
  | spectrumMeasure =>
    refine gives_then fun _ => gives_ite (fun _ => gives_ok rfl) fun _ => ?_
    exact gives_then fun _ => gives_ok rfl
  | beacon =>
    refine gives_ite (fun _ => ?_) fun _ => gives_then fun _ => gives_ok rfl
    exact gives_then fun _ => gives_then fun _ => gives_then fun _ => gives_ok rfl
  | noa =>
    refine gives_then fun _ => gives_ite (fun _ => gives_ok rfl) fun _ => gives_then fun _ => ?_
    exact gives_ite (fun _ => gives_then fun _ => gives_ok rfl) fun _ => gives_ok rfl
  | cardState =>
    refine gives_then fun flags => gives_ok ?_
    split <;> split <;> rfl
  | missedBeacon =>
    refine gives_then fun _ => gives_ite (fun _ => gives_then fun _ => gives_ok ?_) fun _ => gives_ok rfl
    split <;> rfl
  | replyRx =>
    refine gives_ite (fun _ => gives_ok rfl) fun _ => gives_then fun _ => gives_then fun _ => ?_
    iterate 3 refine gives_ite (fun _ => gives_ok rfl) fun _ => ?_
    refine gives_ite (fun _ => gives_ok rfl) fun _ => gives_then fun _ => gives_ok ?_
    split <;> rfl
  | replyStatistics | statistics | scanComplete => exact nomatch never

/-- The bits of the driver that decide what waits. -/
structure SameBits (priv priv' : RxPriv) : Prop where
  rfKillHw : priv'.rfKillHw = priv.rfKillHw
  exitPending : priv'.exitPending = priv.exitPending
  scanning : priv'.scanning = priv.scanning
  anyAssociated : priv'.anyAssociated = priv.anyAssociated

theorem recover_gives {layout : StatsLayout} (known : statisticsLayout pkt = some layout) :
    Gives (recoverFromStatistics env priv pkt layout)
      (· = if statisticsReset env priv pkt then [.forceRfReset false] else []) := by
  unfold recoverFromStatistics statisticsReset
  rw [known]
  dsimp only
  simp only [Bool.and_eq_true, Bool.not_eq_true', decide_eq_true_eq, bne_iff_ne]
  refine gives_ite (fun closed => gives_ok ?_) fun open' => gives_ite (fun off => gives_ok ?_) fun on => ?_
  · rw [if_neg]
    rintro ⟨⟨⟨⟨running, associated⟩, late⟩, -⟩, -⟩
    rcases closed with exit | alone | early
    · exact absurd (running.symm.trans exit) Bool.false_ne_true
    · exact alone associated
    · omega
  · exact (if_neg fun all => all.1.2 off).symm
  · refine gives_bind (field_yields pkt _ 4).gives ?_
    rintro _ rfl
    refine gives_bind (field_yields pkt _ 4).gives ?_
    rintro _ rfl
    refine gives_ok ?_
    simp only [not_or, not_not, not_lt] at open'
    obtain ⟨running, associated, late⟩ := open'
    have first := And.intro (And.intro (And.intro (Bool.eq_false_iff.mpr running) associated) late) on
    rw [if_congr (and_iff_right first) rfl rfl]
    cases goodPlcpHealth priv.plcpDeltaThreshold _
      (jiffiesToMsecs (env.jiffies - priv.rxStatisticsJiffies)) <;> rfl

/-- Statistics call for a reset first, if at all. -/
theorem statistics_gives : Gives (iwlagnRxStatistics env priv pkt) fun result => SameBits priv result.1 ∧
    ∃ later, later.all quiet = true ∧
      result.2 = (if statisticsReset env priv pkt then [.forceRfReset false] else []) ++ later := by
  have same : SameBits priv priv := ⟨rfl, rfl, rfl, rfl⟩
  have each {layout : StatsLayout} (known : statisticsLayout pkt = some layout) :
      Gives (rxStatisticsOf env priv pkt layout) fun result => SameBits priv result.1 ∧
        ∃ later, later.all quiet = true ∧
          result.2 = (if statisticsReset env priv pkt then [.forceRfReset false] else []) ++ later := by
    refine gives_then fun _ => gives_then fun _ => gives_bind (recover_gives known) ?_
    rintro _ rfl
    refine gives_then fun _ => gives_then fun _ => gives_ok ⟨⟨rfl, rfl, rfl, rfl⟩, _, ?_, rfl⟩
    split <;> rfl
  refine gives_ite (fun bt => each (if_pos bt)) fun notBt => ?_
  refine gives_ite (fun normal => each ((if_neg notBt).trans (if_pos normal))) fun other => gives_ok ?_
  have unknown : statisticsLayout pkt = none := (if_neg notBt).trans (if_neg other)
  have never : statisticsReset env priv pkt = false := by
    unfold statisticsReset
    rw [unknown]
  rw [never]
  exact ⟨same, [], rfl, rfl⟩

theorem scanComplete_gives : Gives (iwlRxScanCompleteNotif env priv pkt) fun result =>
    SameBits priv result.1 ∧ result.1.scanComplete = true ∧ result.1.scanHw = false ∧ result.2 = [.bgScanCompleted] := by
  refine gives_then fun _ => gives_ite (fun _ => gives_then fun status => gives_ok ?_) fun _ => gives_ok ?_
  · unfold scanBtStatus
    split <;> exact ⟨⟨rfl, rfl, rfl, rfl⟩, rfl, rfl, rfl⟩
  · exact ⟨⟨rfl, rfl, rfl, rfl⟩, rfl, rfl, rfl⟩

/-- The callbacks of waits change nothing that a handler looks at. -/
theorem notify_gives : Gives (iwlNotificationWaitNotify env priv pkt) fun result =>
    (∃ boot waits, waits.length = priv.notifWaits.length ∧ result.1 = priv.evaluated boot waits) ∧
      result.2.all quiet = true := by
  refine gives_bind (notificationWait_yields 0 priv.boot priv.notifWaits).gives ?_
  rintro ⟨boot, waits⟩ same
  refine gives_ok ⟨⟨boot, waits, same, rfl⟩, ?_⟩
  dsimp only
  split <;> rfl

/-- A reset looks only at these bits. -/
theorem forceRfReset_same (bits : SameBits sys.rx priv) (w : Wait) :
    iwlForceRfReset env { sys with rx := priv } false = .error w ↔ iwlForceRfReset env sys false = .error w := by
  have rejects : RxSystem.rejectsReset env { sys with rx := priv } false = sys.rejectsReset env false := rfl
  unfold iwlForceRfReset
  dsimp only
  rw [bits.exitPending, bits.anyAssociated, rejects]
  split_ifs <;> simp

/-- The end of a scan looks only at these bits. -/
theorem scanDone_same (bits : SameBits sys.rx priv) (complete : priv.scanComplete = true)
    (scanHw : priv.scanHw = false) (w : Wait) :
    iwlProcessScanComplete env { sys with rx := priv } = .error w ↔
      iwlProcessScanComplete env sys.scanDone = .error w := by
  have passes : ({ sys with rx := priv } : RxSystem).passes = sys.passes := by
    unfold RxSystem.passes
    rw [← bits.rfKillHw]
  have ready : ({ sys with rx := priv } : RxSystem).readyRf = sys.readyRf := by
    unfold RxSystem.readyRf
    rw [← bits.rfKillHw, ← bits.exitPending]
  have scan : ({ sys with rx := priv } : RxSystem).scanDue = sys.scanDue := by
    unfold RxSystem.scanDue
    rw [← bits.scanning]
    rfl
  rw [(processScanComplete_waitsIf env _ complete scanHw).error_iff, passes, ready, scan]
  exact ((processScanComplete_waitsIf env sys.scanDone rfl rfl).error_iff w).symm

theorem runCalls_all {calls : List RxCall} (all : calls.all quiet = true) :
    runCalls env sys calls = .ok sys := by
  have none := @runCalls_quiet env sys _ all []
  rwa [List.append_nil] at none

/-- Behind its first call, what a handler calls waits for nothing. -/
theorem runCalls_first {call : RxCall} {later : List RxCall} (all : later.all quiet = true) (w : Wait) :
    runCalls env sys (call :: later) = .error w ↔ runCall env sys call = .error w := by
  unfold runCalls
  cases runCall env sys call with
  | error wait => rfl
  | ok after =>
    change runCalls env after later = _ ↔ _
    rw [runCalls_all all]

/-- **What a packet runs is what its handler calls**, where the callbacks and the handler read nothing outside
the packet. -/
theorem rxRun_dispatch : Gives (iwlRxDispatch env sys.rx pkt) fun result =>
    ∀ w, rxRun env sys pkt = .error w ↔ runCalls env { sys with rx := result.1 } result.2 = .error w := by
  have none {sys sys' : RxSystem} (w : Wait) : (.ok sys : Except Wait RxSystem) = .error w ↔
      (.ok sys' : Except Wait RxSystem) = .error w :=
    iff_of_false (fun same => nomatch same) fun same => nomatch same
  refine gives_bind notify_gives ?_
  rintro ⟨_, notified⟩ ⟨⟨boot, waits, count, rfl⟩, allQuiet⟩
  have skip (after : RxSystem) (calls : List RxCall) := @runCalls_quiet env after notified allQuiet calls
  have statistics : Gives (iwlagnRxStatistics env (sys.rx.evaluated boot waits) pkt) fun result => ∀ w,
      (if statisticsReset env sys.rx pkt then runCall env sys (.forceRfReset false) else .ok sys) = .error w ↔
        runCalls env { sys with rx := result.1 } (notified ++ result.2) = .error w := by
    rintro ⟨after, calls⟩ handled w
    obtain ⟨bits, later, laterQuiet, rfl⟩ := statistics_gives _ handled
    have same : statisticsReset env (sys.rx.evaluated boot waits) pkt = statisticsReset env sys.rx pkt := rfl
    rw [skip, same]
    cases statisticsReset env sys.rx pkt with
    | false =>
      change _ ↔ runCalls env _ later = _
      rw [runCalls_all laterQuiet]
      exact none w
    | true =>
      change _ ↔ runCalls env _ (.forceRfReset false :: later) = _
      rw [runCalls_first laterQuiet]
      exact (forceRfReset_same ⟨bits.rfKillHw, bits.exitPending, bits.scanning, bits.anyAssociated⟩ w).symm
  unfold rxRun RxPriv.rxHandlerAt
  dsimp only
  rw [entryCallable_after boot count]
  cases sys.rx.entryCallable (packetHdr pkt).cmd with
  | false => exact fun _ same => nomatch same
  | true => ?_
  rw [if_pos rfl, ok_bind, if_neg (by decide)]
  cases rxHandlers (packetHdr pkt).cmd with
  | none =>
    refine gives_ok fun w => ?_
    rw [runCalls_all allQuiet]
    exact none w
  | some handler =>
    dsimp only
    cases may : mayWait handler with
    | false =>
      refine gives_bind (handler_quiet handler may) fun result all => gives_ok fun w => ?_
      rw [skip, runCalls_all all]
      cases handler with
      | statistics | replyStatistics | scanComplete => exact nomatch may
      | _ => exact none w
    | true =>
      cases handler with
      | statistics => exact gives_bind statistics fun result same => gives_ok same
      | replyStatistics =>
        refine gives_bind (gives_then fun _ => statistics) fun result same => gives_ok same
      | scanComplete =>
        refine gives_bind scanComplete_gives ?_
        rintro ⟨after, calls⟩ ⟨bits, complete, scanHw, rfl⟩
        refine gives_ok fun w => ?_
        rw [skip, runCalls_first rfl]
        unfold runCall
        dsimp only
        change (if sys.gateBusy = true then _ else _) = _ ↔ _
        by_cases busy : sys.gateBusy = true
        · rw [if_pos busy, if_pos busy]
          exact none w
        · rw [if_neg busy, if_neg busy]
          exact (scanDone_same ⟨bits.rfKillHw, bits.exitPending, bits.scanning, bits.anyAssociated⟩ complete
            scanHw w).symm
      | _ => exact nomatch may

end Dispatch

/-! ### Runs -/

/-- A packet, with what it finds, and what the other threads have changed since the last one. -/
structure RxTurn where
  env : RxEnv
  others : RxSystem → RxSystem
  pkt : RxMemory

/-- The thread handles one packet after the other. -/
def rxThread : RxSystem → List RxTurn → Except Wait RxSystem
  | sys, [] => .ok sys
  | sys, turn :: later => do
    let sys ← rxRun turn.env (turn.others sys) turn.pkt
    rxThread sys later

/-- Each packet is one that is handled without waiting, in the state that it finds. -/
def AllClear : RxSystem → List RxTurn → Prop
  | _, [] => True
  | sys, turn :: later => rxClear turn.env (turn.others sys) turn.pkt = true ∧
    ∀ after, rxRun turn.env (turn.others sys) turn.pkt = .ok after → AllClear after later

/-- **The thread comes back from every packet of a run** exactly when each packet is clear. -/
theorem rxWaits_iff (sys : RxSystem) (turns : List RxTurn) :
    (∀ w, rxThread sys turns ≠ .error w) ↔ AllClear sys turns := by
  induction turns generalizing sys with
  | nil => exact iff_of_true (fun _ same => nomatch same) trivial
  | cons turn later ih =>
    unfold AllClear
    rw [← rxRun_never_iff]
    unfold rxThread
    cases rxRun turn.env (turn.others sys) turn.pkt with
    | error w => exact iff_of_false (fun never => never w rfl) fun both => both.1 w rfl
    | ok after =>
      refine (ih after).trans ⟨fun clear => ⟨fun _ same => (nomatch same), ?_⟩, fun both => both.2 after rfl⟩
      rintro _ ⟨⟩
      exact clear

/-- A driver that is ready, where a sleep command was put off. -/
def dozing : RxSystem where
  rx := openPriv
  ready := true
  alive := true
  ctKill := false
  fwError := false
  scanAborting := false
  ucodeLoaded := true
  transRfkill := false
  transFwError := false
  transFwAlive := true
  gateBusy := false
  lastResetJiffies := 0#64
  scanType := .normal
  scanRequest := none
  scanCmdRoom := true
  hasBand := fun _ => true
  sleepCmd := [0, 0]
  sleepCmdNext := [1, 0]
  builtSleepCmd := [1, 0]
  txPowerCalibDisabled := false
  txPowerUserLmt := 15
  txPowerNext := 15
  maxTxPwrHalfDbm := 32
  panValid := false
  contexts := fun _ => ⟨true, .zero, .zero, none⟩
  useRtsForAggregation := false
  asyncRoom := true

/-- `SCAN_COMPLETE_NOTIFICATION`. -/
def scanCompletePkt : RxMemory := [16, 0, 0, 0] ++ [0x84, 0, 0, 0x80] ++ List.replicate 12 0

/-- `STATISTICS_NOTIFICATION` with 1000 PLCP errors. -/
def plcpErrorsPkt : RxMemory :=
  [0xe4, 0x01, 0, 0] ++ [0x9d, 0, 0, 0x80] ++ List.replicate 12 0 ++ [0xe8, 0x03, 0, 0] ++ List.replicate 464 0

/-- An associated driver that watches the errors. -/
def watching : RxSystem :=
  { dozing with rx := { openPriv with anyAssociated := true, plcpDeltaThreshold := 50 } }

/-- The end of a scan sends the sleep command and waits for its answer, and PLCP errors take the mutex. -/
theorem scanComplete_waits : rxThread dozing [⟨quietEnv, id, scanCompletePkt⟩] = .error .hcmdSync ∧
    rxThread watching [⟨{ quietEnv with jiffies := 1000#64 }, id, plcpErrorsPkt⟩] = .error .mutex :=
  ⟨rfl, rfl⟩

end IntelWifi.Dvm.RxWaits
