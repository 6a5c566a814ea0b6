/-
**Power modes, TX power and the RXON that they share.**

`iwl_power_set_mode` updates the RX chains of both contexts, which may commit an RXON; the commit sends the TX
power that was deferred and calls `iwl_power_set_mode` again, through `iwl_power_update_mode`. The functions are
embedded with all of this, beside what the firmware has accepted. The depth to which `iwl_power_set_mode` may
nest is an argument: without any left the result is `none`.

What a command comes to is an input, by the number of commands of its kind before it. The configuration stays as
it is during a call.
-/

import IntelWifi.Dvm.Rxon
import IntelWifi.Nvm.Eeprom

namespace IntelWifi.Dvm.Power

open Rxon
open Nvm (toS8)

/-! ### Power commands -/

/-- `struct iwl_powertable_cmd`. -/
structure PowertableCmd where
  flags : UInt16
  keepAliveSeconds : UInt8
  debugFlags : UInt8
  rxDataTimeout : UInt32
  txDataTimeout : UInt32
  sleepInterval : Vector UInt32 5
  keepAliveBeacons : UInt32
  deriving DecidableEq

/-- After a `memset`. -/
def PowertableCmd.zero : PowertableCmd := ⟨0, 0, 0, 0, 0, #v[0, 0, 0, 0, 0], 0⟩

def iwlPowerDriverAllowSleepMsk : UInt16 := 0x1
def iwlPowerPciPmMsk : UInt16 := 0x8

/-- `IWL_POWER_DRIVER_ALLOW_SLEEP_MSK` is set. -/
def PowertableCmd.allowsSleep (cmd : PowertableCmd) : Bool := cmd.flags &&& iwlPowerDriverAllowSleepMsk != 0

/-! ### RX chains -/

/-- `enum ieee80211_smps_mode`. -/
inductive SmpsMode where
  | automatic
  | off
  | static
  | dynamic
  deriving DecidableEq, Repr

/-- What `iwlagn_set_rxon_chain` reads, but for `STATUS_POWER_PMI`. -/
structure ChainConfig where
  /-- `chain_noise_data.active_chains`. -/
  activeChains : UInt32
  validRxAnt : UInt8
  smps : SmpsMode
  singleChainSufficient : Bool
  /-- Advanced BT coexistence, in full concurrency or under a high traffic load. -/
  btBusy : Bool

/-- `is_single_rx_stream`. -/
def isSingleRxStream (config : ChainConfig) : Bool := config.smps == .static || config.singleChainSufficient

/-- `first_antenna`. -/
def firstAntenna (mask : UInt8) : UInt8 := if mask &&& 1 ≠ 0 then 1 else if mask &&& 2 ≠ 0 then 2 else 4

/-- `iwl_get_active_rx_chain_count`. -/
def iwlGetActiveRxChainCount (config : ChainConfig) : UInt16 :=
  if config.btBusy then 2 else if isSingleRxStream config then 2 else 3

/-- `iwl_get_idle_rx_chain_count`. -/
def iwlGetIdleRxChainCount (config : ChainConfig) (activeCnt : UInt16) : UInt16 :=
  match config.smps with
  | .static | .dynamic => 1
  | .automatic | .off => activeCnt

/-- `iwl_count_chain_bitmap`. -/
def iwlCountChainBitmap (chainBitmap : UInt32) : UInt16 :=
  let chain (i : UInt32) : UInt32 := (chainBitmap >>> i) &&& 1
  (chain 0 + chain 1 + chain 2 + chain 3).toUInt16

/-- The `rx_chain` that `iwlagn_set_rxon_chain` computes, from the configuration and `STATUS_POWER_PMI`. -/
def rxChain (config : ChainConfig) (pmi : Bool) : UInt16 :=
  let activeChains := if config.activeChains ≠ 0 then config.activeChains else config.validRxAnt.toUInt32
  let activeChains := if config.btBusy then (firstAntenna activeChains.toUInt8).toUInt32 else activeChains
  let activeRxCnt := iwlGetActiveRxChainCount config
  let idleRxCnt := iwlGetIdleRxChainCount config activeRxCnt
  let validRxCnt := iwlCountChainBitmap activeChains
  let activeRxCnt := if validRxCnt < activeRxCnt then validRxCnt else activeRxCnt
  let idleRxCnt := if validRxCnt < idleRxCnt then validRxCnt else idleRxCnt
  let chain := (activeChains <<< 1).toUInt16 ||| activeRxCnt <<< 12 ||| idleRxCnt <<< 10
  -- `RXON_RX_CHAIN_MIMO_FORCE_MSK`
  if !isSingleRxStream config && 2 ≤ activeRxCnt && !pmi then chain ||| 0x4000 else chain &&& ~~~0x4000

/-! ### The device and its state -/

/-- What stays as it is. -/
structure Device where
  /-- `iwl_is_ready_rf`. -/
  readyRf : Bool
  /-- `IWL_TX_POWER_CALIB_DISABLED`. -/
  calibDisabled : Bool
  /-- `nvm_data->max_tx_pwr_half_dbm`. -/
  maxTxPwrHalfDbm : Int

/-- `chain_noise_data.state`. -/
inductive ChainNoiseState where
  | alive
  | accumulate
  | calibrated
  | done
  deriving DecidableEq, Repr

/-- What a call finds: the configuration, and what becomes of the commands. -/
structure Setup where
  alive : Bool
  /-- PAN is in `valid_contexts`. -/
  panValid : Bool
  /-- PAN's `is_active`. -/
  panActive : Bool
  vif : CtxId → Option Vif
  useRtsForAggregation : Bool
  swcrypto : Bool
  chainNoise : ChainNoiseState
  chains : ChainConfig
  busPm : Bool
  /-- What `iwl_power_build_cmd` builds when `force_cam` is not set. -/
  unforced : PowertableCmd
  /-- The commands of a commit, by the number of commits before. -/
  commitReply : Nat → CommitCommand → Reply
  /-- POWER_TABLE, by the number of those before. -/
  powerReply : Nat → Bool
  /-- TX_POWER_DBM, by the number of those before. -/
  txPowerReply : Nat → Bool

/-- `STATUS_SCANNING` and `STATUS_SCAN_HW`. -/
inductive ScanPhase where
  | none
  /-- `STATUS_SCANNING`. -/
  | scanning
  /-- Both. -/
  | hw
  deriving DecidableEq, Repr

/-- `power_data`, `STATUS_POWER_PMI`, and what became of the requests. -/
structure PowerData where
  sleepCmd : PowertableCmd
  sleepCmdNext : PowertableCmd
  pmi : Bool
  /-- The last command that the firmware accepted. -/
  accepted : Option PowertableCmd
  /-- The last command that was requested and not refused. -/
  requested : Option PowertableCmd
  /-- A power command failed. -/
  failed : Bool
  sent : Nat

/-- `tx_power_user_lmt` and `tx_power_next`, and what was sent. -/
structure TxData where
  txPowerUserLmt : Int
  txPowerNext : Int
  /-- The `global_lmt` that the firmware accepted last. -/
  globalLmt : Option Int
  sent : Nat

/-- The part of `struct iwl_priv` that the calls change. -/
structure Priv where
  staging : CtxId → RxonCmd
  /-- `active`, and what the firmware holds. -/
  rxon : RxonState
  power : PowerData
  tx : TxData
  phase : ScanPhase
  commits : Nat

/-- A return value. -/
inductive Ret where
  | ok
  | ebusy
  | einval
  | eio
  | eagain
  | failed
  deriving DecidableEq, Repr

/-- The staging image of a context is written. -/
def Priv.stage (st : Priv) (ctx : CtxId) (image : RxonCmd) : Priv :=
  { st with staging := Function.update st.staging ctx image }

/-- BSS's staging image is the active one. -/
def Priv.bssEqual (st : Priv) : Prop := st.rxon.active .bss = st.staging .bss

instance (st : Priv) : Decidable st.bssEqual := inferInstanceAs (Decidable (_ = _))

/-- `priv->valid_contexts`. -/
def Setup.valid (env : Setup) : CtxId → Bool
  | .bss => true
  | .pan => env.panValid

/-- `is_active`, which is always set for BSS. -/
def Setup.isActive (env : Setup) : CtxId → Bool
  | .bss => true
  | .pan => env.panActive

/-- `force_cam`, which nothing changes. -/
def forceCam : Bool := true

/-- `iwl_power_sleep_cam_cmd`. -/
def iwlPowerSleepCamCmd (env : Setup) : PowertableCmd :=
  { PowertableCmd.zero with flags := if env.busPm then iwlPowerPciPmMsk else 0 }

/-- `iwl_power_build_cmd`. -/
def iwlPowerBuildCmd (env : Setup) : PowertableCmd := if forceCam then iwlPowerSleepCamCmd env else env.unforced

/-! ### TX power -/

/-- `DIV_ROUND_UP` of an `int`. -/
def divRoundUp (n d : Int) : Int := (n + d - 1).tdiv d

/-- `iwl_set_tx_power` refuses no such power. -/
def Device.inRange (dev : Device) (txPower : Int) : Bool :=
  -- `IWLAGN_TX_POWER_TARGET_POWER_MIN`
  0 ≤ txPower && txPower ≤ divRoundUp dev.maxTxPwrHalfDbm 2

/-- The `global_lmt` of a limit, an `s8`. -/
def globalLmt (dev : Device) (txPowerUserLmt : Int) : Int :=
  let lmt := toS8 (2 * txPowerUserLmt)
  if dev.maxTxPwrHalfDbm < lmt then dev.maxTxPwrHalfDbm else lmt

/-- `iwlagn_send_tx_power`. -/
def iwlagnSendTxPower (dev : Device) (env : Setup) (st : Priv) : Ret × Priv :=
  if st.phase = .hw then (.eagain, st)
  else if env.txPowerReply st.tx.sent then
    (.ok, { st with tx := { st.tx with
      sent := st.tx.sent + 1, globalLmt := some (globalLmt dev st.tx.txPowerUserLmt) } })
  else (.failed, { st with tx := { st.tx with sent := st.tx.sent + 1 } })

/-- `iwl_set_tx_power`. -/
def iwlSetTxPower (dev : Device) (env : Setup) (st : Priv) (txPower : Int) (force : Bool) : Ret × Priv :=
  if dev.calibDisabled then (.ok, st)
  else if st.tx.txPowerUserLmt = txPower ∧ force = false then (.ok, st)
  else if !dev.inRange txPower then (.einval, st)
  else if !dev.readyRf then (.eio, st)
  else
    let st := { st with tx := { st.tx with txPowerNext := txPower } }
    -- while scanning or changing the channel
    if (st.phase ≠ .none ∨ ¬ st.bssEqual) ∧ force = false then (.ok, st)
    else
      let prevTxPower := st.tx.txPowerUserLmt
      let st := { st with tx := { st.tx with txPowerUserLmt := txPower } }
      match iwlagnSendTxPower dev env st with
      | (.ok, st) => (.ok, st)
      | (ret, st) =>
        (ret, { st with tx := { st.tx with txPowerUserLmt := prevTxPower, txPowerNext := prevTxPower } })

/-! ### Commits -/

/-- The commit of a context. The TX power that a connection ends with has its own replies. -/
def Setup.call (env : Setup) (st : Priv) (ctx : CtxId) : CommitCall where
  ctx := ctx
  staging := st.staging ctx
  vif := env.vif ctx
  isActive := env.isActive ctx
  alive := env.alive
  useRtsForAggregation := env.useRtsForAggregation
  swcrypto := env.swcrypto
  panActive := env.panValid && env.panActive
  reply := fun command => if command = .txPower then .ok else env.commitReply st.commits command

/-- The RXON_ASSOC of `iwlagn_commit_rxon`, and the TX power after it. -/
def fastRxon (dev : Device) (env : Setup) (call : CommitCall) (st : Priv) : Ret × Priv :=
  let (failed, rxon) := iwlagnSendRxonAssoc call st.rxon
  if failed.isSome then (.failed, { st with rxon := rxon })
  else
    let st := { st with rxon := rxon.activate call.ctx call.prepared }
    -- its return value is not looked at
    (.ok, (iwlSetTxPower dev env st st.tx.txPowerNext false).2)

/-- The full RXON of `iwlagn_commit_rxon`. -/
def fullRxon (dev : Device) (env : Setup) (call : CommitCall) (st : Priv) : Ret × Priv :=
  let (failed, rxon) := iwlagnRxonDisconn call st.rxon
  let st := { st with rxon := rxon }
  if failed.isSome then (.failed, st)
  else if call.panActive && !(call.reply .panParams).passed then (.failed, st)
  else if call.staging.assoc then
    let (failed, rxon) := iwlagnRxonConnect call st.rxon
    let st := { st with rxon := rxon }
    if failed.isSome then (.failed, st) else iwlSetTxPower dev env st st.tx.txPowerNext true
  else (.ok, st)

/-- One more commit. -/
def Priv.count (st : Priv) : Priv := { st with commits := st.commits + 1 }

/-- `iwlagn_commit_rxon`, which calls `iwl_power_update_mode` in the end. -/
def iwlagnCommitRxon (dev : Device) (env : Setup) (update : Priv → Option Priv) (st : Priv) (ctx : CtxId) :
    Option (Ret × Priv) :=
  let call := env.call st ctx
  let st := st.count
  if !call.alive then some (.ebusy, st)
  else if !call.isActive then some (.ok, st)
  else if !iwlCheckRxonCmd call.prepared then some (.einval, st.stage ctx call.prepared)
  else if !iwlFullRxonRequired call.prepared (st.rxon.active ctx) then
    match fastRxon dev env call (st.stage ctx call.prepared) with
    | (.ok, st) => (update st).map fun st => (.ok, st)
    | (ret, st) => some (ret, st)
  else some (fullRxon dev env call (st.stage ctx call.image))

/-! ### Power modes -/

/-- The command that a call of `iwl_power_set_mode` is given: one of its caller's, or `sleep_cmd_next` itself. -/
inductive CmdPointer where
  | given (cmd : PowertableCmd)
  | next

/-- What the pointer reaches. -/
def CmdPointer.read (cmd : CmdPointer) (power : PowerData) : PowertableCmd :=
  match cmd with
  | .given cmd => cmd
  | .next => power.sleepCmdNext

/-- The command is a request, not one that was requested before. -/
def CmdPointer.request (cmd : CmdPointer) (power : PowerData) : Option PowertableCmd :=
  match cmd with
  | .given cmd => some cmd
  | .next => power.requested

/-- `iwlagn_set_rxon_chain`. -/
def iwlagnSetRxonChain (env : Setup) (st : Priv) (ctx : CtxId) : Priv :=
  st.stage ctx { st.staging ctx with rxChain := rxChain env.chains st.power.pmi }

/-- A context's turn in `iwl_update_chain_flags`. -/
def updateChain (dev : Device) (env : Setup) (update : Priv → Option Priv) (st : Priv) (ctx : CtxId) : Option Priv :=
  if !env.valid ctx then some st
  else
    let st := iwlagnSetRxonChain env st ctx
    if (st.rxon.active ctx).rxChain ≠ (st.staging ctx).rxChain then
      (iwlagnCommitRxon dev env update st ctx).map Prod.snd
    else some st

/-- `iwl_update_chain_flags`. -/
def iwlUpdateChainFlags (dev : Device) (env : Setup) (update : Priv → Option Priv) (st : Priv) : Option Priv :=
  (updateChain dev env update st .bss).bind fun st => updateChain dev env update st .pan

/-- The chain noise calibration is not running. -/
def Setup.updateChains (env : Setup) : Bool := env.chainNoise == .done || env.chainNoise == .alive

/-- A new command goes to the firmware: PMI is set before, if the command allows sleep. -/
def PowerData.submit (power : PowerData) (cmd : PowertableCmd) : PowerData :=
  { power with pmi := power.pmi || cmd.allowsSleep, sent := power.sent + 1 }

/-- The firmware accepts it. -/
def PowerData.accept (power : PowerData) (cmd : PowertableCmd) : PowerData :=
  { power with accepted := some cmd, pmi := power.pmi && cmd.allowsSleep }

/-- `iwl_power_set_mode`, with so many calls of it at most on the stack. -/
def iwlPowerSetMode (dev : Device) (env : Setup) : Nat → Priv → CmdPointer → Bool → Option (Ret × Priv)
  | 0, _, _, _ => none
  | depth + 1, st, cmd, force =>
    if st.power.sleepCmd = cmd.read st.power ∧ force = false then
      some (.ok, { st with power := { st.power with requested := cmd.request st.power } })
    else if !dev.readyRf then some (.eio, st)
    else
      let st := { st with power := { st.power with
        sleepCmdNext := cmd.read st.power, requested := cmd.request st.power } }
      if st.phase ≠ .none ∧ force = false then some (.ok, st)
      else
        let sent := st.power.sent
        let st := { st with power := st.power.submit (cmd.read st.power) }
        if !env.powerReply sent then some (.failed, { st with power := { st.power with failed := true } })
        else
          let st := { st with power := st.power.accept (cmd.read st.power) }
          let update := fun st => (iwlPowerSetMode dev env depth st (.given (iwlPowerBuildCmd env)) true).map Prod.snd
          let updated := if env.updateChains then iwlUpdateChainFlags dev env update st else some st
          -- the pointer is read once more
          updated.map fun st => (.ok, { st with power := { st.power with sleepCmd := cmd.read st.power } })

/-- `iwl_power_update_mode`, forced. -/
def iwlPowerUpdateMode (dev : Device) (env : Setup) (depth : Nat) (st : Priv) : Option Priv :=
  (iwlPowerSetMode dev env depth st (.given (iwlPowerBuildCmd env)) true).map Prod.snd

/-- A context's turn at the end of `iwlagn_post_scan`. -/
def recommit (dev : Device) (env : Setup) (update : Priv → Option Priv) (st : Priv) (ctx : CtxId) : Option Priv :=
  if env.valid ctx ∧ st.staging ctx ≠ st.rxon.active ctx then
    (iwlagnCommitRxon dev env update st ctx).map Prod.snd
  else some st

/-- `iwlagn_post_scan`. -/
def iwlagnPostScan (dev : Device) (env : Setup) (depth : Nat) (st : Priv) : Option Priv :=
  (iwlPowerSetMode dev env depth st .next false).bind fun (_, st) =>
    let (_, st) := iwlSetTxPower dev env st st.tx.txPowerNext false
    (recommit dev env (iwlPowerUpdateMode dev env depth) st .bss).bind fun st =>
      recommit dev env (iwlPowerUpdateMode dev env depth) st .pan

/-! ### The start -/

/-- `priv` after its allocation, and a firmware that was sent nothing. -/
def Priv.zero : Priv where
  staging := fun _ => .zero
  rxon := .zero
  power := ⟨.zero, .zero, false, none, none, false, 0⟩
  tx := ⟨0, 0, none, 0⟩
  phase := .none
  commits := 0

/-- Two antennas, no PAN and no interface, and commands that succeed. -/
def Setup.plain : Setup where
  alive := true
  panValid := false
  panActive := false
  vif := fun _ => none
  useRtsForAggregation := true
  swcrypto := false
  chainNoise := .done
  chains := ⟨0x3, 0x3, .off, false, false⟩
  busPm := false
  unforced := .zero
  commitReply := fun _ _ => .ok
  powerReply := fun _ => true
  txPowerReply := fun _ => true

/-- A device that is ready, of 15 dBm. -/
def readyDevice : Device := ⟨true, false, 30⟩

end IntelWifi.Dvm.Power
