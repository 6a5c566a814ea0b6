/-
**The RXON images that the driver builds.**

The driver changes the staging image of a context piece by piece: the channel and its band, the HT mode, the antennas.
A commit prepares the image and refuses one that fails `iwl_check_rxon_cmd`.

* `iwlSetRxonHt_ok`, `iwlagnSetRxonChain_ok`: the channel mode is never the reserved one, the control channel lies high
  in 40 MHz only, and the numbers of idle and of active receivers fit the antennas.
* `iwlCheckRxonCmd_prepareImage`: a well-formed image, once prepared, passes the check.
* `step_keeps`: every piece of driver code that changes an image leaves it well formed.
* `run_commits`: so in every run no commit is refused.
-/

import IntelWifi.Dvm.StagedImage
import IntelWifi.Nvm.Eeprom
import IntelWifi.Porting.Bitfield

namespace IntelWifi.Dvm.Rxon

open IntelWifi.Nvm (Nl80211Band)

/-! ### What the images are built from -/

def rxonFlgShortPreambleMsk : UInt32 := 0x20
def rxonFlgCtrlChannelLocHiMsk : UInt32 := 0x400000
def rxonFlgHtProtMsk : UInt32 := 0x800000
def rxonFlgHt40ProtMsk : UInt32 := 0x1000000
def rxonFlgChannelModeMsk : UInt32 := 0x6000000
def rxonFlgChannelModeLegacy : UInt32 := 0x0
def rxonFlgChannelModePure40 : UInt32 := 0x2000000
def rxonFlgChannelModeMixed : UInt32 := 0x4000000
def rxonFilterAcceptGrpMsk : UInt32 := 0x4
def rxonFilterBconAwareMsk : UInt32 := 0x40
def rxonRxChainMimoForceMsk : UInt16 := 0x4000

/-- `RXON_DEV_TYPE_SNIFFER`. -/
def rxonDevTypeSniffer : UInt8 := 6

/-- A channel, as far as the images know it. -/
structure ImageChannel where
  hwValue : UInt16
  band : Nl80211Band

/-- `enum nl80211_iftype`, as `iwl_connection_init_rx_config` tells them apart. -/
inductive IfType where
  | ap
  | station
  | adhoc
  | monitor
  | other
  deriving DecidableEq, Repr

/-- What the images take from an interface. -/
structure ImageVif where
  type : IfType
  addr : EthAddr
  useShortSlot : Bool

/-- The `devtype` fields of a context. -/
structure CtxDevTypes where
  unusedDevtype : UInt8
  apDevtype : UInt8
  stationDevtype : UInt8
  ibssDevtype : UInt8

/-- `ctx->ht`. -/
structure CtxHt where
  enabled : Bool
  protection : UInt8
  is40mhz : Bool
  extensionChanOffset : UInt8

/-- `enum ieee80211_smps_mode`. -/
inductive SmpsMode where
  | automatic
  | off
  | static
  | dynamic
  | invalid
  deriving DecidableEq, Repr

/-- What `iwlagn_set_rxon_chain` reads. -/
structure ChainConfig where
  /-- `chain_noise_data.active_chains`. -/
  noiseActiveChains : Nat
  validRxAnt : Nat
  /-- Advanced coexistence, and `bt_full_concurrent` or a high traffic load. -/
  btOnlyA : Bool
  smps : SmpsMode
  singleChainSufficient : Bool
  /-- `STATUS_POWER_PMI`. -/
  powerPmi : Bool

/-! ### Building an image -/

/-- `iwl_set_flags_for_band`. -/
def iwlSetFlagsForBand (band : Nl80211Band) (useShortSlot : Bool) (flags : UInt32) : UInt32 :=
  match band with
  | .ghz5 =>
    let flags := flags &&& ~~~(rxonFlgBand24gMsk ||| rxonFlgAutoDetectMsk ||| rxonFlgCckMsk)
    flags ||| rxonFlgShortSlotMsk
  | .ghz2 =>
    let flags := if useShortSlot then flags ||| rxonFlgShortSlotMsk else flags &&& ~~~rxonFlgShortSlotMsk
    let flags := flags ||| rxonFlgBand24gMsk
    let flags := flags ||| rxonFlgAutoDetectMsk
    flags &&& ~~~rxonFlgCckMsk

/-- `iwl_connection_init_rx_config`: the image. -/
def iwlConnectionInitRxConfig (types : CtxDevTypes) (vif : Option ImageVif) (chan : ImageChannel) : RxonCmd :=
  let staging : RxonCmd := .zero
  let staging :=
    match vif with
    | none => { staging with devType := types.unusedDevtype }
    | some vif =>
      match vif.type with
      | .ap => { staging with devType := types.apDevtype }
      | .station => { staging with devType := types.stationDevtype, filterFlags := rxonFilterAcceptGrpMsk }
      | .adhoc =>
        { staging with
          devType := types.ibssDevtype
          flags := rxonFlgShortPreambleMsk
          filterFlags := rxonFilterBconAwareMsk ||| rxonFilterAcceptGrpMsk }
      | .monitor => { staging with devType := rxonDevTypeSniffer }
      | .other => staging
  let flags := iwlSetFlagsForBand chan.band ((vif.map ImageVif.useShortSlot).getD false) staging.flags
  { staging with
    channel := chan.hwValue
    -- clear both MIX and PURE40 mode flag
    flags := flags &&& ~~~(rxonFlgChannelModeMixed ||| rxonFlgChannelModePure40)
    nodeAddr := (vif.map ImageVif.addr).getD staging.nodeAddr
    ofdmHtSingleStreamBasicRates := 0xff
    ofdmHtDualStreamBasicRates := 0xff
    ofdmHtTripleStreamBasicRates := 0xff }

/-- `iwl_set_rxon_channel`: the image, and `priv->band`. -/
def iwlSetRxonChannel (chan : ImageChannel) (band : Nl80211Band) (staging : RxonCmd) : RxonCmd × Nl80211Band :=
  if staging.channel = chan.hwValue ∧ band = chan.band then (staging, band)
  else
    let flags :=
      match chan.band with
      | .ghz5 => staging.flags &&& ~~~rxonFlgBand24gMsk
      | .ghz2 => staging.flags ||| rxonFlgBand24gMsk
    ({ staging with channel := chan.hwValue, flags := flags }, chan.band)

/-- `first_antenna`. -/
def firstAntenna (mask : Nat) : Nat := if mask.testBit 0 then 1 else if mask.testBit 1 then 2 else 4

/-- `iwl_count_chain_bitmap`. -/
def iwlCountChainBitmap (chainBitmap : Nat) : Nat :=
  (chainBitmap.testBit 0).toNat + (chainBitmap.testBit 1).toNat + (chainBitmap.testBit 2).toNat +
    (chainBitmap.testBit 3).toNat

/-- `is_single_rx_stream`. -/
def ChainConfig.isSingleRxStream (config : ChainConfig) : Bool :=
  config.smps == .static || config.singleChainSufficient

/-- `iwl_get_active_rx_chain_count`. -/
def ChainConfig.activeRxChainCount (config : ChainConfig) : Nat :=
  if config.btOnlyA then 2 else if config.isSingleRxStream then 2 else 3

/-- `iwl_get_idle_rx_chain_count`. -/
def ChainConfig.idleRxChainCount (config : ChainConfig) (activeCnt : Nat) : Nat :=
  match config.smps with
  | .static | .dynamic => 1
  | .automatic | .off | .invalid => activeCnt

/-- `active_chains`. -/
def ChainConfig.activeChains (config : ChainConfig) : Nat :=
  let activeChains := if config.noiseActiveChains ≠ 0 then config.noiseActiveChains else config.validRxAnt
  if config.btOnlyA then firstAntenna activeChains else activeChains

/-- `iwlagn_set_rxon_chain`: the `rx_chain`. -/
def iwlagnSetRxonChain (config : ChainConfig) : UInt16 :=
  let rxChain := UInt16.ofNat config.activeChains <<< 1
  let activeRxCnt := config.activeRxChainCount
  let idleRxCnt := config.idleRxChainCount activeRxCnt
  let validRxCnt := iwlCountChainBitmap config.activeChains
  let activeRxCnt := if validRxCnt < activeRxCnt then validRxCnt else activeRxCnt
  let idleRxCnt := if validRxCnt < idleRxCnt then validRxCnt else idleRxCnt
  let rxChain := rxChain ||| UInt16.ofNat activeRxCnt <<< 12
  let rxChain := rxChain ||| UInt16.ofNat idleRxCnt <<< 10
  if !config.isSingleRxStream && 2 ≤ activeRxCnt && !config.powerPmi then rxChain ||| rxonRxChainMimoForceMsk
  else rxChain &&& ~~~rxonRxChainMimoForceMsk

/-- `iwl_is_ht40_tx_allowed` without a station. -/
def CtxHt.ht40TxAllowed (ht : CtxHt) : Bool := ht.enabled && ht.is40mhz

/-- The HT flags that are cleared where there is no HT. -/
def clearHtFlags (flags : UInt32) : UInt32 :=
  flags &&& ~~~(rxonFlgChannelModeMsk ||| rxonFlgCtrlChannelLocHiMsk ||| rxonFlgHt40ProtMsk ||| rxonFlgHtProtMsk)

/-- The flags of a channel of 40 MHz. -/
def ht40Flags (protection extensionChanOffset : UInt8) (flags : UInt32) : UInt32 :=
  -- `IEEE80211_HT_OP_MODE_PROTECTION_20MHZ`, then `IEEE80211_HT_PARAM_CHA_SEC_ABOVE` and `_BELOW`
  if protection = 2 then
    let flags := flags ||| rxonFlgChannelModePure40
    if extensionChanOffset = 1 then flags &&& ~~~rxonFlgCtrlChannelLocHiMsk
    else if extensionChanOffset = 3 then flags ||| rxonFlgCtrlChannelLocHiMsk
    else flags
  else if extensionChanOffset = 1 then flags &&& ~~~rxonFlgCtrlChannelLocHiMsk ||| rxonFlgChannelModeMixed
  else if extensionChanOffset = 3 then (flags ||| rxonFlgCtrlChannelLocHiMsk) ||| rxonFlgChannelModeMixed
  else flags

/-- `_iwl_set_rxon_ht`. -/
def iwlSetRxonHt (ht : CtxHt) (config : ChainConfig) (rxon : RxonCmd) : RxonCmd :=
  if !ht.enabled then { rxon with flags := clearHtFlags rxon.flags }
  else
    let flags := rxon.flags ||| ht.protection.toUInt32 <<< 23
    let flags := flags &&& ~~~(rxonFlgChannelModeMsk ||| rxonFlgCtrlChannelLocHiMsk)
    let flags :=
      if ht.ht40TxAllowed then ht40Flags ht.protection ht.extensionChanOffset flags
      else flags ||| rxonFlgChannelModeLegacy
    { rxon with flags := flags, rxChain := iwlagnSetRxonChain config }

/-! ### The driver code that changes images -/

/-- The images of both contexts, and what goes with them. -/
structure ImageState where
  staging : CtxId → RxonCmd
  band : Nl80211Band
  /-- `STATUS_CHANNEL_SWITCH_PENDING`. -/
  switchPending : Bool
  switchChannel : UInt16

/-- What the driver does with images, with what it reads for that. -/
inductive ImageAct where
  /-- `iwl_alive_start` when the device is not associated. -/
  | aliveStart (types : CtxId → CtxDevTypes) (vif : CtxId → Option ImageVif) (chan : ImageChannel)
      (config : ChainConfig)
  /-- `iwl_alive_start` when it is. -/
  | aliveAssociated
  /-- The images of `iwl_set_mode`. -/
  | setMode (ctx : CtxId) (types : CtxDevTypes) (vif : Option ImageVif) (chan : ImageChannel) (config : ChainConfig)
  /-- `iwl_update_chain_flags`, of one context. -/
  | updateChainFlags (ctx : CtxId) (config : ChainConfig)
  /-- `iwl_set_rxon_ht`, as thermal throttling calls it too. -/
  | setRxonHt (ht : CtxId → CtxHt) (config : ChainConfig)
  /-- Thermal throttling where HT is not enabled. -/
  | noHt
  /-- `iwlagn_mac_channel_switch` past its guards; `accepted` is what `set_channel_switch` says. -/
  | channelSwitch (chan : ImageChannel) (ht : CtxId → CtxHt) (config : ChainConfig) (useShortSlot accepted : Bool)
  /-- `iwlagn_rx_csa`. -/
  | rxCsa (failed : Bool) (channel : UInt16) (exitPending : Bool)
  /-- `iwl_chswitch_done`. -/
  | chswitchDone (exitPending : Bool)
  /-- `iwlagn_commit_rxon`, whose call has the image of its context; `active` is the active one. -/
  | commit (call : CommitCall) (active : RxonCmd) (exitPending : Bool)

/-- The image of a context is replaced. -/
def ImageState.stage (st : ImageState) (ctx : CtxId) (image : RxonCmd) : ImageState :=
  { st with staging := Function.update st.staging ctx image }

/-- `iwl_connection_init_rx_config`, with `priv->band`. -/
def ImageState.initRxConfig (st : ImageState) (ctx : CtxId) (types : CtxDevTypes) (vif : Option ImageVif)
    (chan : ImageChannel) : ImageState :=
  { st.stage ctx (iwlConnectionInitRxConfig types vif chan) with band := chan.band }

def ImageState.setRxonChain (st : ImageState) (ctx : CtxId) (config : ChainConfig) : ImageState :=
  st.stage ctx { st.staging ctx with rxChain := iwlagnSetRxonChain config }

/-- `iwl_chswitch_done`. -/
def ImageState.chswitchDone (st : ImageState) (exitPending : Bool) : ImageState :=
  if exitPending then st else { st with switchPending := false }

/-- The call, with the image that is staged. -/
def ImageState.call (st : ImageState) (call : CommitCall) : CommitCall := { call with staging := st.staging call.ctx }

/-- What `iwlagn_commit_rxon` does to the images. -/
def ImageState.commit (st : ImageState) (call : CommitCall) (active : RxonCmd) (exitPending : Bool) : ImageState :=
  let call := st.call call
  if !call.alive || !call.isActive then st
  else
    let st := st.stage call.ctx call.prepared
    if !iwlCheckRxonCmd call.prepared then st
    else
      let st :=
        if st.switchPending && st.switchChannel != call.prepared.channel then st.chswitchDone exitPending else st
      if iwlFullRxonRequired call.prepared active then st.stage call.ctx call.image else st

def imageStep (st : ImageState) : ImageAct → ImageState
  | .aliveStart types vif chan config =>
    let st := (st.initRxConfig .bss (types .bss) (vif .bss) chan).initRxConfig .pan (types .pan) (vif .pan) chan
    st.setRxonChain .bss config
  | .aliveAssociated =>
    st.stage .bss { st.staging .bss with filterFlags := (st.staging .bss).filterFlags ||| rxonFilterAssocMsk }
  | .setMode ctx types vif chan config => (st.initRxConfig ctx types vif chan).setRxonChain ctx config
  | .updateChainFlags ctx config => st.setRxonChain ctx config
  | .setRxonHt ht config => { st with staging := fun ctx => iwlSetRxonHt (ht ctx) config (st.staging ctx) }
  | .noHt =>
    { st with staging := fun ctx => { st.staging ctx with flags := clearHtFlags (st.staging ctx).flags } }
  | .channelSwitch chan ht config useShortSlot accepted =>
    let image := st.staging .bss
    let image := if image.channel ≠ chan.hwValue then { image with flags := 0 } else image
    let (image, band) := iwlSetRxonChannel chan st.band image
    let st := { st.stage .bss image with band := band }
    let st := { st with staging := fun ctx => iwlSetRxonHt (ht ctx) config (st.staging ctx) }
    let image := st.staging .bss
    let st := st.stage .bss { image with flags := iwlSetFlagsForBand chan.band useShortSlot image.flags }
    if accepted then { st with switchPending := true, switchChannel := chan.hwValue }
    else { st with switchPending := false, switchChannel := 0 }
  | .rxCsa failed channel exitPending =>
    if !st.switchPending then st
    else if !failed && channel == st.switchChannel then
      (st.stage .bss { st.staging .bss with channel := channel }).chswitchDone exitPending
    else st.chswitchDone exitPending
  | .chswitchDone exitPending => st.chswitchDone exitPending
  | .commit call active exitPending => st.commit call active exitPending

/-- What the driver's callers give: channels that exist, unicast addresses, and one to three antennas. -/
def ImageChannel.Valid (chan : ImageChannel) : Prop := chan.hwValue ≠ 0

structure ImageVif.Valid (vif : ImageVif) : Prop where
  unicast : vif.addr.get 0 &&& 1 = 0

def ChainConfig.Valid (config : ChainConfig) : Prop :=
  config.noiseActiveChains ≤ 7 ∧ 0 < config.validRxAnt ∧ config.validRxAnt ≤ 7

def ImageAct.Valid : ImageAct → Prop
  | .aliveStart _ vif chan config => (∀ ctx, ∀ v ∈ vif ctx, v.Valid) ∧ chan.Valid ∧ config.Valid
  | .setMode _ _ vif chan config => (∀ v ∈ vif, v.Valid) ∧ chan.Valid ∧ config.Valid
  | .updateChainFlags _ config | .setRxonHt _ config => config.Valid
  | .channelSwitch chan _ config _ _ => chan.Valid ∧ config.Valid
  | .aliveAssociated | .noHt | .rxCsa .. | .chswitchDone _ | .commit .. => True

/-! ### Well-formed images -/

/-- A bit of the flags. -/
def hasFlag (flags : UInt32) (i : Nat) : Bool := flags.toBitVec.getLsbD i

/-- The flags that the check looks for are not set, the channel mode is not `CHANNEL_MODE_RESERVED`, and the control
channel is high in a mode of 40 MHz only. -/
structure FlagsOk (flags : UInt32) : Prop where
  cck : hasFlag flags 1 = false
  tggProtect : hasFlag flags 3 = false
  radarDetect : hasFlag flags 12 = false
  tgjNarrowBand : hasFlag flags 13 = false
  mode : ¬ (hasFlag flags 25 = true ∧ hasFlag flags 26 = true)
  high : hasFlag flags 22 = true → hasFlag flags 25 = true ∨ hasFlag flags 26 = true

/-- The fields of an `rx_chain`. -/
def validChains (rxChain : UInt16) : Nat := ((rxChain >>> 1) &&& 7).toNat
def idleRxCnt (rxChain : UInt16) : Nat := ((rxChain >>> 10) &&& 3).toNat
def activeRxCnt (rxChain : UInt16) : Nat := ((rxChain >>> 12) &&& 3).toNat

/-- There are receivers, the idle ones are among the active ones, and these fit the antennas. -/
def ChainOk (rxChain : UInt16) : Prop :=
  0 < idleRxCnt rxChain ∧ idleRxCnt rxChain ≤ activeRxCnt rxChain ∧
    activeRxCnt rxChain ≤ iwlCountChainBitmap (validChains rxChain) ∧
    (rxChain &&& rxonRxChainMimoForceMsk = 0 ∨ 2 ≤ activeRxCnt rxChain)

instance (rxChain : UInt16) : Decidable (ChainOk rxChain) := by
  unfold ChainOk
  infer_instance

structure ImageOk (rxon : RxonCmd) : Prop where
  flags : FlagsOk rxon.flags
  nodeAddr : rxon.nodeAddr.get 0 &&& 1 = 0
  bssidAddr : rxon.bssidAddr.get 0 &&& 1 = 0
  assocId : rxon.assocId = 0
  channel : rxon.channel ≠ 0
  chain : rxon.rxChain = 0 ∨ ChainOk rxon.rxChain

structure ImagesOk (st : ImageState) : Prop where
  image : ∀ ctx, ImageOk (st.staging ctx)
  switch : st.switchPending = true → st.switchChannel ≠ 0

/-! ### Flags -/

section FlagFacts

variable {flags mask : UInt32} {i : Nat}

@[simp] theorem hasFlag_or : hasFlag (flags ||| mask) i = (hasFlag flags i || hasFlag mask i) := by
  rw [hasFlag, UInt32.toBitVec_or, BitVec.getLsbD_or]
  rfl

@[simp] theorem hasFlag_and : hasFlag (flags &&& mask) i = (hasFlag flags i && hasFlag mask i) := by
  rw [hasFlag, UInt32.toBitVec_and, BitVec.getLsbD_and]
  rfl

/-- What is not among these flags can be set. -/
theorem FlagsOk.or (ok : FlagsOk flags) (apart : ∀ i ∈ [1, 3, 12, 13, 22, 25, 26], hasFlag mask i = false) :
    FlagsOk (flags ||| mask) := by
  simp only [List.forall_mem_cons, List.not_mem_nil, false_imp_iff, implies_true, and_true] at apart
  obtain ⟨cck, tgg, radar, tgj, high, pure, mixed⟩ := apart
  constructor <;> simp [*, ok.cck, ok.tggProtect, ok.radarDetect, ok.tgjNarrowBand]
  · simpa using ok.mode
  · exact ok.high

/-- What leaves the mode can be cleared. -/
theorem FlagsOk.and (ok : FlagsOk flags) (kept : ∀ i ∈ [25, 26], hasFlag mask i = true) :
    FlagsOk (flags &&& mask) := by
  simp only [List.forall_mem_cons, List.not_mem_nil, false_imp_iff, implies_true, and_true] at kept
  obtain ⟨pure, mixed⟩ := kept
  constructor <;> simp [*, ok.cck, ok.tggProtect, ok.radarDetect, ok.tgjNarrowBand]
  · simpa using ok.mode
  · exact fun high _ => ok.high high

/-- The cleared flags. -/
theorem FlagsOk.zero : FlagsOk 0 := by
  constructor <;> decide

theorem iwlSetFlagsForBand_ok (ok : FlagsOk flags) (band : Nl80211Band) (useShortSlot : Bool) :
    FlagsOk (iwlSetFlagsForBand band useShortSlot flags) := by
  unfold iwlSetFlagsForBand
  cases band with
  | ghz2 =>
    have slot : FlagsOk (if useShortSlot then flags ||| rxonFlgShortSlotMsk else flags &&& ~~~rxonFlgShortSlotMsk) := by
      split
      · exact ok.or (by decide)
      · exact ok.and (by decide)
    exact ((slot.or (by decide)).or (by decide)).and (by decide)
  | ghz5 => exact (ok.and (by decide)).or (by decide)

theorem clearHtFlags_ok (ok : FlagsOk flags) : FlagsOk (clearHtFlags flags) := by
  have none (i : Nat) (cleared : hasFlag (~~~(rxonFlgChannelModeMsk ||| rxonFlgCtrlChannelLocHiMsk |||
      rxonFlgHt40ProtMsk ||| rxonFlgHtProtMsk)) i = false) : hasFlag (clearHtFlags flags) i = false := by
    unfold clearHtFlags
    rw [hasFlag_and, cleared, Bool.and_false]
  constructor
  · simp [clearHtFlags, ok.cck]
  · simp [clearHtFlags, ok.tggProtect]
  · simp [clearHtFlags, ok.radarDetect]
  · simp [clearHtFlags, ok.tgjNarrowBand]
  · rw [none 25 (by decide)]
    exact fun both => Bool.false_ne_true both.1
  · rw [none 22 (by decide)]
    exact fun high => absurd high Bool.false_ne_true

/-- In no 40 MHz mode, with a low control channel. -/
structure Legacy (flags : UInt32) : Prop where
  cck : hasFlag flags 1 = false
  tggProtect : hasFlag flags 3 = false
  radarDetect : hasFlag flags 12 = false
  tgjNarrowBand : hasFlag flags 13 = false
  pure : hasFlag flags 25 = false
  mixed : hasFlag flags 26 = false
  high : hasFlag flags 22 = false

theorem Legacy.ok (legacy : Legacy flags) : FlagsOk flags := by
  refine ⟨legacy.cck, legacy.tggProtect, legacy.radarDetect, legacy.tgjNarrowBand, fun both => ?_, fun high => ?_⟩
  · rw [legacy.pure] at both
    exact Bool.false_ne_true both.1
  · rw [legacy.high] at high
    cases high

/-- The flags that HT of 20 MHz has. -/
theorem legacy_ht (ok : FlagsOk flags) (protection : UInt8) :
    Legacy ((flags ||| protection.toUInt32 <<< 23) &&& ~~~(rxonFlgChannelModeMsk ||| rxonFlgCtrlChannelLocHiMsk)) := by
  have low (i : Nat) (below : i < 23) : hasFlag (protection.toUInt32 <<< 23) i = false := by
    rw [hasFlag, UInt32.toBitVec_shiftLeft]
    simp [below]
  constructor
  · rw [hasFlag_and, hasFlag_or, ok.cck, low 1 (by decide)]
    rfl
  · rw [hasFlag_and, hasFlag_or, ok.tggProtect, low 3 (by decide)]
    rfl
  · rw [hasFlag_and, hasFlag_or, ok.radarDetect, low 12 (by decide)]
    rfl
  · rw [hasFlag_and, hasFlag_or, ok.tgjNarrowBand, low 13 (by decide)]
    rfl
  all_goals
    rw [hasFlag_and]
    exact Bool.and_false _

/-- A mode is set, and the control channel with it. -/
theorem Legacy.or (legacy : Legacy flags) (apart : ∀ i ∈ [1, 3, 12, 13], hasFlag mask i = false)
    (mode : ¬ (hasFlag mask 25 = true ∧ hasFlag mask 26 = true))
    (high : hasFlag mask 22 = true → hasFlag mask 25 = true ∨ hasFlag mask 26 = true) :
    FlagsOk (flags ||| mask) := by
  simp only [List.forall_mem_cons, List.not_mem_nil, false_imp_iff, implies_true, and_true] at apart
  obtain ⟨cck, tgg, radar, tgj⟩ := apart
  constructor <;> simp [*, legacy.cck, legacy.tggProtect, legacy.radarDetect, legacy.tgjNarrowBand, legacy.pure,
    legacy.mixed, legacy.high]
  exact high

theorem Legacy.and (legacy : Legacy flags) (kept : UInt32) : Legacy (flags &&& kept) := by
  constructor <;> simp [legacy.cck, legacy.tggProtect, legacy.radarDetect, legacy.tgjNarrowBand, legacy.pure,
    legacy.mixed, legacy.high]

theorem ht40Flags_ok (legacy : Legacy flags) (protection extensionChanOffset : UInt8) :
    FlagsOk (ht40Flags protection extensionChanOffset flags) := by
  unfold ht40Flags
  dsimp only
  split_ifs
  · exact (legacy.or (by decide) (by decide) (by decide)).and (by decide)
  · rw [UInt32.or_assoc]
    exact legacy.or (by decide) (by decide) (by decide)
  · exact legacy.or (by decide) (by decide) (by decide)
  · exact (legacy.and _).or (by decide) (by decide) (by decide)
  · rw [UInt32.or_assoc]
    exact legacy.or (by decide) (by decide) (by decide)
  · exact legacy.ok

end FlagFacts

/-! ### Antennas -/

theorem activeChains_valid {config : ChainConfig} (valid : config.Valid) :
    0 < config.activeChains ∧ config.activeChains ≤ 7 := by
  obtain ⟨noise, some_ant, ants⟩ := valid
  have here : 0 < (if config.noiseActiveChains ≠ 0 then config.noiseActiveChains else config.validRxAnt) ∧
      (if config.noiseActiveChains ≠ 0 then config.noiseActiveChains else config.validRxAnt) ≤ 7 := by
    split_ifs <;> omega
  unfold ChainConfig.activeChains
  dsimp only
  generalize (if config.noiseActiveChains ≠ 0 then config.noiseActiveChains else config.validRxAnt) = chains
    at here ⊢
  unfold firstAntenna
  split_ifs <;> omega

/-- What is put into an `rx_chain`. -/
def rxChainOf (chains active idle : Nat) (force : Bool) : UInt16 :=
  let rxChain := UInt16.ofNat chains <<< 1
  let rxChain := rxChain ||| UInt16.ofNat active <<< 12
  let rxChain := rxChain ||| UInt16.ofNat idle <<< 10
  if force then rxChain ||| rxonRxChainMimoForceMsk else rxChain &&& ~~~rxonRxChainMimoForceMsk

/-- Its fields come out again. -/
theorem rxChainOf_ok : ∀ chains < 8, ∀ active ≤ iwlCountChainBitmap chains, ∀ idle ≤ active,
    idle = 0 ∨
      ChainOk (rxChainOf chains active idle false) ∧ (active < 2 ∨ ChainOk (rxChainOf chains active idle true)) := by
  decide +kernel

theorem count_pos : ∀ chains < 8, 0 < chains → 0 < iwlCountChainBitmap chains := by
  decide

/-- **The receivers fit the antennas**, in every mode. -/
theorem iwlagnSetRxonChain_ok {config : ChainConfig} (valid : config.Valid) : ChainOk (iwlagnSetRxonChain config) := by
  obtain ⟨some_ant, ants⟩ := activeChains_valid valid
  have some_count := count_pos config.activeChains (by omega) some_ant
  have active : 2 ≤ config.activeRxChainCount := by
    unfold ChainConfig.activeRxChainCount
    split_ifs <;> omega
  have idle : 0 < config.idleRxChainCount config.activeRxChainCount ∧
      config.idleRxChainCount config.activeRxChainCount ≤ config.activeRxChainCount := by
    unfold ChainConfig.idleRxChainCount
    split <;> omega
  obtain ⟨activeCnt, is_active, activeCnt_pos, activeCnt_le⟩ : ∃ activeCnt, activeCnt =
      (if iwlCountChainBitmap config.activeChains < config.activeRxChainCount then
        iwlCountChainBitmap config.activeChains else config.activeRxChainCount) ∧
      0 < activeCnt ∧ activeCnt ≤ iwlCountChainBitmap config.activeChains := by
    refine ⟨_, rfl, ?_, ?_⟩ <;> split_ifs <;> omega
  obtain ⟨idleCnt, is_idle, idleCnt_pos, idleCnt_le⟩ : ∃ idleCnt, idleCnt =
      (if iwlCountChainBitmap config.activeChains < config.idleRxChainCount config.activeRxChainCount then
        iwlCountChainBitmap config.activeChains else config.idleRxChainCount config.activeRxChainCount) ∧
      0 < idleCnt ∧ idleCnt ≤ activeCnt := by
    refine ⟨_, rfl, ?_, ?_⟩
    · split_ifs <;> omega
    · rw [is_active]
      split_ifs <;> omega
  have fields := (rxChainOf_ok config.activeChains (by omega) activeCnt activeCnt_le idleCnt idleCnt_le).resolve_left
    (by omega)
  have here : iwlagnSetRxonChain config = rxChainOf config.activeChains activeCnt idleCnt
      (!config.isSingleRxStream && 2 ≤ activeCnt && !config.powerPmi) := by
    rw [is_active, is_idle]
    rfl
  rw [here]
  cases force : !config.isSingleRxStream && 2 ≤ activeCnt && !config.powerPmi with
  | false => exact fields.1
  | true =>
    rw [Bool.and_eq_true, Bool.and_eq_true, decide_eq_true_iff] at force
    exact fields.2.resolve_left (Nat.not_lt.mpr force.1.2)

/-! ### Images -/

section Images

variable {image : RxonCmd}

theorem ImageOk.withFlags (ok : ImageOk image) {flags : UInt32} (flagsOk : FlagsOk flags) :
    ImageOk { image with flags := flags } :=
  { ok with flags := flagsOk }

theorem ImageOk.withChain (ok : ImageOk image) {config : ChainConfig} (valid : config.Valid) :
    ImageOk { image with rxChain := iwlagnSetRxonChain config } :=
  { ok with chain := .inr (iwlagnSetRxonChain_ok valid) }

/-- The flags of a new image are those of its band, and maybe the short preamble. -/
theorem initFlags_ok (band : Nl80211Band) (useShortSlot : Bool) (shortPreamble : Bool) :
    FlagsOk (iwlSetFlagsForBand band useShortSlot (if shortPreamble then rxonFlgShortPreambleMsk else 0) &&&
      ~~~(rxonFlgChannelModeMixed ||| rxonFlgChannelModePure40)) := by
  cases band <;> cases useShortSlot <;> cases shortPreamble <;> constructor <;> decide

theorem iwlConnectionInitRxConfig_ok (types : CtxDevTypes) {vif : Option ImageVif} {chan : ImageChannel}
    (unicast : ∀ v ∈ vif, v.Valid) (valid : chan.Valid) : ImageOk (iwlConnectionInitRxConfig types vif chan) := by
  have flags (slot : Bool) := initFlags_ok chan.band slot
  have zero_even : zeroAddr.get 0 &&& 1 = 0 := by decide
  cases vif with
  | none => exact ⟨flags false false, zero_even, zero_even, rfl, valid, .inl rfl⟩
  | some vif =>
    obtain ⟨type, addr, useShortSlot⟩ := vif
    have address : addr.get 0 &&& 1 = 0 := (unicast _ rfl).unicast
    cases type with
    | adhoc => exact ⟨flags useShortSlot true, address, zero_even, rfl, valid, .inl rfl⟩
    | ap | station | monitor | other => exact ⟨flags useShortSlot false, address, zero_even, rfl, valid, .inl rfl⟩

theorem iwlSetRxonChannel_ok (ok : ImageOk image) {chan : ImageChannel} (valid : chan.Valid) (band : Nl80211Band) :
    ImageOk (iwlSetRxonChannel chan band image).1 := by
  unfold iwlSetRxonChannel
  split
  · exact ok
  · refine { ok with channel := valid, flags := ?_ }
    dsimp only
    split
    · exact ok.flags.and (by decide)
    · exact ok.flags.or (by decide)

theorem iwlSetRxonHt_ok (ok : ImageOk image) (ht : CtxHt) {config : ChainConfig} (valid : config.Valid) :
    ImageOk (iwlSetRxonHt ht config image) := by
  unfold iwlSetRxonHt
  split
  · exact ok.withFlags (clearHtFlags_ok ok.flags)
  · refine (ok.withChain valid).withFlags ?_
    split
    · exact ht40Flags_ok (legacy_ht ok.flags _) _ _
    · exact (legacy_ht ok.flags _).ok.or (by decide)

/-- The flags that a commit sets. -/
theorem preparedFlags_ok {flags : UInt32} (ok : FlagsOk flags) (useRts shortSlot : Bool) :
    FlagsOk (preparedFlags useRts shortSlot flags) := by
  have required : FlagsOk (requiredFlags useRts flags) := by
    unfold requiredFlags
    split
    · exact ok.or (by decide)
    · exact (ok.or (by decide)).or (by decide)
  unfold preparedFlags shortSlotFlags
  dsimp only
  split
  · exact required.or (by decide)
  · exact required.and (by decide)

theorem prepareImage_ok (ok : ImageOk image) (vif : Option Vif) (useRts : Bool) :
    ImageOk (prepareImage vif useRts image) :=
  { ok with flags := preparedFlags_ok ok.flags _ _ }

theorem iwlSetRxonHwcrypto_ok (ok : ImageOk image) (hwDecrypt : Bool) :
    ImageOk (iwlSetRxonHwcrypto image hwDecrypt) := by
  cases hwDecrypt
  · exact { ok with }
  · exact { ok with }

/-- A single bit. -/
theorem and_ne_zero_eq_hasFlag (flags mask : UInt32) (i : Nat) (bit : mask.toBitVec = BitVec.twoPow 32 i) :
    (flags &&& mask != 0) = hasFlag flags i := by
  rw [hasFlag, ← Porting.and_twoPow_ne_zero, ← bit]
  rw [Bool.eq_iff_iff, bne_iff_ne, bne_iff_ne, Ne, Ne, ← UInt32.toBitVec_inj, UInt32.toBitVec_and]
  rfl

/-- Without the flag of 2.4 GHz a commit sets the one of the short slot. -/
theorem shortSlot_preparedFlags (useRts shortSlot : Bool) (flags : UInt32)
    (ghz5 : hasFlag (preparedFlags useRts shortSlot flags) 0 = false) :
    hasFlag (preparedFlags useRts shortSlot flags) 4 = true := by
  have none : requiredFlags useRts flags &&& rxonFlgBand24gMsk = 0 := by
    have bit := and_ne_zero_eq_hasFlag (preparedFlags useRts shortSlot flags) rxonFlgBand24gMsk 0 (by decide)
    rw [ghz5, bne_eq_false_iff_eq, preparedFlags_band] at bit
    rw [requiredFlags_band, bit]
  unfold preparedFlags shortSlotFlags
  dsimp only
  rw [none, if_pos (by simp), hasFlag_or]
  exact Bool.or_true _

theorem u8_or_and (x y z : UInt8) : (x ||| y) &&& z = x &&& z ||| y &&& z := by
  apply UInt8.toBitVec_inj.mp
  show (x.toBitVec ||| y.toBitVec) &&& z.toBitVec = x.toBitVec &&& z.toBitVec ||| y.toBitVec &&& z.toBitVec
  ext i
  simp only [BitVec.getElem_or, BitVec.getElem_and]
  exact Bool.and_or_distrib_right _ _ _

theorem or_one_and_one (rates : UInt8) : (rates ||| 0x01) &&& 0x01 = 0x01 := by
  apply UInt8.toBitVec_inj.mp
  show (rates.toBitVec ||| 0x01#8) &&& 0x01#8 = 0x01#8
  ext i
  simp only [BitVec.getElem_or, BitVec.getElem_and]
  cases (0x01#8)[i]
  · exact Bool.and_false _
  · rw [Bool.or_true, Bool.and_true]

/-- **A prepared image passes the check**, if it is well formed. -/
theorem iwlCheckRxonCmd_prepareImage (ok : ImageOk image) (vif : Option Vif) (useRts : Bool) :
    iwlCheckRxonCmd (prepareImage vif useRts image) = true := by
  have prepared := prepareImage_ok ok vif useRts
  have band : hasFlag (prepareImage vif useRts image).flags 0 = false →
      hasFlag (prepareImage vif useRts image).flags 4 = true := shortSlot_preparedFlags _ _ _
  have cck : (prepareImage vif useRts image).cckBasicRates &&& 0x01 ≠ 0 := by
    show (_ ||| 0x01) &&& 0x01 ≠ (0 : UInt8)
    rw [or_one_and_one]
    decide
  generalize prepareImage vif useRts image = staging at *
  have addresses : (staging.nodeAddr.get 0 ||| staging.bssidAddr.get 0) &&& 1 = 0 := by
    rw [u8_or_and, prepared.nodeAddr, prepared.bssidAddr]
    rfl
  unfold iwlCheckRxonCmd
  simp only [and_ne_zero_eq_hasFlag _ rxonFlgBand24gMsk 0 (by decide),
    and_ne_zero_eq_hasFlag _ rxonFlgTgjNarrowBandMsk 13 (by decide),
    and_ne_zero_eq_hasFlag _ rxonFlgRadarDetectMsk 12 (by decide),
    and_ne_zero_eq_hasFlag _ rxonFlgShortSlotMsk 4 (by decide),
    and_ne_zero_eq_hasFlag _ rxonFlgCckMsk 1 (by decide),
    and_ne_zero_eq_hasFlag _ rxonFlgAutoDetectMsk 2 (by decide),
    and_ne_zero_eq_hasFlag _ rxonFlgTggProtectMsk 3 (by decide)]
  simp only [prepared.flags.cck, prepared.flags.tggProtect, prepared.flags.radarDetect, prepared.flags.tgjNarrowBand,
    prepared.assocId, addresses]
  cases is : hasFlag staging.flags 0 with
  | true => simp [prepared.channel, cck]
  | false => simp [band is, prepared.channel, cck]

end Images

/-! ### Steps -/

section Steps

variable {st : ImageState}

theorem ImagesOk.stage (ok : ImagesOk st) (ctx : CtxId) {image : RxonCmd} (imageOk : ImageOk image) :
    ImagesOk (st.stage ctx image) := by
  refine { ok with image := fun other => ?_ }
  show ImageOk (Function.update st.staging ctx image other)
  rcases eq_or_ne other ctx with rfl | apart
  · rw [Function.update_self]
    exact imageOk
  · rw [Function.update_of_ne apart]
    exact ok.image other

theorem ImagesOk.setRxonChain (ok : ImagesOk st) (ctx : CtxId) {config : ChainConfig} (valid : config.Valid) :
    ImagesOk (st.setRxonChain ctx config) :=
  ok.stage ctx ((ok.image ctx).withChain valid)

theorem ImagesOk.initRxConfig (ok : ImagesOk st) (ctx : CtxId) (types : CtxDevTypes) {vif : Option ImageVif}
    {chan : ImageChannel} (unicast : ∀ v ∈ vif, v.Valid) (valid : chan.Valid) :
    ImagesOk (st.initRxConfig ctx types vif chan) :=
  { ok.stage ctx (iwlConnectionInitRxConfig_ok types unicast valid) with }

theorem ImagesOk.setRxonHt (ok : ImagesOk st) (ht : CtxId → CtxHt) {config : ChainConfig} (valid : config.Valid) :
    ImagesOk { st with staging := fun ctx => iwlSetRxonHt (ht ctx) config (st.staging ctx) } :=
  { ok with image := fun ctx => iwlSetRxonHt_ok (ok.image ctx) (ht ctx) valid }

theorem ImagesOk.chswitchDone (ok : ImagesOk st) (exitPending : Bool) : ImagesOk (st.chswitchDone exitPending) := by
  unfold ImageState.chswitchDone
  split
  · exact ok
  · exact { ok with switch := fun pending => absurd pending Bool.false_ne_true }

/-- The image that a call prepares. -/
theorem ImagesOk.prepared (ok : ImagesOk st) (call : CommitCall) : ImageOk (st.call call).prepared := by
  rw [prepared_eq]
  exact prepareImage_ok (ok.image call.ctx) _ _

theorem ImagesOk.commit (ok : ImagesOk st) (call : CommitCall) (active : RxonCmd) (exitPending : Bool) :
    ImagesOk (st.commit call active exitPending) := by
  have prepared := ok.prepared call
  have staged := ok.stage call.ctx prepared
  unfold ImageState.commit
  dsimp only
  split
  · exact ok
  · split
    · exact staged
    · have aborted : ImagesOk (if (st.switchPending && st.switchChannel != (st.call call).prepared.channel) = true then
          (st.stage call.ctx (st.call call).prepared).chswitchDone exitPending
          else st.stage call.ctx (st.call call).prepared) := by
        split
        · exact staged.chswitchDone exitPending
        · exact staged
      split
      · exact aborted.stage call.ctx (iwlSetRxonHwcrypto_ok prepared _)
      · exact aborted

/-- **The step**: whatever the driver does with its images, they stay well formed. -/
theorem step_keeps (ok : ImagesOk st) {act : ImageAct} (valid : act.Valid) : ImagesOk (imageStep st act) := by
  cases act with
  | aliveStart types vif chan config =>
    obtain ⟨unicast, chanValid, configValid⟩ := valid
    have bss := ok.initRxConfig .bss (types .bss) (unicast .bss) chanValid
    have both := bss.initRxConfig .pan (types .pan) (unicast .pan) chanValid
    exact both.setRxonChain .bss configValid
  | aliveAssociated => exact ok.stage .bss { ok.image .bss with }
  | setMode ctx types vif chan config =>
    obtain ⟨unicast, chanValid, configValid⟩ := valid
    exact (ok.initRxConfig ctx types unicast chanValid).setRxonChain ctx configValid
  | updateChainFlags ctx config => exact ok.setRxonChain ctx valid
  | setRxonHt ht config => exact ok.setRxonHt ht valid
  | noHt => exact { ok with image := fun ctx => (ok.image ctx).withFlags (clearHtFlags_ok (ok.image ctx).flags) }
  | channelSwitch chan ht config useShortSlot accepted =>
    obtain ⟨chanValid, configValid⟩ := valid
    -- where the channel is a new one, the flags start from none
    have cleared : ImageOk (if (st.staging .bss).channel ≠ chan.hwValue then { st.staging .bss with flags := 0 }
        else st.staging .bss) := by
      split
      · exact (ok.image .bss).withFlags .zero
      · exact ok.image .bss
    have onChannel := ok.stage .bss (iwlSetRxonChannel_ok cleared chanValid st.band)
    have inHt : ImagesOk _ := ImagesOk.setRxonHt { onChannel with } ht configValid
    have onBand := inHt.stage .bss
      ((inHt.image .bss).withFlags (iwlSetFlagsForBand_ok (inHt.image .bss).flags chan.band useShortSlot))
    unfold imageStep
    dsimp only
    split
    · exact { onBand with switch := fun _ => chanValid }
    · exact { onBand with switch := fun pending => absurd pending Bool.false_ne_true }
  | rxCsa failed channel exitPending =>
    unfold imageStep
    dsimp only
    split
    · exact ok
    · split
      · rename_i pending switched
        have channelOk : channel ≠ 0 := by
          rw [Bool.and_eq_true, beq_iff_eq] at switched
          rw [switched.2]
          exact ok.switch (by simpa using pending)
        have onChannel : ImageOk { st.staging .bss with channel := channel } :=
          { ok.image .bss with channel := channelOk }
        exact (ok.stage .bss onChannel).chswitchDone exitPending
      · exact ok.chswitchDone exitPending
  | chswitchDone exitPending => exact ok.chswitchDone exitPending
  | commit call active exitPending => exact ok.commit call active exitPending

/-- After any start that is not an associated one, whatever was staged before. -/
theorem aliveStart_imagesOk {types : CtxId → CtxDevTypes} {vif : CtxId → Option ImageVif} {chan : ImageChannel}
    {config : ChainConfig} (valid : (ImageAct.aliveStart types vif chan config).Valid)
    (idle : st.switchPending = false) : ImagesOk (imageStep st (.aliveStart types vif chan config)) := by
  obtain ⟨unicast, chanValid, configValid⟩ := valid
  have bss := iwlConnectionInitRxConfig_ok (types .bss) (unicast .bss) chanValid
  have pan := iwlConnectionInitRxConfig_ok (types .pan) (unicast .pan) chanValid
  refine ⟨fun ctx => ?_, fun pending => absurd (idle.symm.trans pending) Bool.false_ne_true⟩
  cases ctx with
  | bss => exact bss.withChain configValid
  | pan => exact pan

theorem run_keeps (ok : ImagesOk st) {acts : List ImageAct} (valid : ∀ act ∈ acts, act.Valid) :
    ImagesOk (acts.foldl imageStep st) := by
  induction acts generalizing st with
  | nil => exact ok
  | cons act later ih =>
    have first := step_keeps ok (valid act List.mem_cons_self)
    exact ih first fun other member => valid other (List.mem_cons_of_mem _ member)

/-- A commit of a well-formed image is not refused. -/
theorem commit_ne_einval (ok : ImagesOk st) (call : CommitCall) (rxon : RxonState) :
    (iwlagnCommitRxon (st.call call) rxon).1 ≠ .einval := by
  have passes : iwlCheckRxonCmd (st.call call).prepared = true := by
    rw [prepared_eq]
    exact iwlCheckRxonCmd_prepareImage (ok.image call.ctx) _ _
  have of_ne (failed : Option CommitCommand) : CommitResult.of failed ≠ .einval := by
    cases failed <;> exact CommitResult.noConfusion
  unfold iwlagnCommitRxon
  rw [passes]
  split
  · exact CommitResult.noConfusion
  split
  · exact CommitResult.noConfusion
  split
  · rename_i refused
    exact absurd refused (by decide)
  split
  · dsimp only
    split
    · exact of_ne _
    · exact CommitResult.noConfusion
  · dsimp only
    split
    · exact of_ne _
    split
    · exact CommitResult.noConfusion
    split
    · exact of_ne _
    · exact CommitResult.noConfusion

end Steps

/-- **No image is refused.** The device is started, and not associated; then the driver does whatever it does, to
channels that exist and with antennas that are there. Then the images of both contexts are well formed, and a commit
does not fail with `-EINVAL`. -/
theorem run_commits (st : ImageState) (types : CtxId → CtxDevTypes) (vif : CtxId → Option ImageVif)
    (chan : ImageChannel) (config : ChainConfig) (acts : List ImageAct) (idle : st.switchPending = false)
    (started : (ImageAct.aliveStart types vif chan config).Valid) (valid : ∀ act ∈ acts, act.Valid) :
    (∀ ctx, ImageOk ((acts.foldl imageStep (imageStep st (.aliveStart types vif chan config))).staging ctx)) ∧
      ∀ call rxon, (iwlagnCommitRxon
        ((acts.foldl imageStep (imageStep st (.aliveStart types vif chan config))).call call) rxon).1 ≠ .einval := by
  have ok := run_keeps (aliveStart_imagesOk started idle) valid
  exact ⟨ok.image, commit_ne_einval ok⟩

/-- Three antennas, and nothing that says to use fewer of them. -/
def threeAntennas : ChainConfig := ⟨0, 7, false, .off, false, false⟩

/-- HT of 40 MHz, with the extension channel below. -/
def ht40Below : CtxHt := ⟨true, 0, true, 3⟩

/-- A switch to channel 36, which the access point then makes, while HT is set up again. -/
def switchTo36 : List ImageAct :=
  [.channelSwitch ⟨36, .ghz5⟩ (fun _ => ht40Below) threeAntennas true true, .rxCsa false 36 false,
    .setRxonHt (fun _ => ht40Below) threeAntennas]

theorem switchTo36_valid : ∀ act ∈ switchTo36, act.Valid := by
  have antennas : threeAntennas.Valid := by
    unfold ChainConfig.Valid
    decide
  have exists36 : ImageChannel.Valid ⟨36, .ghz5⟩ := by
    unfold ImageChannel.Valid
    decide
  unfold switchTo36
  simp only [List.forall_mem_cons, List.not_mem_nil, false_imp_iff, implies_true, and_true]
  exact ⟨⟨exists36, antennas⟩, trivial, antennas⟩

theorem run_commits_switch : (iwlagnCommitRxon
    ((switchTo36.foldl imageStep (imageStep ⟨fun _ => .zero, .ghz2, false, 0⟩
      (.aliveStart (fun _ => ⟨1, 2, 3, 4⟩) (fun _ => none) ⟨1, .ghz2⟩ threeAntennas))).call
      ⟨.bss, .zero, none, true, true, false, false, false, fun _ => .ok⟩)
    ⟨fun _ => .zero, fun _ => .zero⟩).1 ≠ .einval :=
  (run_commits _ _ _ _ _ _ rfl ⟨fun _ _ member => (Option.not_mem_none _ member).elim, by
    unfold ImageChannel.Valid
    decide, by
    unfold ChainConfig.Valid
    decide⟩ switchTo36_valid).2 _ _

end IntelWifi.Dvm.Rxon
