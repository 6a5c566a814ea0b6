/-
**The handlers of received packets.**

`iwl_rx_dispatch` gives a packet to the callbacks of the waits for notifications that want it, and then
to the handler of its command. Both cast the payload to a structure of their own. A read of the packet
faults when it is not between the start of the packet and the end that its first word tells; what lies
there is whatever follows the packet in its page.

A handler gives the new state and what it calls that never gets the packet, in order. Debug output reads
its arguments only where it prints. The table of handlers has no entry for command `0xff`: what is read there
is the head of the list of waits, and a wait that is called for a handler faults.

* `iwlRxDispatch`: a packet.
-/

import IntelWifi.Fw.NotifWait
import IntelWifi.Lib.Bytes
import IntelWifi.Lib.Checked

namespace IntelWifi.Dvm

open Bytes Checked

/-! ### A packet -/

/-- The memory from the start of a packet on, which does not end with the packet. -/
abbrev RxMemory := List UInt8

/-- `iwl_rx_packet_len`: `len_n_flags & FH_RSCSR_FRAME_SIZE_MSK`. -/
def rxPacketLen (pkt : RxMemory) : Nat := leAt pkt 0 4 % 2 ^ 14

/-- `iwl_rx_packet_payload_len`, an unsigned subtraction. -/
def rxPacketPayloadLen (pkt : RxMemory) : BitVec 32 := BitVec.ofNat 32 (rxPacketLen pkt) - 4#32

/-- Where the packet ends. -/
def packetEnd (pkt : RxMemory) : Nat := 4 + rxPacketLen pkt

/-- `pkt->hdr`. -/
def packetHdr (pkt : RxMemory) : NotifWait.PktHeader := ⟨byteAt pkt 5, byteAt pkt 4⟩

/-- A read of the packet. -/
def readAt (pkt : RxMemory) (offset n : Nat) : Outcome Empty Nat :=
  if offset + n ≤ packetEnd pkt then .ok (leAt pkt offset n) else .error .fault

/-- A `memcpy` from the payload. -/
def copyData (pkt : RxMemory) (offset n : Nat) : Outcome Empty (List UInt8) :=
  if 8 + offset + n ≤ packetEnd pkt then .ok (slice pkt (8 + offset) n) else .error .fault

/-- A field of `pkt->data`. -/
def field (pkt : RxMemory) (offset n : Nat) : Outcome Empty Nat := readAt pkt (8 + offset) n

/-- The arguments of an output: each one's offset and size. -/
def showFields (pkt : RxMemory) (fields : List (Nat × Nat)) : Outcome Empty Unit :=
  each (fun at' => do
    let _ ← field pkt at'.1 at'.2
    .ok ()) fields

/-! ### The driver -/

/-- How the driver was built, and its `debug_level`. -/
structure DebugBuild where
  /-- `CONFIG_IWLWIFI_DEBUG`. -/
  iwlwifiDebug : Bool
  /-- `DEBUG`. -/
  debug : Bool
  debugLevel : BitVec 32

/-- `__iwl_dbg` prints. -/
def DebugBuild.prints (build : DebugBuild) (level : BitVec 32) : Bool :=
  build.iwlwifiDebug && build.debug && build.debugLevel &&& level != 0

def dlInfo : BitVec 32 := 0x00000001#32
def dlScan : BitVec 32 := 0x00000800#32
def dlAssoc : BitVec 32 := 0x00001000#32
def dlFw : BitVec 32 := 0x00010000#32
def dlCalib : BitVec 32 := 0x00200000#32
def dlRx : BitVec 32 := 0x01000000#32
def dl11h : BitVec 32 := 0x10000000#32

/-- `IWL_DEBUG`. -/
def iwlDebug (build : DebugBuild) (level : BitVec 32) (pkt : RxMemory) (fields : List (Nat × Nat)) :
    Outcome Empty Unit :=
  if build.prints level then showFields pkt fields else .ok ()

/-- What a packet finds: the build, a module parameter, the time, and the memory that allocations get. -/
structure RxEnv where
  build : DebugBuild
  swcrypto : Bool
  jiffies : BitVec 64
  /-- In the callback of each wait, by its place in the list. -/
  calibAlloc : Nat → Option (List UInt8)
  noaAlloc : Bool

/-- The callbacks of waits. -/
inductive WaitFn where
  /-- `iwl_alive_fn`. -/
  | alive
  /-- `iwlagn_wait_calib`. -/
  | calib
  deriving DecidableEq, Repr

/-- `struct iwl_alive_data`. -/
structure AliveData where
  valid : Bool
  subtype : Nat
  deriving DecidableEq, Repr

/-- `struct iwl_notification_wait`, with its callback and the data of `iwl_alive_fn`. -/
structure RxWait where
  entry : NotifWait.WaitEntry
  fn : Option WaitFn
  aliveData : AliveData

/-- What the callbacks store: `device_pointers` and `calib_results`, each with the bytes from `hdr` on. -/
structure BootData where
  errorEventTable : Nat
  logEventTable : Nat
  calibResults : List (List UInt8)
  deriving DecidableEq, Repr

/-- `priv->statistics`. -/
structure RxStatistics where
  flag : Nat
  common : List UInt8
  rxNonPhy : List UInt8
  rxOfdm : List UInt8
  rxOfdmHt : List UInt8
  rxCck : List UInt8
  tx : List UInt8
  deriving DecidableEq, Repr

/-- The fields of `struct iwl_priv` that the handlers use, with the bits of `status` by name. -/
structure RxPriv where
  channelSwitchPending : Bool
  exitPending : Bool
  scanning : Bool
  scanHw : Bool
  scanComplete : Bool
  rfKillHw : Bool
  statisticsReady : Bool
  /-- `iwl_is_any_associated`. -/
  anyAssociated : Bool
  isOpen : Bool
  /-- `RXON_FILTER_DIS_DECRYPT_MSK` in the active filter flags of the BSS context. -/
  disDecrypt : Bool
  switchChannel : Nat
  activeChannel : Nat
  stagingChannel : Nat
  measureReport : List UInt8
  measurementReady : Bool
  ibssManager : Nat
  plcpDeltaThreshold : Nat
  missedBeaconThreshold : BitVec 32
  statistics : RxStatistics
  rxStatisticsJiffies : BitVec 64
  /-- `priv->lib->temperature` is there. -/
  hasTemperature : Bool
  lastPhyRes : List UInt8
  lastPhyResValid : Bool
  ampduRef : BitVec 32
  ucodeBeaconTime : Nat
  noaData : Option (List UInt8)
  scanStartTsf : Nat
  adhoc : Bool
  /-- `iwl_advanced_bt_coexist`. -/
  advancedBtCoexist : Bool
  btStatus : Nat
  btTrafficLoad : Nat
  btChAnnounce : Bool
  boot : BootData
  notifWaits : List RxWait

/-- What a handler calls that does not get the packet. -/
inductive RxCall where
  | chswitchDone (isSuccess : Bool)
  | forceRfReset (external : Bool)
  /-- `priv->lib->temperature`. -/
  | temperature
  | initSensitivity
  /-- `CSR_UCODE_DRV_GP1_SET`, `CSR_UCODE_DRV_GP1_CLR` and `HBUS_TARG_MBX_C` get their bit of blocked
  commands. -/
  | gp1Set
  | gp1Clr
  | mbxC
  | scanCancel
  /-- `iwl_bg_scan_completed` through the command gate. -/
  | bgScanCompleted
  /-- The page, stolen from the ring, goes to the network stack. -/
  | inputPacket
  /-- `iwl_notification_notify`. -/
  | notificationNotify
  deriving DecidableEq, Repr

/-- What a handler gives. -/
abbrev Handled := Outcome Empty (RxPriv × List RxCall)

variable (env : RxEnv) (priv : RxPriv) (pkt : RxMemory)

/-! ### Simple handlers -/

/-- `iwlagn_rx_reply_error`. Errors are always printed. -/
def iwlagnRxReplyError : Handled := do
  showFields pkt [(0, 4), (4, 1), (6, 2), (8, 4)]
  .ok (priv, [])

/-- `iwlagn_rx_csa`. -/
def iwlagnRxCsa : Handled :=
  if !priv.channelSwitchPending then .ok (priv, [])
  else do
    let status ← field pkt 4 4
    let channel ← field pkt 2 2
    if status = 0 ∧ channel = priv.switchChannel then
      iwlDebug env.build dl11h pkt [(2, 2)]
      .ok ({ priv with activeChannel := channel, stagingChannel := channel }, [.chswitchDone true])
    else
      showFields pkt [(2, 2)]
      .ok (priv, [.chswitchDone false])

/-- `sizeof(struct iwl_spectrum_notification)`. -/
def spectrumSize : Nat := 100

/-- `iwlagn_rx_spectrum_measure_notif`. -/
def iwlagnRxSpectrumMeasureNotif : Handled := do
  let state ← field pkt 3 1
  if state = 0 then .ok (priv, [])
  else
    let report ← copyData pkt 0 spectrumSize
    .ok ({ priv with measureReport := report, measurementReady := true }, [])

/-- `iwlagn_rx_pm_sleep_notif`. -/
def iwlagnRxPmSleepNotif : Handled := do
  iwlDebug env.build dlRx pkt [(0, 1), (1, 1)]
  .ok (priv, [])

/-- `iwlagn_rx_pm_debug_statistics_notif`. -/
def iwlagnRxPmDebugStatisticsNotif : Handled := do
  let _ ← readAt pkt 0 4
  .ok (priv, [])

/-- `iwlagn_rx_beacon_notif`. With `CONFIG_IWLWIFI_DEBUG`, `status` and `rate` are read in any case. -/
def iwlagnRxBeaconNotif : Handled := do
  if env.build.iwlwifiDebug then
    showFields pkt [(32, 2), (4, 4)]
    iwlDebug env.build dlRx pkt [(3, 1), (44, 4), (40, 4), (36, 4)]
    let status ← field pkt 44 4
    .ok ({ priv with ibssManager := status }, [])
  else
    let status ← field pkt 44 4
    .ok ({ priv with ibssManager := status }, [])

/-- `iwl_process_add_sta_resp`: a status that is not known is printed. -/
def iwlProcessAddStaResp : Outcome Empty Unit := do
  let status ← field pkt 0 1
  if status = 1 ∨ status = 2 ∨ status = 4 ∨ status = 8 then .ok ()
  else iwlDebug env.build (dlAssoc ||| dlInfo) pkt [(0, 1)]

/-- `iwl_add_sta_callback`. -/
def iwlAddStaCallback : Handled := do
  iwlProcessAddStaResp env pkt
  .ok (priv, [])

/-- `HW_CARD_DISABLED`, `SW_CARD_DISABLED`, `CT_CARD_DISABLED`, `RXON_CARD_DISABLED`. -/
def hwCardDisabled : Nat := 0x01
def swCardDisabled : Nat := 0x02
def ctCardDisabled : Nat := 0x04
def rxonCardDisabled : Nat := 0x10

/-- `iwlagn_rx_card_state_notif`. -/
def iwlagnRxCardStateNotif : Handled := do
  let flags ← field pkt 0 4
  let blocked : List RxCall :=
    if flags &&& (swCardDisabled ||| hwCardDisabled ||| ctCardDisabled) = 0 then []
    else [.gp1Set, .mbxC] ++ if flags &&& rxonCardDisabled = 0 then [.gp1Clr, .mbxC] else []
  let cancel : List RxCall := if flags &&& rxonCardDisabled = 0 then [.scanCancel] else []
  .ok ({ priv with rfKillHw := flags &&& hwCardDisabled != 0 }, blocked ++ cancel)

/-- `iwlagn_rx_missed_beacon_notif`. The threshold, an `int`, is compared as unsigned. -/
def iwlagnRxMissedBeaconNotif : Handled := do
  let consecutive ← field pkt 0 4
  if priv.missedBeaconThreshold.toNat < consecutive then
    iwlDebug env.build dlCalib pkt [(0, 4), (4, 4), (12, 4), (8, 4)]
    .ok (priv, if priv.scanning then [] else [.initSensitivity])
  else .ok (priv, [])

/-! ### Statistics -/

/-- Where the parts of a notification of statistics are. -/
structure StatsLayout where
  size : Nat
  common : Nat
  rxNonPhy : Nat
  rxOfdm : Nat
  rxOfdmHt : Nat
  rxCck : Nat
  tx : Nat

/-- `struct iwl_bt_notif_statistics`. -/
def btNotifStatistics : StatsLayout := ⟨524, 404, 164, 4, 260, 84, 300⟩

/-- `struct iwl_notif_statistics`. -/
def notifStatistics : StatsLayout := ⟨480, 392, 164, 4, 248, 84, 288⟩

/-- `STATISTICS_REPLY_FLG_HT40_MODE_MSK`. -/
def ht40ModeMsk : Nat := 0x8

/-- `UCODE_STATISTICS_CLEAR_MSK`. -/
def ucodeStatisticsClearMsk : Nat := 0x1

/-- `jiffies_to_msecs`, with `HZ` 1000 and `MSEC_PER_SEC` 100. -/
def jiffiesToMsecs (j : BitVec 64) : BitVec 64 := (j + 9#64) / 10#64

/-- `iwlagn_good_plcp_health`, where `delta` was computed without sign. -/
def goodPlcpHealth (threshold : Nat) (delta : BitVec 32) (msecs : BitVec 64) : Bool :=
  delta.toInt ≤ 0 ∨ ((delta * 100#32).signExtend 64 / msecs).toNat ≤ threshold

/-- `plcp_err` of `struct statistics_rx_phy` and of `struct statistics_rx_ht_phy`. -/
def ofdmPlcpErr : Nat := 8
def ofdmHtPlcpErr : Nat := 0

/-- `iwlagn_recover_from_statistics`. -/
def recoverFromStatistics (layout : StatsLayout) : Outcome Empty (List RxCall) :=
  let msecs := jiffiesToMsecs (env.jiffies - priv.rxStatisticsJiffies)
  if priv.exitPending ∨ ¬ priv.anyAssociated ∨ msecs.toNat < 99 then .ok []
  else if priv.plcpDeltaThreshold = 0 then .ok []
  else do
    let ofdm ← field pkt (layout.rxOfdm + ofdmPlcpErr) 4
    let ofdmHt ← field pkt (layout.rxOfdmHt + ofdmHtPlcpErr) 4
    let delta := BitVec.ofNat 32 ofdm - BitVec.ofNat 32 (leAt priv.statistics.rxOfdm ofdmPlcpErr 4) +
      BitVec.ofNat 32 ofdmHt - BitVec.ofNat 32 (leAt priv.statistics.rxOfdmHt ofdmHtPlcpErr 4)
    .ok (if goodPlcpHealth priv.plcpDeltaThreshold delta msecs then [] else [.forceRfReset false])

/-- The copies into `priv->statistics`. -/
def copyStatistics (layout : StatsLayout) (flag : Nat) : Outcome Empty RxStatistics := do
  let common ← copyData pkt layout.common 80
  let rxNonPhy ← copyData pkt layout.rxNonPhy 84
  let rxOfdm ← copyData pkt layout.rxOfdm 80
  let rxOfdmHt ← copyData pkt layout.rxOfdmHt 40
  let rxCck ← copyData pkt layout.rxCck 80
  let tx ← copyData pkt layout.tx 104
  .ok ⟨flag, common, rxNonPhy, rxOfdm, rxOfdmHt, rxCck, tx⟩

/-- `pkt->hdr.cmd` is read unless a scan is on. The noise that is computed then is only printed. -/
def readCmdUnlessScanning : Outcome Empty Unit :=
  if priv.scanning then .ok ()
  else do
    let _ ← readAt pkt 4 1
    .ok ()

/-- `iwlagn_rx_statistics`, once the length has matched. No build has `CONFIG_IWLWIFI_DEBUGFS`. -/
def rxStatisticsOf (layout : StatsLayout) : Handled := do
  let flag ← field pkt 0 4
  let temperature ← field pkt layout.common 4
  let change := temperature ≠ leAt priv.statistics.common 0 4 ∨
    flag &&& ht40ModeMsk ≠ priv.statistics.flag &&& ht40ModeMsk
  let recover ← recoverFromStatistics env priv pkt layout
  let statistics ← copyStatistics pkt layout flag
  readCmdUnlessScanning priv pkt
  .ok ({ priv with
      statistics := statistics
      rxStatisticsJiffies := env.jiffies
      statisticsReady := true },
    recover ++ if priv.hasTemperature ∧ change then [.temperature] else [])

/-- `iwlagn_rx_statistics`. -/
def iwlagnRxStatistics : Handled :=
  if rxPacketPayloadLen pkt = BitVec.ofNat 32 btNotifStatistics.size then
    rxStatisticsOf env priv pkt btNotifStatistics
  else if rxPacketPayloadLen pkt = BitVec.ofNat 32 notifStatistics.size then
    rxStatisticsOf env priv pkt notifStatistics
  else .ok (priv, [])

/-- `iwlagn_rx_reply_statistics`: the cleared counters are only printed. -/
def iwlagnRxReplyStatistics : Handled := do
  let _ ← field pkt 0 4
  iwlagnRxStatistics env priv pkt

/-! ### Scans -/

/-- `iwl_rx_reply_scan`. -/
def iwlRxReplyScan : Handled := do
  iwlDebug env.build dlScan pkt [(0, 4)]
  .ok (priv, [])

/-- `iwl_rx_scan_start_notif`. -/
def iwlRxScanStartNotif : Handled := do
  let tsfLow ← field pkt 0 4
  iwlDebug env.build dlScan pkt [(12, 1), (13, 1), (4, 4), (0, 4), (16, 4), (8, 4)]
  .ok ({ priv with scanStartTsf := tsfLow }, [])

/-- `iwl_rx_scan_results_notif`. -/
def iwlRxScanResultsNotif : Handled := do
  iwlDebug env.build dlScan pkt [(0, 1), (1, 1), (2, 1), (3, 1), (8, 4), (4, 4), (12, 4)]
  .ok (priv, [])

/-- `IWL_BT_COEX_TRAFFIC_LOAD_NONE` and `IWL_BT_COEX_TRAFFIC_LOAD_HIGH`. -/
def btTrafficLoadNone : Nat := 0
def btTrafficLoadHigh : Nat := 2

/-- The end of `iwl_rx_scan_complete_notif`: bluetooth was turned on or off during the scan. -/
def scanBtStatus (status : Nat) : RxPriv :=
  if priv.btStatus = status then priv
  else { priv with
    btTrafficLoad :=
      if status = 0 then btTrafficLoadNone
      else if priv.btChAnnounce then priv.btTrafficLoad else btTrafficLoadHigh
    btStatus := status }

/-- `iwl_rx_scan_complete_notif`. -/
def iwlRxScanCompleteNotif : Handled := do
  iwlDebug env.build dlScan pkt [(0, 1), (4, 4), (8, 4), (1, 1)]
  let done := { priv with scanComplete := true, scanHw := false }
  if !done.adhoc && done.advancedBtCoexist then
    let btStatus ← field pkt 2 1
    .ok (scanBtStatus done btStatus, [.bgScanCompleted])
  else .ok (done, [.bgScanCompleted])

/-! ### Frames -/

/-- `sizeof(struct iwl_rx_phy_res)`. -/
def rxPhyResSize : Nat := 60

/-- `iwlagn_rx_reply_rx_phy`. -/
def iwlagnRxReplyRxPhy : Handled := do
  let phyRes ← copyData pkt 0 rxPhyResSize
  .ok ({ priv with lastPhyResValid := true, ampduRef := priv.ampduRef + 1, lastPhyRes := phyRes }, [])

def rxResStatusSecTypeMsk : Nat := 0x700
def rxResStatusSecTypeWep : Nat := 0x100
def rxResStatusSecTypeCcmp : Nat := 0x200
def rxResStatusSecTypeTkip : Nat := 0x300
def rxResStatusSecTypeErr : Nat := 0x700
def rxResStatusStationFound : Nat := 0x40
def rxResStatusNoStationInfoMismatch : Nat := 0x80
def rxResStatusDecryptTypeMsk : Nat := 0x1800
def rxResStatusBadIcvMic : Nat := 0x800
def rxResStatusBadKeyTtak : Nat := 0x1000
def rxResStatusDecryptOk : Nat := 0x1800
def rxMpduResStatusDecDoneMsk : Nat := 0x800
def rxMpduResStatusMicOk : Nat := 0x40
def rxMpduResStatusTtakOk : Nat := 0x80
def rxMpduResStatusIcvOk : Nat := 0x20

/-- `iwlagn_translate_rx_status`. -/
def iwlagnTranslateRxStatus (decryptIn : Nat) : Nat :=
  let sec := decryptIn &&& rxResStatusSecTypeMsk
  let found :=
    if decryptIn &&& rxResStatusStationFound = rxResStatusStationFound then
      rxResStatusStationFound ||| rxResStatusNoStationInfoMismatch
    else 0
  let out := found ||| sec
  let okIf (bit : Nat) : Nat :=
    out ||| if decryptIn &&& bit = 0 then rxResStatusBadIcvMic else rxResStatusDecryptOk
  if sec = 0 ∨ sec = rxResStatusSecTypeErr then out
  else if decryptIn &&& rxMpduResStatusDecDoneMsk ≠ rxMpduResStatusDecDoneMsk then out
  else if sec = rxResStatusSecTypeCcmp then okIf rxMpduResStatusMicOk
  else if sec = rxResStatusSecTypeTkip ∧ decryptIn &&& rxMpduResStatusTtakOk = 0 then
    out ||| rxResStatusBadKeyTtak
  else okIf rxMpduResStatusIcvOk

/-- `IEEE80211_FCTL_PROTECTED`. -/
def fctlProtected : Nat := 0x4000

/-- `iwlagn_set_decrypted_flag`: the packet should be dropped. A TKIP frame with a bad phase 1 key is
not; else it is tested as a WEP frame is. -/
def iwlagnSetDecryptedFlag (decryptRes : Nat) : Outcome Empty Bool := do
  let fc ← field pkt 4 2
  let sec := decryptRes &&& rxResStatusSecTypeMsk
  let type := decryptRes &&& rxResStatusDecryptTypeMsk
  .ok (!priv.disDecrypt && fc &&& fctlProtected != 0 &&
    (sec == rxResStatusSecTypeWep || sec == rxResStatusSecTypeTkip && type != rxResStatusBadKeyTtak) &&
    type == rxResStatusBadIcvMic)

/-- `iwlagn_pass_packet_to_mac80211`. -/
def iwlagnPassPacketToMac80211 (ampduStatus : Nat) : Handled :=
  if !priv.isOpen then .ok (priv, [])
  else if env.swcrypto then .ok (priv, [.inputPacket])
  else do
    let drop ← iwlagnSetDecryptedFlag priv pkt ampduStatus
    .ok (priv, if drop then [] else [.inputPacket])

/-- `cfg_phy_cnt` of the cached PHY data. -/
def RxPriv.cfgPhyCnt : Nat := byteAt priv.lastPhyRes 1

/-- `iwlagn_rx_reply_rx`. The status is behind the frame, whose length the payload tells. -/
def iwlagnRxReplyRx : Handled :=
  if !priv.lastPhyResValid then .ok (priv, [])
  else do
    let len ← field pkt 0 2
    let rxPktStatus ← field pkt (4 + len) 4
    if 20 < priv.cfgPhyCnt then .ok (priv, [])
    else if rxPktStatus &&& 1 = 0 ∨ rxPktStatus &&& 2 = 0 then .ok (priv, [])
    else
      iwlagnPassPacketToMac80211 env { priv with ucodeBeaconTime := leAt priv.lastPhyRes 12 4 } pkt
        (iwlagnTranslateRxStatus rxPktStatus)

/-- What `iwlagn_rx_noa_notification` puts before the attribute: the element's id, its length, which
is one byte, and the vendor's type. -/
def noaHeader (length : Nat) : List UInt8 :=
  [221, UInt8.ofNat (length + 7), 0x50, 0x6f, 0x9a, 9]

/-- `iwlagn_rx_noa_notification`. How much is copied, the payload tells. -/
def iwlagnRxNoaNotification : Handled := do
  let active ← field pkt 0 4
  if active = 0 then .ok ({ priv with noaData := none }, [])
  else
    let length ← field pkt 5 2
    if env.noaAlloc then
      let attr ← copyData pkt 4 (length + 3)
      .ok ({ priv with noaData := some (noaHeader length ++ attr) }, [])
    else .ok ({ priv with noaData := none }, [])

/-! ### The table -/

/-- The functions in the table. -/
inductive RxHandler where
  | replyError | csa | spectrumMeasure | pmSleep | pmDebugStatistics | beacon | addSta | noa
  | replyStatistics | statistics | replyScan | scanStart | scanResults | scanComplete | cardState
  | missedBeacon | replyRxPhy | replyRx
  deriving DecidableEq, Repr

/-- `iwl_setup_rx_handlers`, with `iwl_setup_rx_scan_handlers`. -/
def rxHandlers : Nat → Option RxHandler
  | 0x02 => some .replyError
  | 0x73 => some .csa
  | 0x75 => some .spectrumMeasure
  | 0x7a => some .pmSleep
  | 0x7b => some .pmDebugStatistics
  | 0x90 => some .beacon
  | 0x18 => some .addSta
  | 0xbc => some .noa
  | 0x9c => some .replyStatistics
  | 0x9d => some .statistics
  | 0x80 => some .replyScan
  | 0x82 => some .scanStart
  | 0x83 => some .scanResults
  | 0x84 => some .scanComplete
  | 0xa1 => some .cardState
  | 0xa2 => some .missedBeacon
  | 0xc0 => some .replyRxPhy
  | 0xc1 => some .replyRx
  | _ => none

/-- `REPLY_MAX`, the number of entries. -/
def replyMax : Nat := 0xff

/-- The entry of a command is one of the table, or null. Behind the table lies `notif_wait`, which begins with the
pointer to the first wait. -/
def RxPriv.entryCallable (cmd : Nat) : Bool := cmd < replyMax || priv.notifWaits.isEmpty

/-- `priv->rx_handlers[cmd]`. -/
def RxPriv.rxHandlerAt (cmd : Nat) : Outcome Empty (Option RxHandler) :=
  if priv.entryCallable cmd then .ok (rxHandlers cmd) else .error .fault

/-- A call of a function of the table. -/
def RxHandler.call : RxHandler → Handled
  | .replyError => iwlagnRxReplyError priv pkt
  | .csa => iwlagnRxCsa env priv pkt
  | .spectrumMeasure => iwlagnRxSpectrumMeasureNotif priv pkt
  | .pmSleep => iwlagnRxPmSleepNotif env priv pkt
  | .pmDebugStatistics => iwlagnRxPmDebugStatisticsNotif priv pkt
  | .beacon => iwlagnRxBeaconNotif env priv pkt
  | .addSta => iwlAddStaCallback env priv pkt
  | .noa => iwlagnRxNoaNotification env priv pkt
  | .replyStatistics => iwlagnRxReplyStatistics env priv pkt
  | .statistics => iwlagnRxStatistics env priv pkt
  | .replyScan => iwlRxReplyScan env priv pkt
  | .scanStart => iwlRxScanStartNotif env priv pkt
  | .scanResults => iwlRxScanResultsNotif env priv pkt
  | .scanComplete => iwlRxScanCompleteNotif env priv pkt
  | .cardState => iwlagnRxCardStateNotif priv pkt
  | .missedBeacon => iwlagnRxMissedBeaconNotif env priv pkt
  | .replyRxPhy => iwlagnRxReplyRxPhy priv pkt
  | .replyRx => iwlagnRxReplyRx env priv pkt

/-! ### Callbacks of waits -/

/-- `iwl_alive_fn`. -/
def iwlAliveFn (boot : BootData) : Outcome Empty (BootData × AliveData) := do
  iwlDebug env.build dlFw pkt [(28, 4), (12, 1), (13, 1)]
  let errorTable ← field pkt 20 4
  let logTable ← field pkt 16 4
  let subtype ← field pkt 13 1
  let isValid ← field pkt 28 4
  .ok ({ boot with errorEventTable := errorTable, logEventTable := logTable },
    ⟨isValid == 1, subtype⟩)

/-- The result takes the place of the first one with its `op_code`, or the last place. -/
def putCalib (res : List UInt8) : List (List UInt8) → List (List UInt8)
  | [] => [res]
  | old :: later => if byteAt old 0 = byteAt res 0 then res :: later else old :: putCalib res later

/-- `iwl_calib_set`, where `len` is an `int` that `memcpy` takes as a `size_t`. `none` is `-ENOMEM`. -/
def iwlCalibSet (results : List (List UInt8)) (alloc : Option (List UInt8)) (len : BitVec 32) :
    Outcome Empty (Option (List (List UInt8))) :=
  match alloc with
  | none => .ok none
  | some fresh => do
    let copied ← copyData pkt 0 (len.signExtend 64).toNat
    .ok (some (putCalib (copied ++ fresh.drop copied.length) results))

/-- `CALIBRATION_RES_NOTIFICATION`. -/
def calibrationRes : Nat := 0x66

/-- `iwlagn_wait_calib`, with its answer. -/
def iwlagnWaitCalib (alloc : Option (List UInt8)) (boot : BootData) : Outcome Empty (BootData × Bool) := do
  let cmd ← readAt pkt 4 1
  if cmd ≠ calibrationRes then .ok (boot, true)
  else
    match ← iwlCalibSet pkt boot.calibResults alloc (rxPacketPayloadLen pkt) with
    | some results => .ok ({ boot with calibResults := results }, false)
    | none =>
      showFields pkt [(0, 1)]
      .ok (boot, false)

/-- The entry is evaluated, and waits for this packet. -/
def RxWait.wants (w : RxWait) : Bool :=
  !(w.entry.triggered || w.entry.aborted) && w.entry.found (packetHdr pkt)

/-- The entry was triggered. -/
def RxWait.trigger (w : RxWait) : RxWait := { w with entry := { w.entry with triggered := true } }

/-- A turn of the loop of `iwl_notification_wait`. -/
def evaluateWait (i : Nat) (boot : BootData) (w : RxWait) : Outcome Empty (BootData × RxWait) :=
  if !w.wants pkt then .ok (boot, w)
  else
    match w.fn with
    | none => .ok (boot, w.trigger)
    | some .alive => do
      let (boot, aliveData) ← iwlAliveFn env pkt boot
      .ok (boot, { w with aliveData := aliveData }.trigger)
    | some .calib => do
      let (boot, ends) ← iwlagnWaitCalib pkt (env.calibAlloc i) boot
      .ok (boot, if ends then w.trigger else w)

/-- `iwl_notification_wait`, from a place in the list on. -/
def iwlNotificationWait : Nat → BootData → List RxWait → Outcome Empty (BootData × List RxWait)
  | _, boot, [] => .ok (boot, [])
  | i, boot, w :: later => do
    let (boot, w) ← evaluateWait env pkt i boot w
    let (boot, later) ← iwlNotificationWait (i + 1) boot later
    .ok (boot, w :: later)

/-- An entry was triggered by the packet. -/
def anyTriggered (before after : List RxWait) : Bool :=
  (before.zip after).any fun pair => !pair.1.entry.triggered && pair.2.entry.triggered

/-- The callbacks leave this. -/
def RxPriv.evaluated (boot : BootData) (waits : List RxWait) : RxPriv :=
  { priv with boot := boot, notifWaits := waits }

/-- `iwl_notification_wait_notify`. -/
def iwlNotificationWaitNotify : Handled := do
  let (boot, waits) ← iwlNotificationWait env pkt 0 priv.boot priv.notifWaits
  .ok (priv.evaluated boot waits,
    if anyTriggered priv.notifWaits waits then [.notificationNotify] else [])

/-- `iwl_rx_dispatch`. -/
def iwlRxDispatch : Handled := do
  let (priv, notified) ← iwlNotificationWaitNotify env priv pkt
  match ← priv.rxHandlerAt (packetHdr pkt).cmd with
  | none => .ok (priv, notified)
  | some handler => do
    let (priv, calls) ← handler.call env priv pkt
    .ok (priv, notified ++ calls)

end IntelWifi.Dvm
