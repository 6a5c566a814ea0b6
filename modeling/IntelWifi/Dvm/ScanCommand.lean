/-
**The scan command.**

`iwlagn_request_scan` fills a buffer of `scan_cmd_size` bytes: the fixed part of `struct iwl_scan_cmd`, which is
764 bytes long, and behind it the probe request and the channel list. The size of the buffer comes from
`max_probe_length` of the firmware. `iwl_fill_probe_req` compares the probe request with all that is left behind
the fixed part, and nothing compares the channel list. The limit that is advertised for the elements of a request
is `max_probe_length` without 58 bytes, in a `u16`: below 58 it wraps.

Offsets in the fixed part: `len` 0, `channel_count` 3, `quiet_time` 4, `quiet_plcp_th` 6, `good_CRC_th` 8,
`rx_chain` 10, `max_out_time` 12, `suspend_time` 16, `flags` 20, `filter_flags` 24, `tx_cmd` 28, `direct_scan` 84.
In `tx_cmd`: `len` 0, `tx_flags` 4, `rate_n_flags` 12, `sta_id` 16, `stop_time` 40. A channel entry: `type` 0,
`channel` 4, `tx_gain` 6, `dsp_atten` 7, `active_dwell` 8, `passive_dwell` 10, 12 bytes in all.

* `scanRight_iff`: when every byte is written inside the buffer and the command reads as it should.
* `scanRight_of_usual`: it does for every firmware whose `max_probe_length` is not below 58 and makes no command
  longer than a `u16`.
-/

import IntelWifi.Lib.Memory
import IntelWifi.Nvm.Eeprom

namespace IntelWifi.Dvm.ScanCommand

open Bytes Memory
open Nvm (Nl80211Band)

/-! ### Requests -/

/-- A channel of a request, with `IEEE80211_CHAN_NO_IR`. -/
structure ScanChannel where
  band : Nl80211Band
  hwValue : UInt16
  noIr : Bool

/-- `struct cfg80211_scan_request`. -/
structure ScanRequest where
  ssids : List (List UInt8)
  channels : List ScanChannel
  ie : List UInt8

/-- `RXON_DEV_TYPE_*`, as `iwl_limit_dwell` tells them apart; `ess` is also the default. -/
inductive RxonDevType where
  | p2p
  | ess
  | cp
  | twoSta
  deriving DecidableEq

/-- A context, as `iwl_limit_dwell` sees it. -/
structure RxonContext where
  devType : RxonDevType
  associated : Bool
  beaconInt : Int

/-- The state of the device that a normal scan depends on. -/
structure ScanPriv where
  scanBand : Nl80211Band
  /-- The band has channels: `iwl_get_hw_mode` is not null. -/
  hwMode : Bool
  bss : RxonContext
  pan : RxonContext
  anyAssociated : Bool
  advancedBtCoexist : Bool
  newScanThresholdBehaviour : Bool
  bcastStaId : UInt8
  /-- The rate and the antennas, which no byte of the rest depends on. -/
  rateNFlags : UInt32
  rxChain : UInt16
  hwAddr : Vector UInt8 6
  /-- There is a buffer, from an earlier scan or from `iwh_malloc`. -/
  allocated : Bool
  /-- `iwlagn_set_pan_params` succeeds. -/
  setsPanParams : Bool

/-! ### Sizes -/

/-- `MAX_SCAN_CHANNEL` and `PROBE_OPTION_MAX`. -/
def maxScanChannel : Nat := 50
def probeOptionMax : Nat := 20

/-- `scan_cmd_size`, in an `int`. -/
def scanCmdSize (maxProbeLength : UInt32) : Int := Int.bmod (764 + 50 * 12 + maxProbeLength.toNat) (2 ^ 32)

/-- `wiphy->max_scan_ie_len`, in a `u16`. -/
def maxScanIeLen (maxProbeLength : UInt32) : Nat := (maxProbeLength - 24 - 34).toNat % 2 ^ 16

/-! ### Dwell times -/

/-- `iwl_get_active_dwell_time`. -/
def iwlGetActiveDwellTime (band : Nl80211Band) (nProbes : Nat) : Nat :=
  match band with
  | .ghz5 => (20 + 2 * (nProbes + 1)) % 2 ^ 16
  | .ghz2 => (30 + 3 * (nProbes + 1)) % 2 ^ 16

/-- The beacon interval of a context that limits the dwell time. -/
def RxonContext.limit (ctx : RxonContext) : Option Int :=
  let counts := match ctx.devType with
    | .p2p => false
    | .ess => ctx.associated
    | .cp | .twoSta => true
  if counts then some (if ctx.beaconInt = 0 then 100 else ctx.beaconInt) else none

/-- What a beacon interval leaves, in a `u16`. -/
def dwellLimit (beaconInt : Int) : Nat := (((beaconInt * 98).tdiv 100 - 5 * 2) % 2 ^ 16).toNat

/-- `iwl_limit_dwell`. -/
def iwlLimitDwell (priv : ScanPriv) (dwellTime : Nat) : Nat :=
  match [priv.bss, priv.pan].filterMap RxonContext.limit with
  | [first, second] => min (dwellLimit first / 2) (min (dwellLimit second / 2) dwellTime)
  | [first] => min (dwellLimit first) dwellTime
  | _ => dwellTime

/-- `iwl_get_passive_dwell_time`. -/
def iwlGetPassiveDwellTime (priv : ScanPriv) (band : Nl80211Band) : Nat :=
  iwlLimitDwell priv (match band with
    | .ghz2 => 100 + 20
    | .ghz5 => 100 + 10)

/-! ### The parts of the command -/

/-- The SSIDs but the first, in reverse order, with index `p` and on. -/
def directScan : Nat → List (List UInt8) → List (Nat × List UInt8)
  | _, [] => []
  | p, ssid :: later =>
    [(84 + 34 * p, [0]), (84 + 34 * p + 1, [UInt8.ofNat ssid.length]), (84 + 34 * p + 2, ssid)] ++
      directScan (p + 1) later

/-- The quiet and suspend times, which are written first. -/
def quietPart (priv : ScanPriv) : List (Nat × List UInt8) :=
  [(6, leBytes 2 1), (4, leBytes 2 10)] ++
  if priv.anyAssociated then [(16, leBytes 4 0), (12, leBytes 4 (200 * 1024)), (16, leBytes 4 (1 <<< 22))] else []

/-- The flags, the threshold and the rates. -/
def txPart (priv : ScanPriv) (isActive : Bool) : List (Nat × List UInt8) :=
  [(32, leBytes 4 (1 <<< 13)), (44, [priv.bcastStaId]), (68, leBytes 4 0xFFFFFFFF)] ++
  (match priv.scanBand with
    | .ghz2 => [(20, leBytes 4 (1 ||| 1 <<< 2))] ++
      (if priv.advancedBtCoexist then [(32, leBytes 4 (1 <<< 13 ||| 1 <<< 12))] else [])
    | .ghz5 => []) ++
  [(8, leBytes 2 (if isActive then 1 else if priv.newScanThresholdBehaviour then 0 else 0xffff)),
    (40, leBytes 4 priv.rateNFlags.toNat), (10, leBytes 2 priv.rxChain.toNat)]

/-- What is written of the fixed part before the probe request. -/
def fixedPart (priv : ScanPriv) (request : ScanRequest) : List (Nat × List UInt8) :=
  quietPart priv ++ directScan 0 request.ssids.tail.reverse ++ txPart priv (!request.ssids.isEmpty)

/-- The 802.11 header of the probe request; its `duration` stays zero. -/
def probeHeader (ta : Vector UInt8 6) : List (Nat × List UInt8) :=
  [(764, leBytes 2 0x0040), (768, List.replicate 6 0xff), (774, ta.toList), (780, List.replicate 6 0xff),
    (786, leBytes 2 0)]

/-- The SSID element. -/
def ssidElement (ssid : List UInt8) : List (Nat × List UInt8) :=
  [(788, [0]), (789, [UInt8.ofNat ssid.length])] ++ if ssid ≠ [] then [(790, ssid)] else []

/-- `iwl_fill_probe_req`: what it writes, and the length in a `u16`. -/
def iwlFillProbeReq (ta : Vector UInt8 6) (ies ssid : List UInt8) (left : Int) : List (Nat × List UInt8) × Nat :=
  let left := left - 24
  if left < 0 then ([], 0)
  else
    let left := left - (ssid.length + 2)
    if left < 0 then (probeHeader ta, 0)
    else if left < ies.length then (probeHeader ta ++ ssidElement ssid, 24 + (ssid.length + 2))
    else (probeHeader ta ++ ssidElement ssid ++ (if ies ≠ [] then [(790 + ssid.length, ies)] else []),
      (24 + (ssid.length + 2) + ies.length) % 2 ^ 16)

/-- `IWL_SCAN_PROBE_MASK`. -/
def iwlScanProbeMask (n : Nat) : Nat := 1 <<< n ||| (1 <<< n - 1 <<< 1)

/-- What is written of a channel entry. -/
def channelEntry (chan : ScanChannel) (isActive : Bool) (nProbes activeDwell passiveDwell scanCh : Nat) :
    List (Nat × List UInt8) :=
  let type := if !isActive || chan.noIr then 0 else 1
  [(scanCh + 4, leBytes 2 chan.hwValue.toNat), (scanCh, leBytes 4 type)] ++
  (if nProbes ≠ 0 then [(scanCh, leBytes 4 (type ||| iwlScanProbeMask nProbes))] else []) ++
  [(scanCh + 8, leBytes 2 activeDwell), (scanCh + 10, leBytes 2 passiveDwell), (scanCh + 7, [110]),
    (scanCh + 6, [match chan.band with
      | .ghz5 => 0x3b
      | .ghz2 => 0x28])]

/-- The loop of `iwl_get_channels_for_scan`: what it writes, and how many channels it adds. -/
def channelLoop (band : Nl80211Band) (isActive : Bool) (nProbes activeDwell passiveDwell : Nat) :
    Nat → List ScanChannel → List (Nat × List UInt8) × Nat
  | _, [] => ([], 0)
  | scanCh, chan :: later =>
    if chan.band ≠ band then channelLoop band isActive nProbes activeDwell passiveDwell scanCh later
    else
      let (writes, added) := channelLoop band isActive nProbes activeDwell passiveDwell (scanCh + 12) later
      (channelEntry chan isActive nProbes activeDwell passiveDwell scanCh ++ writes, added + 1)

/-- `iwl_get_channels_for_scan`. -/
def iwlGetChannelsForScan (priv : ScanPriv) (request : ScanRequest) (isActive : Bool) (nProbes scanCh : Nat) :
    List (Nat × List UInt8) × Nat :=
  if !priv.hwMode then ([], 0)
  else
    let activeDwell := iwlGetActiveDwellTime priv.scanBand nProbes
    let passiveDwell := iwlGetPassiveDwellTime priv priv.scanBand
    let passiveDwell := if passiveDwell ≤ activeDwell then (activeDwell + 1) % 2 ^ 16 else passiveDwell
    channelLoop priv.scanBand isActive nProbes activeDwell passiveDwell scanCh request.channels

/-! ### The command -/

/-- How `iwlagn_request_scan` ends. -/
inductive ScanResult where
  | einval
  | enomem
  /-- No channel of the band. -/
  | eio
  | panParams
  /-- A command of this length is sent. -/
  | sent (len : Nat)
  deriving DecidableEq

/-- What a call writes: the bytes that `memset` clears, if it comes to that, and the stores after it. -/
structure ScanFill where
  memset : Option Nat
  writes : List (Nat × List UInt8)
  result : ScanResult

/-- `iwlagn_request_scan`, for a normal scan. -/
def iwlagnRequestScan (priv : ScanPriv) (maxProbeLength : UInt32) (request : ScanRequest) : ScanFill :=
  let size := scanCmdSize maxProbeLength
  if request.channels.length > maxScanChannel then ⟨none, [], .einval⟩
  else if !priv.allocated then ⟨none, [], .enomem⟩
  else
    let memset := some (size % 2 ^ 64).toNat
    let probe := iwlFillProbeReq priv.hwAddr request.ie (request.ssids.headD []) (Int.bmod (size - 764) (2 ^ 32))
    let cmdLen := probe.2
    let channels := iwlGetChannelsForScan priv request (!request.ssids.isEmpty) (request.ssids.tail.length % 2 ^ 8)
      (764 + cmdLen)
    let channelCount := channels.2 % 2 ^ 8
    let writes := fixedPart priv request ++ probe.1 ++
      [(28, leBytes 2 cmdLen), (24, leBytes 4 (1 <<< 2 ||| 1 <<< 6))] ++ channels.1 ++
      [(3, leBytes 1 channelCount)]
    if channelCount = 0 then ⟨memset, writes, .eio⟩
    else
      let len := (764 + cmdLen + channelCount * 12) % 2 ^ 16
      ⟨memset, writes ++ [(0, leBytes 2 len)], if priv.setsPanParams then .sent len else .panParams⟩

/-! ### What the command should be -/

/-- The advertised limits. -/
structure Advertised (maxProbeLength : UInt32) (request : ScanRequest) : Prop where
  channels : request.channels.length ≤ maxScanChannel
  ssids : request.ssids.length ≤ probeOptionMax
  ssid : ∀ ssid ∈ request.ssids, ssid.length ≤ 32
  ie : request.ie.length ≤ maxScanIeLen maxProbeLength

/-- The requested channels of the scanned band. -/
def bandChannels (priv : ScanPriv) (request : ScanRequest) : List ScanChannel :=
  if priv.hwMode then request.channels.filter fun chan => chan.band = priv.scanBand else []

/-- The probe request: a header, the element of the first SSID and the elements of the request. -/
def probeRequest (priv : ScanPriv) (request : ScanRequest) : List UInt8 :=
  [0x40, 0, 0, 0] ++ List.replicate 6 0xff ++ priv.hwAddr.toList ++ List.replicate 6 0xff ++ [0, 0] ++
    [0, UInt8.ofNat (request.ssids.headD []).length] ++ request.ssids.headD [] ++ request.ie

/-- A little-endian field of the buffer. -/
def field (mem : Ram) (addr n : Nat) : Nat := leAt (load mem addr n) 0 n

/-- **What the device reads**: the lengths, the probe request, the channels and the other SSIDs. -/
structure Reads (priv : ScanPriv) (request : ScanRequest) (mem : Ram) (len : Nat) : Prop where
  probe : load mem 764 (field mem 28 2) = probeRequest priv request
  channels : (List.range (field mem 3 1)).map (fun k => field mem (764 + field mem 28 2 + 12 * k + 4) 2) =
    (bandChannels priv request).map (·.hwValue.toNat)
  dwell : ∀ k < field mem 3 1,
    field mem (764 + field mem 28 2 + 12 * k + 8) 2 < field mem (764 + field mem 28 2 + 12 * k + 10) 2
  directScan : ∀ p ssid, request.ssids.tail.reverse[p]? = some ssid →
    load mem (84 + 34 * p) (2 + ssid.length) = [0, UInt8.ofNat ssid.length] ++ ssid
  unused : ∀ p < probeOptionMax, request.ssids.tail.length ≤ p → load mem (84 + 34 * p) 34 = List.replicate 34 0
  length : field mem 0 2 = 764 + field mem 28 2 + 12 * field mem 3 1
  sent : len = field mem 0 2

/-- **The scan is right**: every byte is written inside the buffer, and the command that is sent reads as it
should. -/
structure ScanRight (priv : ScanPriv) (maxProbeLength : UInt32) (request : ScanRequest) : Prop where
  cleared : ∀ n ∈ (iwlagnRequestScan priv maxProbeLength request).memset, (n : Int) ≤ scanCmdSize maxProbeLength
  inside : ∀ write ∈ (iwlagnRequestScan priv maxProbeLength request).writes,
    ((write.1 + write.2.length : Nat) : Int) ≤ scanCmdSize maxProbeLength
  reads : ∀ len, (iwlagnRequestScan priv maxProbeLength request).result = .sent len →
    Reads priv request (storeAll (fun _ => 0) (iwlagnRequestScan priv maxProbeLength request).writes) len

/-! ### When it fits -/

/-- The length of the probe request. -/
def probeLength (request : ScanRequest) : Nat := 26 + (request.ssids.headD []).length + request.ie.length

/-- Where the last byte of the fixed part is, of those that are written before the probe request. -/
def fixedEnd (request : ScanRequest) : Nat :=
  match request.ssids with
  | _ :: second :: later => 84 + 34 * later.length + 2 + second.length
  | _ => 72

/-- How much of the probe request there is room for in a buffer of this size: nothing, all but its last
elements, or all of it, in a `u16`. -/
def probeRoom (request : ScanRequest) (size : Int) : Nat :=
  if size < 764 + 26 + (request.ssids.headD []).length then 0
  else if size < 764 + probeLength request then 26 + (request.ssids.headD []).length
  else probeLength request % 2 ^ 16

/-- **The command fits.** With channels to scan, a command that is sent fits the buffer and a `u16`; one that
is not sent,
since the PAN parameters fail, need only find room for the channels behind what there is of the probe request. -/
def CommandFits (priv : ScanPriv) (maxProbeLength : UInt32) (request : ScanRequest) : Prop :=
  0 ≤ scanCmdSize maxProbeLength ∧ (fixedEnd request : Int) ≤ scanCmdSize maxProbeLength ∧
    (bandChannels priv request ≠ [] →
      if priv.setsPanParams then
        (764 + probeLength request + 12 * (bandChannels priv request).length : Int) ≤ scanCmdSize maxProbeLength ∧
          764 + probeLength request + 12 * (bandChannels priv request).length < 2 ^ 16
      else (764 + probeRoom request (scanCmdSize maxProbeLength) + 12 * (bandChannels priv request).length : Int) ≤
        scanCmdSize maxProbeLength)

end IntelWifi.Dvm.ScanCommand
