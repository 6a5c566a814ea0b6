/-
**`iwl_parse_eeprom_data`.**

The image is a byte string. Links in it give the base of most tables; `iwl_eeprom_query_addr` turns an
offset with such a link into an address and compares it with the size of the image, and then the
reader takes its bytes from there. Every byte it takes goes through `load`, which faults outside the
image, as does following the null pointer of a query that failed.

The memory that `iwh_malloc` gives is not cleared: what it holds is an input. Of the log the model has
the bytes that are read for it, when it is on.
-/

import IntelWifi.Lib.Bytes
import IntelWifi.Lib.Checked

namespace IntelWifi.Nvm

open Bytes Checked

/-- An EEPROM image. -/
abbrev Eeprom := List UInt8

/-- Why `iwl_parse_eeprom_data` returns `NULL`. -/
inductive EepromError where
  /-- The configuration has no EEPROM parameters. -/
  | params
  | memory
  /-- A query fails. -/
  | nodata
  | antennas
  deriving DecidableEq, Repr

/-- The `n`-byte little-endian field at an address. -/
def load (eeprom : Eeprom) (address n : Nat) : Outcome EepromError Nat :=
  if Inside eeprom address n then .ok (leAt eeprom address n) else .error .fault

/-- The `n` bytes at an address, for `memcpy`. -/
def loadBytes (eeprom : Eeprom) (address n : Nat) : Outcome EepromError (List UInt8) :=
  if Inside eeprom address n then .ok (slice eeprom address n) else .error .fault

/-- A field that a pointer reaches. -/
def deref (eeprom : Eeprom) (pointer : Option Nat) (offset n : Nat) : Outcome EepromError Nat :=
  match pointer with
  | none => .error .fault
  | some address => load eeprom (address + offset) n

/-- The `s8` of a byte. -/
def s8 (byte : Nat) : Int := if byte < 128 then byte else (byte : Int) - 256

/-- A C `int` stored in an `s8`. -/
def toS8 (value : Int) : Int := s8 (value % 256).toNat

/-! ### Addresses -/

/-- `ADDRESS_MSK`. -/
def addressMsk : BitVec 32 := 0x0000FFFF
/-- `INDIRECT_TYPE_MSK`. -/
def indirectTypeMsk : BitVec 32 := 0x000F0000
/-- `INDIRECT_ADDRESS`. -/
def indirectAddress : BitVec 32 := 0x00100000
/-- `INDIRECT_REGULATORY`. -/
def indirectRegulatory : BitVec 32 := 0x00030000
/-- `INDIRECT_CALIBRATION`. -/
def indirectCalibration : BitVec 32 := 0x00040000
/-- `INDIRECT_TXP_LIMIT`. -/
def indirectTxpLimit : BitVec 32 := 0x00070000
/-- `INDIRECT_TXP_LIMIT_SIZE`. -/
def indirectTxpLimitSize : BitVec 32 := 0x00080000

/-- The `EEPROM_LINK_*` of an `INDIRECT_*`. -/
def eepromLink (type : BitVec 32) : Option Nat :=
  if type = 0x00010000 then some (2 * 0x64)
  else if type = 0x00020000 then some (2 * 0x65)
  else if type = indirectRegulatory then some (2 * 0x66)
  else if type = indirectTxpLimit then some (2 * 0x6a)
  else if type = indirectTxpLimitSize then some (2 * 0x6b)
  else if type = indirectCalibration then some (2 * 0x67)
  else if type = 0x00050000 then some (2 * 0x68)
  else if type = 0x00060000 then some (2 * 0x69)
  else none

/-- `EEPROM_MAC_ADDRESS`. -/
def eepromMacAddress : BitVec 32 := 2 * 0x15
/-- `EEPROM_NUM_MAC_ADDRESS`. -/
def eepromNumMacAddress : Nat := 2 * 0x4C
/-- `EEPROM_VERSION`. -/
def eepromVersion : Nat := 2 * 0x44
/-- `EEPROM_SKU_CAP`. -/
def eepromSkuCap : Nat := 2 * 0x45
/-- `EEPROM_RADIO_CONFIG`. -/
def eepromRadioConfig : Nat := 2 * 0x48
/-- `EEPROM_CALIB_ALL`. -/
def eepromCalibAll : BitVec 32 := indirectAddress ||| indirectCalibration
/-- `EEPROM_XTAL`. -/
def eepromXtal : BitVec 32 := (2 * 0x128) ||| eepromCalibAll
/-- `EEPROM_KELVIN_TEMPERATURE`. -/
def eepromKelvinTemperature : BitVec 32 := (2 * 0x12A) ||| eepromCalibAll
/-- `EEPROM_RAW_TEMPERATURE`. -/
def eepromRawTemperature : BitVec 32 := (2 * 0x12B) ||| eepromCalibAll
/-- `EEPROM_TXP_OFFS`. -/
def eepromTxpOffs : BitVec 32 := indirectAddress ||| indirectTxpLimit
/-- `EEPROM_TXP_SZ_OFFS`. -/
def eepromTxpSzOffs : BitVec 32 := indirectAddress ||| indirectTxpLimitSize

/-- `iwl_eeprom_query16`: past the end it warns and gives 0. -/
def iwlEepromQuery16 (eeprom : Eeprom) (offset : Nat) : Outcome EepromError Nat :=
  if eeprom.length < offset + 2 then .ok 0 else load eeprom offset 2

/-- `eeprom_indirect_address`. -/
def eepromIndirectAddress (eeprom : Eeprom) (address : BitVec 32) : Outcome EepromError Nat :=
  if address &&& indirectAddress = 0 then .ok address.toNat
  else do
    let offset ← match eepromLink (address &&& indirectTypeMsk) with
      | some link => iwlEepromQuery16 eeprom link
      | none => .ok 0
    .ok ((address &&& addressMsk).toNat + offset * 2)

/-- `iwl_eeprom_query_addr`. -/
def iwlEepromQueryAddr (eeprom : Eeprom) (offset : BitVec 32) : Outcome EepromError (Option Nat) := do
  let address ← eepromIndirectAddress eeprom offset
  .ok (if eeprom.length ≤ address then none else some address)

/-- A query whose failure ends the parse. -/
def queried (eeprom : Eeprom) (offset : BitVec 32) : Outcome EepromError Nat := do
  match ← iwlEepromQueryAddr eeprom offset with
  | none => .error (.error .nodata)
  | some address => .ok address

/-! ### What is parsed -/

/-- `struct iwl_eeprom_params`, and `regulatory_bands[band - 1]`. -/
structure IwlEepromParams where
  regulatoryBands : Vector UInt8 7
  enhancedTxpower : Bool

/-- The part of `struct iwl_cfg` that is used, the module parameter, and whether the log is on. -/
structure IwlCfg where
  eepromParams : Option IwlEepromParams
  validTxAnt : Nat
  validRxAnt : Nat
  disableHtAll : Bool
  log : Bool

/-- `enum nl80211_band`. -/
inductive Nl80211Band where
  | ghz2
  | ghz5
  deriving DecidableEq, Repr

/-- `struct ieee80211_channel`, with its `IEEE80211_CHAN_*` flags. -/
structure Ieee80211Channel where
  hwValue : Nat
  band : Nl80211Band
  noIr : Bool
  radar : Bool
  noHt40Plus : Bool
  noHt40Minus : Bool
  maxPower : Int
  deriving DecidableEq, Repr

/-- `struct iwl_nvm_data`, with the channels that are used. -/
structure IwlNvmData where
  hwAddr : List UInt8
  nHwAddrs : Nat
  calibVersion : Nat
  calibVoltage : Nat
  rawTemperature : Nat
  kelvinTemperature : Nat
  kelvinVoltage : Nat
  xtalCalib : List UInt8
  skuCapBand24GHzEnable : Bool
  skuCapBand52GHzEnable : Bool
  skuCap11nEnable : Bool
  skuCapAmtEnable : Bool
  skuCapIpanEnable : Bool
  radioCfgType : Nat
  radioCfgStep : Nat
  radioCfgDash : Nat
  radioCfgPnum : Nat
  validTxAnt : Nat
  validRxAnt : Nat
  nvmVersion : Nat
  maxTxPwrHalfDbm : Int
  channels : List Ieee80211Channel
  deriving DecidableEq, Repr

/-! ### Bands -/

/-- `iwl_eeprom_band_1` to `iwl_eeprom_band_7`. -/
def eepromChArray : Nat → List Nat
  | 1 => [1, 2, 3, 4, 5, 6, 7, 8, 9, 10, 11, 12, 13, 14]
  | 2 => [183, 184, 185, 187, 188, 189, 192, 196, 7, 8, 11, 12, 16]
  | 3 => [34, 36, 38, 40, 42, 44, 46, 48, 52, 56, 60, 64]
  | 4 => [100, 104, 108, 112, 116, 120, 124, 128, 132, 136, 140]
  | 5 => [145, 149, 153, 157, 161, 165]
  | 6 => [1, 2, 3, 4, 5, 6, 7]
  | 7 => [36, 44, 52, 60, 100, 108, 116, 124, 132, 149, 157]
  | _ => []

/-- The offset of `iwl_init_band_reference`. -/
def bandOffset (params : IwlEepromParams) (band : Nat) : BitVec 32 :=
  BitVec.ofNat 32 (params.regulatoryBands.toList.getD (band - 1) 0).toNat |||
    (indirectAddress ||| indirectRegulatory)

/-- `iwl_init_band_reference`: where the flags of a band are. Its channels are `eepromChArray`. -/
def iwlInitBandReference (params : IwlEepromParams) (eeprom : Eeprom) (band : Nat) :
    Outcome EepromError (Option Nat) :=
  iwlEepromQueryAddr eeprom (bandOffset params band)

/-- `EEPROM_CHANNEL_VALID`. -/
def channelValid (flags : Nat) : Bool := flags.testBit 0

/-- A channel of one of the first five bands. -/
def initChannel (band hwValue flags power : Nat) : Ieee80211Channel where
  hwValue := hwValue
  band := if band = 1 then .ghz2 else .ghz5
  noIr := !flags.testBit 1 || !flags.testBit 3
  radar := flags.testBit 4
  noHt40Plus := true
  noHt40Minus := true
  maxPower := s8 power

/-- The loop over the channels of a band, from one index on. -/
def readBand (eeprom : Eeprom) (chInfo : Option Nat) (band : Nat) :
    Nat → List Nat → List Ieee80211Channel → Outcome EepromError (List Ieee80211Channel)
  | _, [], channels => .ok channels
  | chIdx, hwValue :: later, channels => do
    let flags ← deref eeprom chInfo (2 * chIdx) 1
    if !channelValid flags then readBand eeprom chInfo band (chIdx + 1) later channels
    else do
      let power ← deref eeprom chInfo (2 * chIdx + 1) 1
      readBand eeprom chInfo band (chIdx + 1) later
        (channels ++ [initChannel band hwValue flags power])

/-- The loop over bands. -/
def readBands (params : IwlEepromParams) (eeprom : Eeprom) :
    List Nat → List Ieee80211Channel → Outcome EepromError (List Ieee80211Channel)
  | [], channels => .ok channels
  | band :: later, channels => do
    let chInfo ← iwlInitBandReference params eeprom band
    let channels ← readBand eeprom chInfo band 0 (eepromChArray band) channels
    readBands params eeprom later channels

/-! ### TX power -/

/-- A field of an entry of the enhanced TX power table is read when it is looked at, and then it may
raise the result. -/
def chainPower (eeprom : Eeprom) (entry : Option Nat) (offset : Nat) (looked : Bool) (result : Int) :
    Outcome EepromError Int :=
  if looked then do
    let power ← deref eeprom entry offset 1
    .ok (if s8 power > result then s8 power else result)
  else .ok result

/-- `iwl_get_max_txpwr_half_dbm`. -/
def iwlGetMaxTxpwrHalfDbm (eeprom : Eeprom) (validTxAnt : Nat) (entry : Option Nat) :
    Outcome EepromError Int := do
  let result ← chainPower eeprom entry 2 (validTxAnt.testBit 0) 0
  let result ← chainPower eeprom entry 3 (validTxAnt.testBit 1) result
  let result ← chainPower eeprom entry 4 (validTxAnt.testBit 2) result
  let result ← chainPower eeprom entry 6 (validTxAnt == 3 || validTxAnt == 6 || validTxAnt == 5) result
  chainPower eeprom entry 7 (validTxAnt == 7) result

/-- What `iwl_eeprom_enh_txp_read_element` does to a channel. -/
def enhTxpChannel (flags channel : Nat) (maxTxpowerAvg : Int) (chan : Ieee80211Channel) :
    Ieee80211Channel :=
  if channel ≠ 0 ∧ chan.hwValue ≠ channel then chan
  else if (if flags.testBit 1 then Nl80211Band.ghz5 else .ghz2) ≠ chan.band then chan
  else if chan.maxPower < maxTxpowerAvg ∧ flags.testBit 3 = false then
    { chan with maxPower := maxTxpowerAvg }
  else chan

/-- `iwl_eeprom_enh_txp_read_element`: the channel of the entry is looked at when there are channels. -/
def iwlEepromEnhTxpReadElement (eeprom : Eeprom) (entry : Option Nat) (flags : Nat)
    (maxTxpowerAvg : Int) (channels : List Ieee80211Channel) :
    Outcome EepromError (List Ieee80211Channel) :=
  match channels with
  | [] => .ok []
  | chan :: later => do
    let channel ← deref eeprom entry 1 1
    .ok ((chan :: later).map (enhTxpChannel flags channel maxTxpowerAvg))

/-- The bytes of an entry that only the log reads. -/
def logEntry (eeprom : Eeprom) (entry : Option Nat) (log : Bool) : Outcome EepromError Unit :=
  if log then do
    let _ ← deref eeprom entry 0 8
    .ok ()
  else .ok ()

/-- The channels and `max_tx_pwr_half_dbm`. -/
@[ext] structure TxPower where
  channels : List Ieee80211Channel
  maxTxPwrHalfDbm : Int
  deriving DecidableEq, Repr

/-- One turn of the loop of `iwl_eeprom_enhanced_txpower`. -/
def txpEntry (eeprom : Eeprom) (log : Bool) (validTxAnt : Nat) (entry : Option Nat) (power : TxPower) :
    Outcome EepromError TxPower := do
  let flags ← deref eeprom entry 0 1
  if !flags.testBit 0 then .ok power
  else do
    logEntry eeprom entry log
    let halfDbm ← iwlGetMaxTxpwrHalfDbm eeprom validTxAnt entry
    let channels ←
      iwlEepromEnhTxpReadElement eeprom entry flags (toS8 ((halfDbm + 1) / 2)) power.channels
    .ok ⟨channels, if halfDbm > power.maxTxPwrHalfDbm then halfDbm else power.maxTxPwrHalfDbm⟩

/-- The loop of `iwl_eeprom_enhanced_txpower`, with so many entries to go. -/
def txpEntries (eeprom : Eeprom) (log : Bool) (validTxAnt : Nat) (txpArray : Option Nat) :
    Nat → Nat → TxPower → Outcome EepromError TxPower
  | 0, _, power => .ok power
  | rounds + 1, idx, power => do
    let power ← txpEntry eeprom log validTxAnt (txpArray.map (· + 8 * idx)) power
    txpEntries eeprom log validTxAnt txpArray rounds (idx + 1) power

/-- `iwl_eeprom_enhanced_txpower`. -/
def iwlEepromEnhancedTxpower (eeprom : Eeprom) (log : Bool) (validTxAnt : Nat) (power : TxPower) :
    Outcome EepromError TxPower := do
  let txpLen ← iwlEepromQueryAddr eeprom eepromTxpSzOffs
  let words ← deref eeprom txpLen 0 2
  let txpArray ← iwlEepromQueryAddr eeprom eepromTxpOffs
  txpEntries eeprom log validTxAnt txpArray (words * 2 / 8) 0 power

/-- `max_tx_pwr_half_dbm` from the channel map. -/
def channelMapPower (channels : List Ieee80211Channel) : Int :=
  channels.foldl (fun most chan => max most (toS8 (chan.maxPower * 2))) (-128)

/-- The TX power limits: from the enhanced table, or from the channel map. -/
def initTxPower (params : IwlEepromParams) (eeprom : Eeprom) (log : Bool) (validTxAnt : Nat)
    (power : TxPower) : Outcome EepromError TxPower :=
  if params.enhancedTxpower then iwlEepromEnhancedTxpower eeprom log validTxAnt power
  else .ok { power with maxTxPwrHalfDbm := channelMapPower power.channels }

/-! ### HT40 -/

/-- One of the two flags `IEEE80211_CHAN_NO_HT40PLUS` and `IEEE80211_CHAN_NO_HT40MINUS`. -/
inductive Ht40Flag where
  | plus
  | minus
  deriving DecidableEq, Repr

/-- A flag is cleared. -/
def Ieee80211Channel.clear (chan : Ieee80211Channel) : Ht40Flag → Ieee80211Channel
  | .plus => { chan with noHt40Plus := false }
  | .minus => { chan with noHt40Minus := false }

/-- `iwl_mod_ht40_chan_info`: the flags of the entry are read if the channel is in use. -/
def iwlModHt40ChanInfo (eeprom : Eeprom) (log : Bool) (channels : List Ieee80211Channel)
    (band : Nl80211Band) (channel : Nat) (entry : Option Nat) (clear : Ht40Flag) :
    Outcome EepromError (List Ieee80211Channel) :=
  match channels.findIdx? fun chan => chan.band == band && chan.hwValue == channel with
  | none => .ok channels
  | some i => do
    let flags ← deref eeprom entry 0 1
    if log then do
      let _ ← deref eeprom entry 1 1
      .ok (if channelValid flags then channels.modify i (·.clear clear) else channels)
    else .ok (if channelValid flags then channels.modify i (·.clear clear) else channels)

/-- The loop over the channels of an HT40 band, from one index on. -/
def readHt40Band (eeprom : Eeprom) (log : Bool) (chInfo : Option Nat) (band : Nl80211Band) :
    Nat → List Nat → List Ieee80211Channel → Outcome EepromError (List Ieee80211Channel)
  | _, [], channels => .ok channels
  | chIdx, channel :: later, channels => do
    let entry := chInfo.map (· + 2 * chIdx)
    let channels ← iwlModHt40ChanInfo eeprom log channels band channel entry .plus
    let channels ← iwlModHt40ChanInfo eeprom log channels band (channel + 4) entry .minus
    readHt40Band eeprom log chInfo band (chIdx + 1) later channels

/-- The loop over the HT40 bands. -/
def readHt40Bands (params : IwlEepromParams) (eeprom : Eeprom) (log : Bool) :
    List Nat → List Ieee80211Channel → Outcome EepromError (List Ieee80211Channel)
  | [], channels => .ok channels
  | band :: later, channels => do
    let chInfo ← iwlInitBandReference params eeprom band
    let channels ← readHt40Band eeprom log chInfo (if band = 6 then .ghz2 else .ghz5) 0
      (eepromChArray band) channels
    readHt40Bands params eeprom log later channels

/-- Neither band has HT40 channels: both are `EEPROM_REGULATORY_BAND_NO_HT40`. -/
def noHt40Bands (params : IwlEepromParams) : Bool :=
  params.regulatoryBands[5] == 0 && params.regulatoryBands[6] == 0

/-- `iwl_init_channel_map`, with `max_tx_pwr_half_dbm` as it was. -/
def iwlInitChannelMap (params : IwlEepromParams) (eeprom : Eeprom) (log : Bool) (validTxAnt : Nat)
    (maxTxPwrHalfDbm : Int) : Outcome EepromError TxPower := do
  let channels ← readBands params eeprom [1, 2, 3, 4, 5] []
  let power ← initTxPower params eeprom log validTxAnt ⟨channels, maxTxPwrHalfDbm⟩
  if noHt40Bands params then .ok power
  else do
    let channels ← readHt40Bands params eeprom log [6, 7] power.channels
    .ok { power with channels := channels }

/-! ### The whole image -/

/-- `iwl_eeprom_read_calib`: the version and the voltage. -/
def iwlEepromReadCalib (eeprom : Eeprom) : Outcome EepromError (Nat × Nat) := do
  let hdr ← queried eeprom eepromCalibAll
  let version ← load eeprom hdr 1
  let voltage ← load eeprom (hdr + 2) 2
  .ok (version, voltage)

/-- An antenna mask, as the configuration overrides it. -/
def validAnt (override radioCfg shift : Nat) : Nat :=
  if override ≠ 0 then override else (radioCfg >>> shift) &&& 0xF

/-- `iwl_parse_eeprom_data`, with the memory that it gets, if any. -/
def iwlParseEepromData (cfg : IwlCfg) (memory : Option IwlNvmData) (eeprom : Eeprom) :
    Outcome EepromError IwlNvmData :=
  match cfg.eepromParams, memory with
  | none, _ => .error (.error .params)
  | some _, none => .error (.error .memory)
  | some params, some data => do
    let tmp ← queried eeprom eepromMacAddress
    let hwAddr ← loadBytes eeprom tmp 6
    let nHwAddrs ← iwlEepromQuery16 eeprom eepromNumMacAddress
    let (calibVersion, calibVoltage) ← iwlEepromReadCalib eeprom
    let tmp ← queried eeprom eepromXtal
    let xtalCalib ← loadBytes eeprom tmp 4
    let tmp ← queried eeprom eepromRawTemperature
    let rawTemperature ← load eeprom tmp 2
    let tmp ← queried eeprom eepromKelvinTemperature
    let kelvinTemperature ← load eeprom tmp 2
    let kelvinVoltage ← load eeprom (tmp + 2) 2
    let radioCfg ← iwlEepromQuery16 eeprom eepromRadioConfig
    let sku ← iwlEepromQuery16 eeprom eepromSkuCap
    let nvmVersion ← iwlEepromQuery16 eeprom eepromVersion
    let validTxAnt := validAnt cfg.validTxAnt radioCfg 8
    let validRxAnt := validAnt cfg.validRxAnt radioCfg 12
    if validTxAnt = 0 ∨ validRxAnt = 0 then .error (.error .antennas)
    else do
      let power ← iwlInitChannelMap params eeprom cfg.log validTxAnt data.maxTxPwrHalfDbm
      .ok {
        hwAddr, nHwAddrs, calibVersion, calibVoltage, rawTemperature, kelvinTemperature
        kelvinVoltage, xtalCalib
        skuCapBand24GHzEnable := sku.testBit 4
        skuCapBand52GHzEnable := sku.testBit 5
        skuCap11nEnable := sku.testBit 6 && !cfg.disableHtAll
        skuCapAmtEnable := sku.testBit 7
        skuCapIpanEnable := sku.testBit 8
        radioCfgType := radioCfg &&& 0x3
        radioCfgStep := (radioCfg >>> 2) &&& 0x3
        radioCfgDash := (radioCfg >>> 4) &&& 0x3
        radioCfgPnum := (radioCfg >>> 6) &&& 0x3
        validTxAnt, validRxAnt, nvmVersion
        maxTxPwrHalfDbm := power.maxTxPwrHalfDbm
        channels := power.channels }

end IntelWifi.Nvm
