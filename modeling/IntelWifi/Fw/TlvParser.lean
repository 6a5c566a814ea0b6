/-
**`iwl_parse_tlv_firmware`.**

The header checks, the loop over TLVs with its unsigned remaining-length counter, one case of the
`switch` per TLV type, and the checks after the loop. Cases that differ only in a length, a field or
an image are one definition with parameters: `u32Tlv`, `emptyTlv`, `sectionTlv`, `secTlv`.
-/

import IntelWifi.Lib.Loop
import IntelWifi.Fw.Pieces

namespace IntelWifi.Fw

open IntelWifi.Bytes IntelWifi.Loop IntelWifi.Porting

/-! ### The cases of the switch -/

/-- `if (tlv_len != n) goto invalid_tlv_len`. -/
def exactLen (tlv : Tlv) (n : Nat) : Except ParseStop Unit :=
  if tlv.length ≠ n then .error .einval else .ok ()

/-- A TLV that is one `u32`. -/
def u32Tlv (file : Firmware) (tlv : Tlv) (store : Nat → TlvState) : Except ParseStop TlvState := do
  exactLen tlv 4
  let value ← file.read tlv.data 4
  .ok (store value)

/-- A TLV without a payload: `if (tlv_len) goto invalid_tlv_len`. -/
def emptyTlv (tlv : Tlv) (st : TlvState) : Except ParseStop TlvState := do
  exactLen tlv 0
  .ok st

/-- An INST or DATA TLV: `set_sec_data`, `set_sec_size`, `set_sec_offset`. -/
def sectionTlv (type : IwlUcodeType) (sec offset : Nat) (tlv : Tlv) (st : TlvState) : TlvState :=
  st.withImg type (setSecOffset sec offset
    (setSecSize sec tlv.length (setSecData sec tlv.data (st.pieces.img type))))

/-- `iwl_store_ucode_sec`: the payload is the device offset and the section's bytes. The length is
not checked. -/
def iwlStoreUcodeSec (file : Firmware) (tlv : Tlv) (type : IwlUcodeType) (st : TlvState) :
    Except ParseStop TlvState := do
  let offset ← file.read tlv.data 4
  .ok (st.withImg type
    (st.pieces.img type ++ [.assigned (tlv.data + 4) (secSize tlv.length) offset]))

/-- A SEC TLV of an MVM image. -/
def secTlv (file : Firmware) (tlv : Tlv) (type : IwlUcodeType) (st : TlvState) :
    Except ParseStop TlvState := do
  let stored ← iwlStoreUcodeSec file tlv type st
  .ok { stored with fw.type := .mvm }

/-- An API or CAPA TLV: an index and 32 flags. -/
def flagsTlv (file : Firmware) (tlv : Tlv) : Except ParseStop FlagsTlv := do
  exactLen tlv 8
  let apiIndex ← file.read tlv.data 4
  let apiFlags ← file.read (tlv.data + 4) 4
  .ok { apiIndex, apiFlags }

/-- `iwl_set_default_calib`, after its length check. -/
def iwlSetDefaultCalib (file : Firmware) (tlv : Tlv) (st : TlvState) :
    Except ParseStop TlvState := do
  exactLen tlv 12
  let ucodeType ← file.read tlv.data 4
  match IwlUcodeType.ofIndex ucodeType with
  | none => .error .einval
  | some type =>
    let flowTrigger ← file.read (tlv.data + 4) 4
    let eventTrigger ← file.read (tlv.data + 8) 4
    .ok { st with
      fw.defaultCalib := Function.update st.fw.defaultCalib type { flowTrigger, eventTrigger } }

/-- `IWL_UCODE_TLV_PHY_SKU`. -/
def phySkuTlv (phyConfig : Nat) (st : TlvState) : TlvState :=
  { st with
    fw.phyConfig := phyConfig
    fw.validTxAnt := (phyConfig &&& (0xf <<< 16)) >>> 16
    fw.validRxAnt := (phyConfig &&& (0xf <<< 20)) >>> 20 }

/-- `IWL_UCODE_TLV_NUM_OF_CPU`. A value with the sign bit is above 2 here and below 1 there. -/
def numOfCpuTlv (file : Firmware) (tlv : Tlv) (st : TlvState) : Except ParseStop TlvState := do
  exactLen tlv 4
  let numOfCpus ← file.read tlv.data 4
  if numOfCpus = 2 then
    .ok { st with
      fw.isDualCpus := fun type => if type = .regularUsniffer then st.fw.isDualCpus type else true }
  else if 2 < numOfCpus ∨ numOfCpus < 1 then .error .einval
  else .ok st

/-- `IWL_UCODE_MAX_CS`. -/
def iwlUcodeMaxCs : Nat := 1

/-- `sizeof(struct iwl_fw_cipher_scheme)`. -/
def cipherSchemeSize : Nat := 13

/-- The loop of `iwl_store_cscheme`, with `rounds` values of `i` to go: entry `j` of the payload is
looked at in every round. -/
def storeSchemes (file : Firmware) (data : Nat) :
    Nat → Nat → List CipherScheme → Except ParseStop (List CipherScheme)
  | 0, _, cs => .ok cs
  | rounds + 1, j, cs => do
    let entry := data + 1 + cipherSchemeSize * j
    let cipher ← file.read entry 4
    if cipher = 0 then storeSchemes file data rounds j cs
    else do
      let _ ← file.read entry cipherSchemeSize
      storeSchemes file data rounds (j + 1) (cs.set j (slice file.data entry cipherSchemeSize))

/-- `iwl_store_cscheme`. -/
def iwlStoreCscheme (file : Firmware) (tlv : Tlv) (st : TlvState) : Except ParseStop TlvState :=
  if tlv.length < 1 then .error .einval
  else do
    let size ← file.read tlv.data 1
    if tlv.length < 1 + size * cipherSchemeSize then .error .einval
    else do
      let cs ← storeSchemes file tlv.data (min iwlUcodeMaxCs size) 0 st.fw.cs
      .ok { st with fw.cs := cs }

/-- `IWL_UCODE_TLV_FW_VERSION`: `local_comp` is a `u8`. -/
def fwVersionTlv (file : Firmware) (tlv : Tlv) (st : TlvState) : Except ParseStop TlvState := do
  exactLen tlv 12
  let major ← file.read tlv.data 4
  let minor ← file.read (tlv.data + 4) 4
  let localComp ← file.read (tlv.data + 8) 4
  .ok { st with
    fw.fwVersion := snprintf ethtoolFwversLen
      (toString major ++ "." ++ toString minor ++ "." ++ toString (localComp % 256)) }

/-- `offsetof(struct iwl_fw_dbg_dest_tlv, reg_ops)`. -/
def dbgDestRegOps : Nat := 22

/-- `sizeof(struct iwl_fw_dbg_reg_op)`. -/
def dbgRegOpSize : Nat := 12

/-- `IWL_UCODE_TLV_FW_DBG_DEST`: the message reads `monitor_mode`, the count is a `u8`. The length
is not checked. -/
def fwDbgDestTlv (file : Firmware) (tlv : Tlv) (st : TlvState) : Except ParseStop TlvState :=
  if st.pieces.dbgDestTlv.isSome then .ok st
  else do
    let _ ← file.read (tlv.data + 1) 1
    .ok { st with
      pieces.dbgDestTlv := some tlv.data
      fw.dbgDestRegNum := sizeSub tlv.length dbgDestRegOps % 256 / dbgRegOpSize }

/-- `FW_DBG_CONF_MAX`. -/
def fwDbgConfMax : Nat := 32

/-- `IWL_UCODE_TLV_FW_DBG_CONF`: every branch reads `id`, the last one reads `usniffer`. The length
is not checked. -/
def fwDbgConfTlv (file : Firmware) (tlv : Tlv) (st : TlvState) : Except ParseStop TlvState := do
  let id ← file.read tlv.data 1
  if st.pieces.dbgDestTlv.isNone then .ok st
  else if id ≥ fwDbgConfMax then .ok st
  else if (st.pieces.dbgConfTlv id).isSome then .ok st
  else do
    let usniffer ← file.read (tlv.data + 1) 1
    .ok { st with
      usnifferReq := st.usnifferReq || usniffer != 0
      pieces.dbgConfTlv :=
        Function.update st.pieces.dbgConfTlv id (some ⟨tlv.data, tlv.length⟩) }

/-- `FW_DBG_TRIGGER_MAX`. -/
def fwDbgTriggerMax : Nat := 15

/-- `IWL_UCODE_TLV_FW_DBG_TRIGGER`. The length is not checked. -/
def fwDbgTriggerTlv (file : Firmware) (tlv : Tlv) (st : TlvState) : Except ParseStop TlvState := do
  let triggerId ← file.read tlv.data 4
  if triggerId ≥ fwDbgTriggerMax then .ok st
  else if (st.pieces.dbgTriggerTlv triggerId).isSome then .ok st
  else .ok { st with
    pieces.dbgTriggerTlv :=
      Function.update st.pieces.dbgTriggerTlv triggerId (some ⟨tlv.data, tlv.length⟩) }

/-- `MAX_PAGING_IMAGE_SIZE`: 32 blocks of 8 pages. -/
def maxPagingImageSize : Nat := 2 ^ 20

/-- `FW_PAGING_SIZE`. -/
def fwPagingSize : Nat := 2 ^ 12

/-- `IWL_UCODE_TLV_PAGING`. -/
def pagingTlv (file : Firmware) (tlv : Tlv) (st : TlvState) : Except ParseStop TlvState := do
  exactLen tlv 4
  let pagingMemSize ← file.read tlv.data 4
  if pagingMemSize > maxPagingImageSize then .error .einval
  else if pagingMemSize % fwPagingSize ≠ 0 then .error .einval
  else .ok { st with
    fw.pagingMemSize := Function.update
      (Function.update st.fw.pagingMemSize .regular pagingMemSize) .regularUsniffer pagingMemSize }

/-- `sizeof(struct iwl_fw_gscan_capabilities)`. -/
def gscanCapabilitiesSize : Nat := 52

/-- `iwl_store_gscan_capa`: 13 words in a row. -/
def iwlStoreGscanCapa (file : Firmware) (data : Nat) : GscanCapabilities where
  maxScanCacheSize := leAt file.data data 4
  maxScanBuckets := leAt file.data (data + 4) 4
  maxApCachePerScan := leAt file.data (data + 8) 4
  maxRssiSampleSize := leAt file.data (data + 12) 4
  maxScanReportingThreshold := leAt file.data (data + 16) 4
  maxHotlistAps := leAt file.data (data + 20) 4
  maxSignificantChangeAps := leAt file.data (data + 24) 4
  maxBssidHistoryEntries := leAt file.data (data + 28) 4
  maxHotlistSsids := leAt file.data (data + 32) 4
  maxNumberEpnoNetworks := leAt file.data (data + 36) 4
  maxNumberEpnoNetworksBySsid := leAt file.data (data + 40) 4
  maxNumberOfWhiteListedSsid := leAt file.data (data + 44) 4
  maxNumberOfBlackListedSsid := leAt file.data (data + 48) 4

/-- `IWL_UCODE_TLV_FW_GSCAN_CAPA`: the short format of old files is skipped. -/
def fwGscanCapaTlv (file : Firmware) (tlv : Tlv) (st : TlvState) : Except ParseStop TlvState :=
  if tlv.length < gscanCapabilitiesSize then .ok st
  else do
    let _ ← file.read tlv.data gscanCapabilitiesSize
    .ok { st with fw.gscanCapa := iwlStoreGscanCapa file tlv.data, gscanCapa := true }

/-- `type & FW_DBG_MEM_TYPE_MASK` is `FW_DBG_MEM_TYPE_REGULAR` or `FW_DBG_MEM_TYPE_PRPH`. -/
def knownMemType (dataType : Nat) : Bool :=
  dataType &&& 0xff000000 == 0x00000000 || dataType &&& 0xff000000 == 0x01000000

/-- `IWL_UCODE_TLV_FW_MEM_SEG`. -/
def fwMemSegTlv (file : Firmware) (tlv : Tlv) (st : TlvState) : Except ParseStop TlvState := do
  exactLen tlv 12
  let dataType ← file.read tlv.data 4
  if knownMemType dataType then
    let ofs ← file.read (tlv.data + 4) 4
    let len ← file.read (tlv.data + 8) 4
    .ok { st with pieces.dbgMemTlv := st.pieces.dbgMemTlv ++ [{ dataType, ofs, len }] }
  else .error .einval

/-- The `switch` on the TLV's type. -/
def handleTlv (file : Firmware) (tlv : Tlv) (st : TlvState) : Except ParseStop TlvState :=
  match tlv.type with
  | .inst => .ok (sectionTlv .regular sectionInst rtcInstLowerBound tlv st)
  | .data => .ok (sectionTlv .regular sectionData rtcDataLowerBound tlv st)
  | .init => .ok (sectionTlv .init sectionInst rtcInstLowerBound tlv st)
  | .initData => .ok (sectionTlv .init sectionData rtcDataLowerBound tlv st)
  | .boot => .ok st
  | .probeMaxLen => u32Tlv file tlv fun value => { st with capa.maxProbeLength := value }
  | .pan => emptyTlv tlv { st with capa.flags := st.capa.flags ||| 1 }
  | .flags =>
    if tlv.length < 4 then .error .einval
    else if tlv.length % 4 ≠ 0 then .error .einval
    else do
      let flags ← file.read tlv.data 4
      .ok { st with capa.flags := flags }
  | .apiChangesSet => do
    let flags ← flagsTlv file tlv
    .ok { st with capa := iwlSetUcodeApiFlags flags st.capa }
  | .enabledCapabilities => do
    let flags ← flagsTlv file tlv
    .ok { st with capa := iwlSetUcodeCapabilities flags st.capa }
  | .initEvtlogPtr => u32Tlv file tlv fun value => { st with pieces.initEvtlogPtr := value }
  | .initEvtlogSize => u32Tlv file tlv fun value => { st with pieces.initEvtlogSize := value }
  | .initErrlogPtr => u32Tlv file tlv fun value => { st with pieces.initErrlogPtr := value }
  | .runtEvtlogPtr => u32Tlv file tlv fun value => { st with pieces.instEvtlogPtr := value }
  | .runtEvtlogSize => u32Tlv file tlv fun value => { st with pieces.instEvtlogSize := value }
  | .runtErrlogPtr => u32Tlv file tlv fun value => { st with pieces.instErrlogPtr := value }
  | .enhanceSensTbl => emptyTlv tlv { st with fw.enhanceSensitivityTable := true }
  | .wowlanInst => .ok (sectionTlv .wowlan sectionInst rtcInstLowerBound tlv st)
  | .wowlanData => .ok (sectionTlv .wowlan sectionData rtcDataLowerBound tlv st)
  | .phyCalibrationSize =>
    u32Tlv file tlv fun value => { st with capa.standardPhyCalibrationSize := value }
  | .secRt => secTlv file tlv .regular st
  | .secInit => secTlv file tlv .init st
  | .secWowlan => secTlv file tlv .wowlan st
  | .defCalib => iwlSetDefaultCalib file tlv st
  | .phySku => u32Tlv file tlv fun value => phySkuTlv value st
  | .secureSecRt => secTlv file tlv .regular st
  | .secureSecInit => secTlv file tlv .init st
  | .secureSecWowlan => secTlv file tlv .wowlan st
  | .numOfCpu => numOfCpuTlv file tlv st
  | .cscheme => iwlStoreCscheme file tlv st
  | .nScanChannels => u32Tlv file tlv fun value => { st with capa.nScanChannels := value }
  | .fwVersion => fwVersionTlv file tlv st
  | .fwDbgDest => fwDbgDestTlv file tlv st
  | .fwDbgConf => fwDbgConfTlv file tlv st
  | .fwDbgTrigger => fwDbgTriggerTlv file tlv st
  | .secRtUsniffer => iwlStoreUcodeSec file tlv .regularUsniffer { st with usnifferImages := true }
  | .paging => pagingTlv file tlv st
  | .sdioAdmaAddr => u32Tlv file tlv fun value => { st with fw.sdioAdmaAddr := value }
  | .fwGscanCapa => fwGscanCapaTlv file tlv st
  | .fwMemSeg => fwMemSegTlv file tlv st
  | .unknown => .ok st

/-! ### The loop -/

/-- `data` and `len`: where the next TLV starts, and the counter of remaining bytes. -/
structure Cursor where
  data : Nat
  len : Nat
  deriving DecidableEq, Repr

/-- The head of the loop body: read a TLV header, check the announced length against the counter,
and move on by the padded length. The second subtraction is not checked. -/
def nextTlv (file : Firmware) (cur : Cursor) : Except ParseStop (Tlv × Cursor) := do
  let len := sizeSub cur.len tlvHeaderSize
  let tlvLen ← file.read (cur.data + 4) 4
  let tlvType ← file.read cur.data 4
  let tlv : Tlv := ⟨.ofLe32 tlvType, cur.data + tlvHeaderSize, tlvLen⟩
  if len < tlvLen then .error .einval
  else .ok (tlv, ⟨tlv.next, sizeSub len (lnxAlign tlvLen 4)⟩)

/-- One turn of `while (len >= sizeof(*tlv))`. -/
def tlvTurn (file : Firmware) :
    Cursor × TlvState → Turn (Cursor × TlvState) (Except ParseStop (Cursor × TlvState))
  | (cur, st) =>
    if cur.len < tlvHeaderSize then .leave (.ok (cur, st))
    else
      match nextTlv file cur with
      | .error stop => .leave (.error stop)
      | .ok (tlv, next) =>
        match handleTlv file tlv st with
        | .error stop => .leave (.error stop)
        | .ok st => .again (next, st)

/-- The header: its size, its magic, and the version it carries. -/
def tlvHeader (file : Firmware) (st : TlvState) : Except ParseStop (Cursor × TlvState) :=
  if file.size < tlvUcodeHeaderSize then .error .einval
  else do
    let magic ← file.read 4 4
    if magic ≠ tlvUcodeMagic then .error .einval
    else do
      let ver ← file.read 72 4
      let build ← file.read 76 4
      .ok (⟨tlvUcodeHeaderSize, sizeSub file.size tlvUcodeHeaderSize⟩,
        { st with
          fw.ucodeVer := ver
          fw.humanReadable := slice file.data 8 64
          fw.fwVersion := ucodeVersionText ver build })

/-- After the loop: the usniffer check, the leftover check, and the GSCAN clean-up. -/
def tlvFinish [WideShift] (cur : Cursor) (st : TlvState) : Except ParseStop TlvState :=
  if !fwHasCapa st.capa tlvCapaUsnifferUnified && st.usnifferReq && !st.usnifferImages then
    .error .einval
  else if cur.len ≠ 0 then .error .einval
  else if fwHasCapa st.capa tlvCapaGscanSupport && !st.gscanCapa then
    .ok { st with capa.capa := clearBit tlvCapaGscanSupport st.capa.capa }
  else .ok st

/-- Turns that are enough for any file: see `tlvLoop_total`. -/
def tlvFuel (file : Firmware) : Nat := file.size + 1

/-- `iwl_parse_tlv_firmware`; `some (.ok _)` when it returns 0. -/
def iwlParseTlvFirmware [WideShift] (file : Firmware) (st : TlvState) : Option (Except ParseStop TlvState) :=
  match tlvHeader file st with
  | .error stop => some (.error stop)
  | .ok entry => (run (tlvTurn file) (tlvFuel file) entry).map fun left =>
    match left with
    | .error stop => .error stop
    | .ok (cur, st) => tlvFinish cur st

end IntelWifi.Fw
