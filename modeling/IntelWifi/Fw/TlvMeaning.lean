/-
**What an accepted TLV means.**

The contents of a TLV are its type and its payload, without its place in the file. `TlvState.after` is
what a TLV does to the parser's records when nothing is wrong with it; only the pointers the parser keeps
depend on the place.

* `handleTlv_after`: on a well-formed TLV inside the file, the `switch` does just that.
-/

import IntelWifi.Fw.TlvSafety

namespace IntelWifi.Fw

open IntelWifi.Bytes

/-- A TLV without its place. -/
structure TlvContent where
  type : IwlUcodeTlvType
  payload : List UInt8
  deriving DecidableEq

/-- The payload of a TLV of the file. -/
def Firmware.payload (file : Firmware) (tlv : Tlv) : List UInt8 := slice file.data tlv.data tlv.length

def Firmware.content (file : Firmware) (tlv : Tlv) : TlvContent := ⟨tlv.type, file.payload tlv⟩

/-- The length a known type asks for. The last four are not checked by the parser, which reads as
much. -/
def requiredLength (c : TlvContent) : Bool :=
  let length := c.payload.length
  match c.type with
  | .inst | .data | .init | .initData | .boot | .wowlanInst | .wowlanData => true
  | .probeMaxLen | .initEvtlogPtr | .initEvtlogSize | .initErrlogPtr | .runtEvtlogPtr
  | .runtEvtlogSize | .runtErrlogPtr | .phyCalibrationSize | .phySku | .nScanChannels
  | .sdioAdmaAddr | .numOfCpu | .paging => length == 4
  | .pan | .enhanceSensTbl => length == 0
  | .flags => decide (4 ≤ length) && length % 4 == 0
  | .apiChangesSet | .enabledCapabilities => length == 8
  | .defCalib | .fwVersion | .fwMemSeg => length == 12
  | .cscheme =>
    decide (1 ≤ length) && decide (1 + leAt c.payload 0 1 * cipherSchemeSize ≤ length)
  | .fwGscanCapa => decide (gscanCapabilitiesSize ≤ length)
  | .secRt | .secInit | .secWowlan | .secureSecRt | .secureSecInit | .secureSecWowlan
  | .secRtUsniffer => decide (4 ≤ length) && decide (length < 2 ^ 31)
  | .fwDbgDest => decide (dbgDestRegOps ≤ length)
  | .fwDbgConf => decide (2 ≤ length)
  | .fwDbgTrigger => decide (4 ≤ length)
  | .unknown => false

/-- The values that are checked besides the length. -/
def supportedValue (c : TlvContent) : Bool :=
  match c.type with
  | .defCalib => (IwlUcodeType.ofIndex (leAt c.payload 0 4)).isSome
  | .numOfCpu => leAt c.payload 0 4 == 1 || leAt c.payload 0 4 == 2
  | .paging =>
    decide (leAt c.payload 0 4 ≤ maxPagingImageSize) && leAt c.payload 0 4 % fwPagingSize == 0
  | .fwMemSeg => knownMemType (leAt c.payload 0 4)
  | _ => true

/-- The payload of an API or CAPA TLV. -/
def flagsOf (payload : List UInt8) : FlagsTlv where
  apiIndex := leAt payload 0 4
  apiFlags := leAt payload 4 4

/-- The 13 words of a GSCAN TLV. -/
def gscanOf (payload : List UInt8) : GscanCapabilities where
  maxScanCacheSize := leAt payload 0 4
  maxScanBuckets := leAt payload 4 4
  maxApCachePerScan := leAt payload 8 4
  maxRssiSampleSize := leAt payload 12 4
  maxScanReportingThreshold := leAt payload 16 4
  maxHotlistAps := leAt payload 20 4
  maxSignificantChangeAps := leAt payload 24 4
  maxBssidHistoryEntries := leAt payload 28 4
  maxHotlistSsids := leAt payload 32 4
  maxNumberEpnoNetworks := leAt payload 36 4
  maxNumberEpnoNetworksBySsid := leAt payload 40 4
  maxNumberOfWhiteListedSsid := leAt payload 44 4
  maxNumberOfBlackListedSsid := leAt payload 48 4

/-- The version text of an FW_VERSION TLV. -/
@[irreducible] def versionOf (payload : List UInt8) : List Char :=
  snprintf ethtoolFwversLen
    (toString (leAt payload 0 4) ++ "." ++ toString (leAt payload 4 4) ++ "." ++
      toString (leAt payload 8 4 % 256))

/-- The scheme a CSCHEME TLV stores: its first, unless its cipher is zero. -/
def schemeOf (payload : List UInt8) : Option CipherScheme :=
  if 1 ≤ leAt payload 0 1 ∧ leAt payload 1 4 ≠ 0 then some (slice payload 1 cipherSchemeSize) else none

/-- The segment of a MEM_SEG TLV. -/
def memSegOf (payload : List UInt8) : DbgMemSeg :=
  ⟨leAt payload 0 4, leAt payload 4 4, leAt payload 8 4⟩

/-- `iwl_store_ucode_sec`, from the payload. -/
def TlvState.storeSec (st : TlvState) (type : IwlUcodeType) (tlv : Tlv) (payload : List UInt8) :
    TlvState :=
  st.withImg type
    (st.pieces.img type ++ [.assigned (tlv.data + 4) (secSize tlv.length) (leAt payload 0 4)])

/-- The first destination is kept. -/
def TlvState.keepDest (st : TlvState) (tlv : Tlv) : TlvState :=
  if st.pieces.dbgDestTlv.isSome then st
  else { st with
    pieces.dbgDestTlv := some tlv.data
    fw.dbgDestRegNum := sizeSub tlv.length dbgDestRegOps % 256 / dbgRegOpSize }

/-- After a destination, the first configuration of each index is kept. -/
def TlvState.keepConf (st : TlvState) (tlv : Tlv) (payload : List UInt8) : TlvState :=
  let id := leAt payload 0 1
  if st.pieces.dbgDestTlv.isNone ∨ id ≥ fwDbgConfMax ∨ (st.pieces.dbgConfTlv id).isSome then st
  else { st with
    usnifferReq := st.usnifferReq || leAt payload 1 1 != 0
    pieces.dbgConfTlv :=
      Function.update st.pieces.dbgConfTlv id (some ⟨tlv.data, tlv.length⟩) }

/-- The first trigger of each index is kept. -/
def TlvState.keepTrigger (st : TlvState) (tlv : Tlv) (payload : List UInt8) : TlvState :=
  let id := leAt payload 0 4
  if id ≥ fwDbgTriggerMax ∨ (st.pieces.dbgTriggerTlv id).isSome then st
  else { st with
    pieces.dbgTriggerTlv :=
      Function.update st.pieces.dbgTriggerTlv id (some ⟨tlv.data, tlv.length⟩) }

/-- **What a well-formed TLV does.** -/
def TlvState.after (st : TlvState) (tlv : Tlv) (payload : List UInt8) : TlvState :=
  match tlv.type with
  | .inst => sectionTlv .regular sectionInst rtcInstLowerBound tlv st
  | .data => sectionTlv .regular sectionData rtcDataLowerBound tlv st
  | .init => sectionTlv .init sectionInst rtcInstLowerBound tlv st
  | .initData => sectionTlv .init sectionData rtcDataLowerBound tlv st
  | .wowlanInst => sectionTlv .wowlan sectionInst rtcInstLowerBound tlv st
  | .wowlanData => sectionTlv .wowlan sectionData rtcDataLowerBound tlv st
  | .secRt | .secureSecRt => { st.storeSec .regular tlv payload with fw.type := .mvm }
  | .secInit | .secureSecInit => { st.storeSec .init tlv payload with fw.type := .mvm }
  | .secWowlan | .secureSecWowlan => { st.storeSec .wowlan tlv payload with fw.type := .mvm }
  | .secRtUsniffer =>
    ({ st with usnifferImages := true } : TlvState).storeSec .regularUsniffer tlv payload
  | .probeMaxLen => { st with capa.maxProbeLength := leAt payload 0 4 }
  | .pan => { st with capa.flags := st.capa.flags ||| 1 }
  | .flags => { st with capa.flags := leAt payload 0 4 }
  | .apiChangesSet => { st with capa := iwlSetUcodeApiFlags (flagsOf payload) st.capa }
  | .enabledCapabilities => { st with capa := iwlSetUcodeCapabilities (flagsOf payload) st.capa }
  | .initEvtlogPtr => { st with pieces.initEvtlogPtr := leAt payload 0 4 }
  | .initEvtlogSize => { st with pieces.initEvtlogSize := leAt payload 0 4 }
  | .initErrlogPtr => { st with pieces.initErrlogPtr := leAt payload 0 4 }
  | .runtEvtlogPtr => { st with pieces.instEvtlogPtr := leAt payload 0 4 }
  | .runtEvtlogSize => { st with pieces.instEvtlogSize := leAt payload 0 4 }
  | .runtErrlogPtr => { st with pieces.instErrlogPtr := leAt payload 0 4 }
  | .enhanceSensTbl => { st with fw.enhanceSensitivityTable := true }
  | .phyCalibrationSize => { st with capa.standardPhyCalibrationSize := leAt payload 0 4 }
  | .defCalib =>
    match IwlUcodeType.ofIndex (leAt payload 0 4) with
    | none => st
    | some type => { st with
      fw.defaultCalib :=
        Function.update st.fw.defaultCalib type ⟨leAt payload 4 4, leAt payload 8 4⟩ }
  | .phySku => phySkuTlv (leAt payload 0 4) st
  | .numOfCpu =>
    if leAt payload 0 4 = 2 then { st with
      fw.isDualCpus := fun type => if type = .regularUsniffer then st.fw.isDualCpus type else true }
    else st
  | .cscheme =>
    match schemeOf payload with
    | none => st
    | some scheme => { st with fw.cs := st.fw.cs.set 0 scheme }
  | .nScanChannels => { st with capa.nScanChannels := leAt payload 0 4 }
  | .fwVersion => { st with fw.fwVersion := versionOf payload }
  | .fwDbgDest => st.keepDest tlv
  | .fwDbgConf => st.keepConf tlv payload
  | .fwDbgTrigger => st.keepTrigger tlv payload
  | .paging => { st with
    fw.pagingMemSize := Function.update
      (Function.update st.fw.pagingMemSize .regular (leAt payload 0 4)) .regularUsniffer
      (leAt payload 0 4) }
  | .sdioAdmaAddr => { st with fw.sdioAdmaAddr := leAt payload 0 4 }
  | .fwGscanCapa => { st with fw.gscanCapa := gscanOf payload, gscanCapa := true }
  | .fwMemSeg => { st with pieces.dbgMemTlv := st.pieces.dbgMemTlv ++ [memSegOf payload] }
  | .boot | .unknown => st

/-! ### The switch on a well-formed TLV -/

section Handling

variable {file : Firmware} {tlv : Tlv} {st : TlvState}

/-- A field of the payload. -/
theorem read_payload {offset n : Nat} (inside : tlv.data + tlv.length ≤ file.size)
    (field : offset + n ≤ tlv.length) :
    file.read (tlv.data + offset) n = .ok (leAt (file.payload tlv) offset n) := by
  unfold Firmware.payload
  rw [leAt_slice field inside]
  exact Firmware.read_inside (by omega)

/-- The payload's first field. -/
theorem read_payload_zero {n : Nat} (inside : tlv.data + tlv.length ≤ file.size)
    (field : n ≤ tlv.length) :
    file.read tlv.data n = .ok (leAt (file.payload tlv) 0 n) := by
  have read := @read_payload file tlv 0 n inside (Nat.le_trans (Nat.le_of_eq (Nat.zero_add n)) field)
  rwa [Nat.add_zero] at read

theorem payload_length (inside : tlv.data + tlv.length ≤ file.size) :
    (file.payload tlv).length = tlv.length :=
  length_slice inside

theorem u32Tlv_payload (store : Nat → TlvState) (inside : tlv.data + tlv.length ≤ file.size)
    (length : tlv.length = 4) :
    u32Tlv file tlv store = .ok (store (leAt (file.payload tlv) 0 4)) := by
  unfold u32Tlv
  rw [exactLen_eq length, read_payload_zero inside (Nat.le_of_eq length.symm)]
  rfl

theorem emptyTlv_payload (length : tlv.length = 0) : emptyTlv tlv st = .ok st := by
  unfold emptyTlv
  rw [exactLen_eq length]
  rfl

theorem flagsTlv_payload (inside : tlv.data + tlv.length ≤ file.size) (length : tlv.length = 8) :
    flagsTlv file tlv = .ok (flagsOf (file.payload tlv)) := by
  unfold flagsTlv
  rw [exactLen_eq length, read_payload_zero inside (by omega), read_payload inside (by omega)]
  rfl

theorem iwlStoreUcodeSec_payload (type : IwlUcodeType) (inside : tlv.data + tlv.length ≤ file.size)
    (length : 4 ≤ tlv.length) :
    iwlStoreUcodeSec file tlv type st = .ok (st.storeSec type tlv (file.payload tlv)) := by
  unfold iwlStoreUcodeSec
  rw [read_payload_zero inside length]
  rfl

theorem secTlv_payload (type : IwlUcodeType) (inside : tlv.data + tlv.length ≤ file.size)
    (length : 4 ≤ tlv.length) :
    secTlv file tlv type st =
      .ok { st.storeSec type tlv (file.payload tlv) with fw.type := .mvm } := by
  unfold secTlv
  rw [iwlStoreUcodeSec_payload type inside length]
  rfl

theorem iwlSetDefaultCalib_payload {type : IwlUcodeType}
    (inside : tlv.data + tlv.length ≤ file.size) (length : tlv.length = 12)
    (known : IwlUcodeType.ofIndex (leAt (file.payload tlv) 0 4) = some type) :
    iwlSetDefaultCalib file tlv st = .ok { st with
      fw.defaultCalib := Function.update st.fw.defaultCalib type
        ⟨leAt (file.payload tlv) 4 4, leAt (file.payload tlv) 8 4⟩ } := by
  unfold iwlSetDefaultCalib
  rw [exactLen_eq length, read_payload_zero inside (by omega), read_payload inside (by omega),
    read_payload inside (by omega)]
  simp only [bind, Except.bind]
  rw [known]

theorem iwlStoreCscheme_payload (inside : tlv.data + tlv.length ≤ file.size) (one : 1 ≤ tlv.length)
    (all : 1 + leAt (file.payload tlv) 0 1 * cipherSchemeSize ≤ tlv.length) :
    iwlStoreCscheme file tlv st = .ok (
      match schemeOf (file.payload tlv) with
      | none => st
      | some scheme => { st with fw.cs := st.fw.cs.set 0 scheme }) := by
  unfold iwlStoreCscheme
  rw [if_neg (Nat.not_lt.mpr one), read_payload_zero inside one]
  simp only [bind, Except.bind]
  rw [if_neg (Nat.not_lt.mpr all)]
  unfold schemeOf
  unfold cipherSchemeSize at all
  rcases Nat.eq_zero_or_pos (leAt (file.payload tlv) 0 1) with none | some
  · rw [none, if_neg (by omega)]
    rfl
  · have rounds : min iwlUcodeMaxCs (leAt (file.payload tlv) 0 1) = 1 := by
      unfold iwlUcodeMaxCs
      omega
    rw [rounds, storeSchemes, Nat.mul_zero, Nat.add_zero, read_payload inside (by omega)]
    simp only [bind, Except.bind]
    by_cases cipher : leAt (file.payload tlv) 1 4 = 0
    · rw [if_pos cipher, if_neg (fun both => both.2 cipher)]
      rfl
    · rw [if_neg cipher, if_pos ⟨some, cipher⟩, read_payload inside (by unfold cipherSchemeSize; omega)]
      have scheme : slice (file.payload tlv) 1 cipherSchemeSize =
          slice file.data (tlv.data + 1) cipherSchemeSize :=
        slice_slice (by unfold cipherSchemeSize; omega)
      rw [scheme]
      rfl

theorem fwVersionTlv_payload (inside : tlv.data + tlv.length ≤ file.size) (length : tlv.length = 12) :
    fwVersionTlv file tlv st = .ok { st with fw.fwVersion := versionOf (file.payload tlv) } := by
  unfold fwVersionTlv versionOf
  rw [exactLen_eq length, read_payload_zero inside (by omega), read_payload inside (by omega),
    read_payload inside (by omega)]
  rfl

theorem fwDbgDestTlv_payload (inside : tlv.data + tlv.length ≤ file.size) (length : 2 ≤ tlv.length) :
    fwDbgDestTlv file tlv st = .ok (st.keepDest tlv) := by
  unfold fwDbgDestTlv TlvState.keepDest
  split
  · rfl
  · rw [read_payload inside (by omega)]
    rfl

theorem fwDbgConfTlv_payload (inside : tlv.data + tlv.length ≤ file.size) (length : 2 ≤ tlv.length) :
    fwDbgConfTlv file tlv st = .ok (st.keepConf tlv (file.payload tlv)) := by
  unfold fwDbgConfTlv TlvState.keepConf
  rw [read_payload_zero inside (by omega)]
  simp only [bind, Except.bind]
  by_cases noDest : st.pieces.dbgDestTlv.isNone = true
  · rw [if_pos noDest, if_pos (.inl noDest)]
  · by_cases large : leAt (file.payload tlv) 0 1 ≥ fwDbgConfMax
    · rw [if_neg noDest, if_pos large, if_pos (.inr (.inl large))]
    · by_cases taken : (st.pieces.dbgConfTlv (leAt (file.payload tlv) 0 1)).isSome = true
      · rw [if_neg noDest, if_neg large, if_pos taken, if_pos (.inr (.inr taken))]
      · rw [if_neg noDest, if_neg large, if_neg taken, read_payload inside (by omega),
          if_neg (by rintro (h | h | h); exacts [noDest h, large h, taken h])]

theorem fwDbgTriggerTlv_payload (inside : tlv.data + tlv.length ≤ file.size)
    (length : 4 ≤ tlv.length) :
    fwDbgTriggerTlv file tlv st = .ok (st.keepTrigger tlv (file.payload tlv)) := by
  unfold fwDbgTriggerTlv TlvState.keepTrigger
  rw [read_payload_zero inside length]
  simp only [bind, Except.bind]
  by_cases large : leAt (file.payload tlv) 0 4 ≥ fwDbgTriggerMax
  · rw [if_pos large, if_pos (.inl large)]
  · by_cases taken : (st.pieces.dbgTriggerTlv (leAt (file.payload tlv) 0 4)).isSome = true
    · rw [if_neg large, if_pos taken, if_pos (.inr taken)]
    · rw [if_neg large, if_neg taken, if_neg (by rintro (h | h); exacts [large h, taken h])]

theorem pagingTlv_payload (inside : tlv.data + tlv.length ≤ file.size) (length : tlv.length = 4)
    (fits : leAt (file.payload tlv) 0 4 ≤ maxPagingImageSize)
    (pages : leAt (file.payload tlv) 0 4 % fwPagingSize = 0) :
    pagingTlv file tlv st = .ok { st with
      fw.pagingMemSize := Function.update
        (Function.update st.fw.pagingMemSize .regular (leAt (file.payload tlv) 0 4)) .regularUsniffer
        (leAt (file.payload tlv) 0 4) } := by
  unfold pagingTlv
  rw [exactLen_eq length, read_payload_zero inside (by omega)]
  simp only [bind, Except.bind]
  rw [if_neg (Nat.not_lt.mpr fits), if_neg (not_not.mpr pages)]

theorem fwGscanCapaTlv_payload (inside : tlv.data + tlv.length ≤ file.size)
    (length : gscanCapabilitiesSize ≤ tlv.length) :
    fwGscanCapaTlv file tlv st =
      .ok { st with fw.gscanCapa := gscanOf (file.payload tlv), gscanCapa := true } := by
  have words : iwlStoreGscanCapa file tlv.data = gscanOf (file.payload tlv) := by
    unfold gscanCapabilitiesSize at length
    unfold iwlStoreGscanCapa gscanOf Firmware.payload
    rw [leAt_slice (by omega) inside, leAt_slice (by omega) inside, leAt_slice (by omega) inside,
      leAt_slice (by omega) inside, leAt_slice (by omega) inside, leAt_slice (by omega) inside,
      leAt_slice (by omega) inside, leAt_slice (by omega) inside, leAt_slice (by omega) inside,
      leAt_slice (by omega) inside, leAt_slice (by omega) inside, leAt_slice (by omega) inside,
      leAt_slice (by omega) inside]
    rfl
  unfold fwGscanCapaTlv
  rw [if_neg (Nat.not_lt.mpr length), read_payload_zero inside length, words]
  rfl

theorem fwMemSegTlv_payload (inside : tlv.data + tlv.length ≤ file.size) (length : tlv.length = 12)
    (known : knownMemType (leAt (file.payload tlv) 0 4) = true) :
    fwMemSegTlv file tlv st = .ok { st with
      pieces.dbgMemTlv := st.pieces.dbgMemTlv ++ [memSegOf (file.payload tlv)] } := by
  unfold fwMemSegTlv
  rw [exactLen_eq length, read_payload_zero inside (by omega), read_payload inside (by omega),
    read_payload inside (by omega)]
  simp only [bind, Except.bind]
  rw [if_pos known]
  rfl

theorem numOfCpuTlv_payload (inside : tlv.data + tlv.length ≤ file.size) (length : tlv.length = 4)
    (known : leAt (file.payload tlv) 0 4 = 1 ∨ leAt (file.payload tlv) 0 4 = 2) :
    numOfCpuTlv file tlv st = .ok (
      if leAt (file.payload tlv) 0 4 = 2 then { st with
        fw.isDualCpus := fun type =>
          if type = .regularUsniffer then st.fw.isDualCpus type else true }
      else st) := by
  unfold numOfCpuTlv
  rw [exactLen_eq length, read_payload_zero inside (by omega)]
  simp only [bind, Except.bind]
  split
  · rfl
  · rw [if_neg (by omega)]

theorem flagsCase_payload (inside : tlv.data + tlv.length ≤ file.size) (four : 4 ≤ tlv.length)
    (words : tlv.length % 4 = 0) :
    (if tlv.length < 4 then .error .einval
      else if tlv.length % 4 ≠ 0 then .error .einval
      else do
        let flags ← file.read tlv.data 4
        .ok { st with capa.flags := flags } : Except ParseStop TlvState) =
      .ok { st with capa.flags := leAt (file.payload tlv) 0 4 } := by
  rw [if_neg (Nat.not_lt.mpr four), if_neg (not_not.mpr words), read_payload_zero inside four]
  rfl

end Handling

/-- **The `switch` does what a well-formed TLV means.** -/
theorem handleTlv_after {file : Firmware} {tlv : Tlv} (st : TlvState)
    (inside : tlv.data + tlv.length ≤ file.size)
    (length : requiredLength (file.content tlv) = true)
    (value : supportedValue (file.content tlv) = true) :
    handleTlv file tlv st = .ok (st.after tlv (file.payload tlv)) := by
  have payload := payload_length inside
  obtain ⟨type, data, len⟩ := tlv
  unfold requiredLength Firmware.content at length
  unfold supportedValue Firmware.content at value
  dsimp only at length value
  rw [payload] at length
  cases type with
  | inst | data | init | initData | wowlanInst | wowlanData | boot => rfl
  | unknown => cases length
  | probeMaxLen | initEvtlogPtr | initEvtlogSize | initErrlogPtr | runtEvtlogPtr | runtEvtlogSize
  | runtErrlogPtr | phyCalibrationSize | phySku | nScanChannels | sdioAdmaAddr =>
    exact u32Tlv_payload _ inside (by simpa using length)
  | pan | enhanceSensTbl => exact emptyTlv_payload (by simpa using length)
  | flags =>
    simp only [Bool.and_eq_true, decide_eq_true_eq, beq_iff_eq] at length
    exact flagsCase_payload inside length.1 length.2
  | apiChangesSet | enabledCapabilities =>
    unfold handleTlv
    dsimp only
    rw [flagsTlv_payload inside (by simpa using length)]
    rfl
  | secRt | secInit | secWowlan | secureSecRt | secureSecInit | secureSecWowlan =>
    simp only [Bool.and_eq_true, decide_eq_true_eq] at length
    exact secTlv_payload _ inside length.1
  | secRtUsniffer =>
    simp only [Bool.and_eq_true, decide_eq_true_eq] at length
    exact iwlStoreUcodeSec_payload _ inside length.1
  | defCalib =>
    dsimp only at value
    obtain ⟨image, known⟩ := Option.isSome_iff_exists.mp value
    unfold handleTlv TlvState.after
    dsimp only
    rw [iwlSetDefaultCalib_payload inside (by simpa using length) known, known]
  | numOfCpu =>
    dsimp only at value
    simp only [Bool.or_eq_true, beq_iff_eq] at value
    exact numOfCpuTlv_payload inside (by simpa using length) value
  | cscheme =>
    simp only [Bool.and_eq_true, decide_eq_true_eq] at length
    exact iwlStoreCscheme_payload inside length.1 length.2
  | fwVersion => exact fwVersionTlv_payload inside (by simpa using length)
  | fwDbgDest =>
    have enough : dbgDestRegOps ≤ len := by simpa using length
    exact fwDbgDestTlv_payload inside (Nat.le_trans (by decide) enough)
  | fwDbgConf => exact fwDbgConfTlv_payload inside (by simpa using length)
  | fwDbgTrigger => exact fwDbgTriggerTlv_payload inside (by simpa using length)
  | paging =>
    dsimp only at value
    simp only [Bool.and_eq_true, decide_eq_true_eq, beq_iff_eq] at value
    exact pagingTlv_payload inside (by simpa using length) value.1 value.2
  | fwGscanCapa => exact fwGscanCapaTlv_payload inside (by simpa using length)
  | fwMemSeg => exact fwMemSegTlv_payload inside (by simpa using length) value

/-! ### The cipher schemes -/

/-- The schemes of a CSCHEME payload, in order: a count and as many schemes. -/
def payloadSchemes (payload : List UInt8) : List CipherScheme :=
  (List.range (leAt payload 0 1)).map fun k => slice payload (1 + cipherSchemeSize * k) cipherSchemeSize

/-- The schemes with a cipher among the first `IWL_UCODE_MAX_CS`. -/
def keptSchemes (payload : List UInt8) : List CipherScheme :=
  ((payloadSchemes payload).take (min (leAt payload 0 1) iwlUcodeMaxCs)).filter fun scheme =>
    leAt scheme 0 4 ≠ 0

/-- There is room for one scheme, so the first decides. -/
theorem keptSchemes_eq {payload : List UInt8} (one : 1 ≤ payload.length)
    (all : 1 + leAt payload 0 1 * cipherSchemeSize ≤ payload.length) :
    keptSchemes payload = (schemeOf payload).toList := by
  unfold keptSchemes payloadSchemes schemeOf iwlUcodeMaxCs
  unfold cipherSchemeSize at all ⊢
  cases size : leAt payload 0 1 with
  | zero => rw [if_neg (by omega)]; rfl
  | succ more =>
    have cipher : leAt (slice payload 1 13) 0 4 = leAt payload 1 4 :=
      leAt_slice (by omega) (by rw [size] at all; omega)
    have first : min (more + 1) 1 = 1 := by omega
    rw [List.range_succ_eq_map, List.map_cons, first, List.take_succ_cons, List.take_zero,
      Nat.mul_zero, Nat.add_zero]
    by_cases zero : leAt payload 1 4 = 0
    · rw [if_neg (fun both => both.2 zero)]
      simp [cipher, zero]
    · rw [if_pos ⟨by omega, zero⟩]
      simp [cipher, zero]

theorem iwlStoreCscheme_fits {file : Firmware} {tlv : Tlv} {st st' : TlvState}
    (inside : tlv.data + tlv.length ≤ file.size) (accepted : iwlStoreCscheme file tlv st = .ok st') :
    1 ≤ tlv.length ∧ 1 + leAt (file.payload tlv) 0 1 * cipherSchemeSize ≤ tlv.length := by
  unfold iwlStoreCscheme at accepted
  by_cases empty : tlv.length < 1
  · rw [if_pos empty] at accepted
    cases accepted
  · rw [if_neg empty, read_payload_zero inside (Nat.not_lt.mp empty)] at accepted
    simp only [bind, Except.bind] at accepted
    by_cases short : tlv.length < 1 + leAt (file.payload tlv) 0 1 * cipherSchemeSize
    · rw [if_pos short] at accepted
      cases accepted
    · exact ⟨Nat.not_lt.mp empty, Nat.not_lt.mp short⟩

/-- **The stored schemes**: `fw->cs`, an array of `IWL_UCODE_MAX_CS`, begins with the schemes of an accepted
payload that have a cipher, among as many as the array has room for. Nothing else changes. -/
theorem iwlStoreCscheme_stores {file : Firmware} {tlv : Tlv} {st st' : TlvState}
    (inside : tlv.data + tlv.length ≤ file.size) (room : st.fw.cs.length = iwlUcodeMaxCs)
    (accepted : iwlStoreCscheme file tlv st = .ok st') :
    st' = { st with
      fw.cs := keptSchemes (file.payload tlv) ++ st.fw.cs.drop (keptSchemes (file.payload tlv)).length } := by
  obtain ⟨one, all⟩ := iwlStoreCscheme_fits inside accepted
  have length := payload_length inside
  rw [keptSchemes_eq (by omega) (by omega)]
  rw [iwlStoreCscheme_payload inside one all] at accepted
  obtain ⟨scheme, alone⟩ := List.length_eq_one_iff.mp room
  cases stored : schemeOf (file.payload tlv) with
  | none =>
    rw [stored] at accepted
    cases accepted
    rfl
  | some kept =>
    rw [stored] at accepted
    cases accepted
    rw [alone]
    rfl

/-- A payload of two schemes, the first with a cipher. -/
def twoSchemesFile : Firmware where
  data := 2 :: (List.replicate 13 1 ++ List.replicate 13 2)
  size_lt := by decide

def twoSchemesTlv : Tlv := { type := .cscheme, length := 27, data := 0 }

def twoSchemesState (cs : List CipherScheme) : TlvState :=
  { TlvState.start .zero ⟨0, 0, 0, 0, [], []⟩ with fw.cs := cs }

theorem twoSchemes_stores :
    twoSchemesState [List.replicate 13 1] =
      { twoSchemesState [List.replicate 13 0] with
        fw.cs := keptSchemes (twoSchemesFile.payload twoSchemesTlv) ++
          [List.replicate 13 0].drop (keptSchemes (twoSchemesFile.payload twoSchemesTlv)).length } := by
  have accepted : iwlStoreCscheme twoSchemesFile twoSchemesTlv (twoSchemesState [List.replicate 13 0]) =
      .ok (twoSchemesState [List.replicate 13 1]) :=
    iwlStoreCscheme_payload (by decide) (by decide) (by decide)
  exact iwlStoreCscheme_stores (by decide) rfl accepted

end IntelWifi.Fw
