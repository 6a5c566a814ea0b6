/-
**What the parsers fill in.**

`struct iwl_firmware_pieces`, the fields of `struct iwl_fw` the parsers assign, and the two routines
that grow an image's section records: `alloc_sec_data`, by index, and the append at the end of
`iwl_store_ucode_sec`. A record member is `none` until it is assigned: the blocks come from
`iwh_malloc` and hold whatever the memory held.
-/

import Mathlib.Logic.Function.Basic
import IntelWifi.Fw.Capabilities

namespace IntelWifi.Fw

open IntelWifi.Bytes

/-- `struct fw_sec`: an offset into the file, a size, and the offset in the device. -/
structure FwSec where
  data : Option Nat
  size : Option Nat
  offset : Option Nat
  deriving DecidableEq, Repr

/-- A record of a block fresh from `iwh_malloc`. -/
def FwSec.unassigned : FwSec := ⟨none, none, none⟩

/-- A record with all three members assigned. -/
def FwSec.assigned (data size offset : Nat) : FwSec := ⟨some data, some size, some offset⟩

/-- `alloc_sec_data`: at least `sec + 1` records. The indices in use are 0 and 1, so a list that has
to grow holds the `sec` records the `memcpy` takes, or none. -/
def allocSecData (sec : Nat) (records : List FwSec) : List FwSec :=
  if sec + 1 ≤ records.length then records
  else records ++ List.replicate (sec + 1 - records.length) .unassigned

/-- What the three `set_sec_*` share: grow the list, then assign one member of the record. -/
def setSecField (sec : Nat) (assign : FwSec → FwSec) (records : List FwSec) : List FwSec :=
  (allocSecData sec records).modify sec assign

/-- `set_sec_data`. -/
def setSecData (sec data : Nat) : List FwSec → List FwSec :=
  setSecField sec fun record => { record with data := some data }

/-- `set_sec_size`. -/
def setSecSize (sec size : Nat) : List FwSec → List FwSec :=
  setSecField sec fun record => { record with size := some size }

/-- `set_sec_offset`. -/
def setSecOffset (sec offset : Nat) : List FwSec → List FwSec :=
  setSecField sec fun record => { record with offset := some offset }

/-- `int size` made from the `u32` length of a TLV. -/
def intOfU32 (value : Nat) : Int := if value < 2 ^ 31 then value else value - 2 ^ 32

/-- `size - sizeof(sec_parse->offset)`, in `size_t`. -/
def secSize (length : Nat) : Nat := ((intOfU32 length - 4) % 2 ^ 64).toNat

/-- A debug TLV the pieces point to. -/
structure DbgTlv where
  data : Nat
  length : Nat
  deriving DecidableEq, Repr

/-- `struct iwl_fw_dbg_mem_seg_tlv`. -/
structure DbgMemSeg where
  dataType : Nat
  ofs : Nat
  len : Nat
  deriving DecidableEq, Repr

/-- `struct iwl_firmware_pieces`. An image's `sec_counter` is the length of its list. -/
structure IwlFirmwarePieces where
  img : IwlUcodeType → List FwSec
  initEvtlogPtr : Nat
  initEvtlogSize : Nat
  initErrlogPtr : Nat
  instEvtlogPtr : Nat
  instEvtlogSize : Nat
  instErrlogPtr : Nat
  dbgDestTlv : Option Nat
  dbgConfTlv : Nat → Option DbgTlv
  dbgTriggerTlv : Nat → Option DbgTlv
  dbgMemTlv : List DbgMemSeg

/-- The zeroed block `iwl_req_fw_callback` starts from. -/
def IwlFirmwarePieces.zero : IwlFirmwarePieces where
  img := fun _ => []
  initEvtlogPtr := 0
  initEvtlogSize := 0
  initErrlogPtr := 0
  instEvtlogPtr := 0
  instEvtlogSize := 0
  instErrlogPtr := 0
  dbgDestTlv := none
  dbgConfTlv := fun _ => none
  dbgTriggerTlv := fun _ => none
  dbgMemTlv := []

/-- `enum iwl_fw_type`. -/
inductive IwlFwType where
  | dvm | mvm
  deriving DecidableEq, Repr

/-- `struct iwl_tlv_calib_ctrl`. -/
structure CalibCtrl where
  flowTrigger : Nat
  eventTrigger : Nat
  deriving DecidableEq, Repr

/-- `struct iwl_gscan_capabilities`. -/
structure GscanCapabilities where
  maxScanCacheSize : Nat
  maxScanBuckets : Nat
  maxApCachePerScan : Nat
  maxRssiSampleSize : Nat
  maxScanReportingThreshold : Nat
  maxHotlistAps : Nat
  maxSignificantChangeAps : Nat
  maxBssidHistoryEntries : Nat
  maxHotlistSsids : Nat
  maxNumberEpnoNetworks : Nat
  maxNumberEpnoNetworksBySsid : Nat
  maxNumberOfWhiteListedSsid : Nat
  maxNumberOfBlackListedSsid : Nat
  deriving DecidableEq, Repr

/-- The 13 bytes of a `struct iwl_fw_cipher_scheme`. -/
abbrev CipherScheme := List UInt8

/-- The fields of `struct iwl_fw` the parsers assign. -/
structure IwlFw where
  ucodeVer : Nat
  humanReadable : List UInt8
  fwVersion : List Char
  enhanceSensitivityTable : Bool
  type : IwlFwType
  defaultCalib : IwlUcodeType → CalibCtrl
  phyConfig : Nat
  validTxAnt : Nat
  validRxAnt : Nat
  isDualCpus : IwlUcodeType → Bool
  pagingMemSize : IwlUcodeType → Nat
  cs : List CipherScheme
  sdioAdmaAddr : Nat
  dbgDestRegNum : Nat
  gscanCapa : GscanCapabilities

/-- The fields of a zeroed `struct iwl_drv`. -/
def IwlFw.zero : IwlFw where
  ucodeVer := 0
  humanReadable := List.replicate 64 0
  fwVersion := []
  enhanceSensitivityTable := false
  type := .dvm
  defaultCalib := fun _ => ⟨0, 0⟩
  phyConfig := 0
  validTxAnt := 0
  validRxAnt := 0
  isDualCpus := fun _ => false
  pagingMemSize := fun _ => 0
  cs := [List.replicate 13 0]
  sdioAdmaAddr := 0
  dbgDestRegNum := 0
  gscanCapa := ⟨0, 0, 0, 0, 0, 0, 0, 0, 0, 0, 0, 0, 0⟩

/-- What the TLV loop carries: the pieces, the two records of the driver it fills, and its flags. -/
structure TlvState where
  pieces : IwlFirmwarePieces
  fw : IwlFw
  capa : IwlUcodeCapabilities
  usnifferImages : Bool
  usnifferReq : Bool
  gscanCapa : Bool

/-- The pieces with one image's records replaced. -/
def IwlFirmwarePieces.withImg (pieces : IwlFirmwarePieces) (type : IwlUcodeType)
    (records : List FwSec) : IwlFirmwarePieces :=
  { pieces with img := Function.update pieces.img type records }

def TlvState.withImg (st : TlvState) (type : IwlUcodeType) (records : List FwSec) : TlvState :=
  { st with pieces := st.pieces.withImg type records }

/-- `IWL_UCODE_MAJOR`. -/
def iwlUcodeMajor (ver : Nat) : Nat := (ver &&& 0xFF000000) >>> 24

/-- `IWL_UCODE_MINOR`. -/
def iwlUcodeMinor (ver : Nat) : Nat := (ver &&& 0x00FF0000) >>> 16

/-- `IWL_UCODE_API`. -/
def iwlUcodeApi (ver : Nat) : Nat := (ver &&& 0x0000FF00) >>> 8

/-- `IWL_UCODE_SERIAL`. -/
def iwlUcodeSerial (ver : Nat) : Nat := ver &&& 0x000000FF

/-- What `snprintf` leaves in a buffer of `size` characters. -/
def snprintf (size : Nat) (text : String) : List Char := text.toList.take (size - 1)

/-- `ETHTOOL_FWVERS_LEN`. -/
def ethtoolFwversLen : Nat := 32

/-- `buildstr`. -/
def buildStr (build : Nat) : String :=
  if build ≠ 0 then String.ofList (snprintf 25 (" build " ++ toString build)) else ""

/-- The version string of both file formats. -/
def ucodeVersionText (ver build : Nat) : List Char :=
  snprintf ethtoolFwversLen (toString (iwlUcodeMajor ver) ++ "." ++ toString (iwlUcodeMinor ver) ++
    "." ++ toString (iwlUcodeApi ver) ++ "." ++ toString (iwlUcodeSerial ver) ++ buildStr build)

/-! ### The records after a write -/

theorem length_allocSecData (sec : Nat) (records : List FwSec) :
    (allocSecData sec records).length = max (sec + 1) records.length := by
  unfold allocSecData
  split
  · omega
  · rw [List.length_append, List.length_replicate]
    omega

theorem allocSecData_of_lt {sec : Nat} {records : List FwSec} (lt : sec < records.length) :
    allocSecData sec records = records :=
  if_pos lt

/-- Two assignments to one record are one assignment. -/
theorem setSecField_setSecField (sec : Nat) (first second : FwSec → FwSec)
    (records : List FwSec) :
    setSecField sec second (setSecField sec first records) =
      setSecField sec (second ∘ first) records := by
  have grown : sec < ((allocSecData sec records).modify sec first).length := by
    rw [List.length_modify, length_allocSecData]
    omega
  unfold setSecField
  rw [allocSecData_of_lt grown]
  exact List.modify_modify_eq _ _ _ _

/-- A section assigned as a whole, in a list grown to hold it. -/
def setSection (sec data size offset : Nat) : List FwSec → List FwSec :=
  setSecField sec fun _ => .assigned data size offset

/-- The size of a stored section, when the length covers the offset and is an `int`. -/
theorem secSize_of_mem {length : Nat} (low : 4 ≤ length) (high : length < 2 ^ 31) :
    secSize length = length - 4 := by
  unfold secSize intOfU32
  rw [if_pos high]
  omega

/-- Otherwise it is near the top of `size_t`. -/
theorem secSize_large {length : Nat} (word : length < 2 ^ 32)
    (bad : ¬ (4 ≤ length ∧ length < 2 ^ 31)) : 2 ^ 63 ≤ secSize length := by
  unfold secSize intOfU32
  split <;> omega

end IntelWifi.Fw
