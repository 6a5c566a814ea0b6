/-
**The firmware file and its TLV records.**

A firmware file is a byte string with a length that fits an object. After a header of 88 bytes come
TLVs: a 4-byte type, a 4-byte length, and the payload padded to a multiple of 4. Reads go through
`Firmware.read`, which stops the parser when a byte lies outside the file.
-/

import IntelWifi.Lib.Bytes

namespace IntelWifi.Fw

open IntelWifi.Bytes

/-- `struct firmware`. The kext's loader passes a 32-bit length; all that is used of the bound is
that no object spans half the address space. -/
structure Firmware where
  data : List UInt8
  size_lt : data.length < 2 ^ 63

/-- `ucode_raw->size`. -/
def Firmware.size (file : Firmware) : Nat := file.data.length

/-- Why a parser stops. -/
inductive ParseStop where
  /-- `-EINVAL` is returned. -/
  | einval
  /-- A byte outside the file is about to be read. -/
  | outOfBounds
  deriving DecidableEq, Repr

/-- An `n`-byte little-endian field of the file. -/
def Firmware.read (file : Firmware) (offset n : Nat) : Except ParseStop Nat :=
  if Inside file.data offset n then .ok (leAt file.data offset n) else .error .outOfBounds

theorem Firmware.read_inside {file : Firmware} {offset n : Nat} (inside : offset + n ≤ file.size) :
    file.read offset n = .ok (leAt file.data offset n) :=
  if_pos inside

theorem Firmware.read_outside {file : Firmware} {offset n : Nat}
    (outside : file.size < offset + n) : file.read offset n = .error .outOfBounds :=
  if_neg (Nat.not_le.mpr outside)

/-- `enum iwl_ucode_type`. -/
inductive IwlUcodeType where
  | regular | init | wowlan | regularUsniffer
  deriving DecidableEq, Repr

/-- `IWL_UCODE_TYPE_MAX`. -/
def iwlUcodeTypeMax : Nat := 4

/-- The image a `le32` names, as an array index below `IWL_UCODE_TYPE_MAX`. -/
def IwlUcodeType.ofIndex : Nat → Option IwlUcodeType
  | 0 => some .regular
  | 1 => some .init
  | 2 => some .wowlan
  | 3 => some .regularUsniffer
  | _ => none

/-- `IWL_UCODE_SECTION_DATA`. -/
def sectionData : Nat := 0

/-- `IWL_UCODE_SECTION_INST`. -/
def sectionInst : Nat := 1

/-- `IWLAGN_RTC_INST_LOWER_BOUND`. -/
def rtcInstLowerBound : Nat := 0x000000

/-- `IWLAGN_RTC_DATA_LOWER_BOUND`. -/
def rtcDataLowerBound : Nat := 0x800000

/-- `enum iwl_ucode_tlv_type`, as far as the parser's `switch` names it. -/
inductive IwlUcodeTlvType where
  | inst | data | init | initData | boot
  | probeMaxLen | pan
  | runtEvtlogPtr | runtEvtlogSize | runtErrlogPtr
  | initEvtlogPtr | initEvtlogSize | initErrlogPtr
  | enhanceSensTbl | phyCalibrationSize
  | wowlanInst | wowlanData
  | flags
  | secRt | secInit | secWowlan
  | defCalib | phySku
  | secureSecRt | secureSecInit | secureSecWowlan
  | numOfCpu | cscheme | apiChangesSet | enabledCapabilities | nScanChannels
  | paging | secRtUsniffer | sdioAdmaAddr | fwVersion
  | fwDbgDest | fwDbgConf | fwDbgTrigger
  | fwGscanCapa | fwMemSeg
  /-- The `default` of the `switch`. -/
  | unknown
  deriving DecidableEq, Repr

def IwlUcodeTlvType.ofLe32 : Nat → IwlUcodeTlvType
  | 1 => .inst | 2 => .data | 3 => .init | 4 => .initData | 5 => .boot
  | 6 => .probeMaxLen | 7 => .pan
  | 8 => .runtEvtlogPtr | 9 => .runtEvtlogSize | 10 => .runtErrlogPtr
  | 11 => .initEvtlogPtr | 12 => .initEvtlogSize | 13 => .initErrlogPtr
  | 14 => .enhanceSensTbl | 15 => .phyCalibrationSize
  | 16 => .wowlanInst | 17 => .wowlanData
  | 18 => .flags
  | 19 => .secRt | 20 => .secInit | 21 => .secWowlan
  | 22 => .defCalib | 23 => .phySku
  | 24 => .secureSecRt | 25 => .secureSecInit | 26 => .secureSecWowlan
  | 27 => .numOfCpu | 28 => .cscheme | 29 => .apiChangesSet | 30 => .enabledCapabilities
  | 31 => .nScanChannels
  | 32 => .paging | 34 => .secRtUsniffer | 35 => .sdioAdmaAddr | 36 => .fwVersion
  | 38 => .fwDbgDest | 39 => .fwDbgConf | 40 => .fwDbgTrigger
  | 50 => .fwGscanCapa | 51 => .fwMemSeg
  | _ => .unknown

/-- `LNX_ALIGN(x, a)`, in `size_t`. -/
def lnxAlign (x a : Nat) : Nat := (x + (a - 1)) / a * a

/-- `a - b` in `size_t`. -/
def sizeSub (a b : Nat) : Nat := (((a : Int) - b) % 2 ^ 64).toNat

theorem sizeSub_of_le {a b : Nat} (le : b ≤ a) (fits : a < 2 ^ 64) : sizeSub a b = a - b := by
  unfold sizeSub
  omega

/-- Below zero, `size_t` wraps to the top of its range. -/
theorem sizeSub_of_lt {a b : Nat} (lt : a < b) (word : b ≤ 2 ^ 64) :
    sizeSub a b = a + 2 ^ 64 - b := by
  unfold sizeSub
  omega

theorem le_lnxAlign_four (x : Nat) : x ≤ lnxAlign x 4 := by
  unfold lnxAlign
  omega

theorem lnxAlign_four_lt (x : Nat) : lnxAlign x 4 < x + 4 := by
  unfold lnxAlign
  omega

/-- One TLV of the file: `data` is the offset of its payload, `length` the length it announces. -/
structure Tlv where
  type : IwlUcodeTlvType
  data : Nat
  length : Nat
  deriving DecidableEq, Repr

/-- `sizeof(struct iwl_ucode_tlv)`. -/
def tlvHeaderSize : Nat := 8

/-- Where the next TLV starts. -/
def Tlv.next (tlv : Tlv) : Nat := tlv.data + lnxAlign tlv.length 4

/-- `sizeof(struct iwl_tlv_ucode_header)`. -/
def tlvUcodeHeaderSize : Nat := 88

/-- `IWL_TLV_UCODE_MAGIC`. -/
def tlvUcodeMagic : Nat := 0x0a4c5749

/-- The TLV whose header is at `offset`. -/
def Firmware.tlvAt (file : Firmware) (offset : Nat) : Tlv where
  type := .ofLe32 (leAt file.data offset 4)
  data := offset + tlvHeaderSize
  length := leAt file.data (offset + 4) 4

theorem Firmware.tlvAt_length_lt (file : Firmware) (offset : Nat) :
    (file.tlvAt offset).length < 2 ^ 32 :=
  leAt_four_lt _ _

end IntelWifi.Fw
