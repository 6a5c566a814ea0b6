/-
**The two parsers when memory is short.**

A section's records and the debug memory segments live in blocks the parsers allocate, one for a TLV at
most. `Blocks` says which requests are met. A block that is missing is written to, unless nothing has to
be copied into it: then `iwl_store_ucode_sec` returns `-ENOMEM` to a caller that does not look, and the
section is dropped.

* `parseTlvFirmware_total`: the parser stops, whichever requests fail.
* `parseTlvFirmware_met`: with every request met, it is `iwlParseTlvFirmware`.
-/

import IntelWifi.Lib.Checked
import IntelWifi.Fw.TlvSafety
import IntelWifi.Fw.V1V2

namespace IntelWifi.Fw

open IntelWifi.Loop IntelWifi.Checked IntelWifi.Porting

/-- The codes a parser returns. -/
inductive Errno where
  | einval | enomem
  deriving DecidableEq, Repr

/-- A parse that reads outside the file does not return. -/
def checked {α : Type} : Except ParseStop α → Outcome Errno α
  | .ok a => .ok a
  | .error .einval => .error (.error .einval)
  | .error .outOfBounds => .error .fault

/-- Which of the parsers' requests for memory are met: those of the TLV whose payload is at an offset,
and those of `set_sec_size` for an image of an old file. -/
structure Blocks where
  tlv : Nat → Bool
  image : IwlUcodeType → Bool

/-- Every request is met. -/
def Blocks.all : Blocks := ⟨fun _ => true, fun _ => true⟩

/-- `alloc_sec_data` gives up: a record that is there is assigned, another is written to all the same. -/
def sectionWithoutMemory (type : IwlUcodeType) (sec offset : Nat) (tlv : Tlv) (st : TlvState) :
    Outcome Errno TlvState :=
  if sec + 1 ≤ (st.pieces.img type).length then .ok (sectionTlv type sec offset tlv st)
  else .error .fault

/-- `iwl_store_ucode_sec` without its block: the old records are copied to `NULL`. -/
def storeWithoutMemory (type : IwlUcodeType) (st : TlvState) : Outcome Errno TlvState :=
  if (st.pieces.img type).length = 0 then .ok st else .error .fault

/-- `IWL_UCODE_TLV_FW_MEM_SEG` without its block. -/
def memSegWithoutMemory (file : Firmware) (tlv : Tlv) (st : TlvState) : Outcome Errno TlvState := do
  checked (exactLen tlv 12)
  let dataType ← checked (file.read tlv.data 4)
  if !knownMemType dataType then .error (.error .einval)
  else if st.pieces.dbgMemTlv.length = 0 then .error (.error .enomem)
  else .error .fault

/-- The `switch` for a TLV whose block is refused. -/
def handleWithoutMemory (file : Firmware) (tlv : Tlv) (st : TlvState) : Outcome Errno TlvState :=
  match tlv.type with
  | .inst => sectionWithoutMemory .regular sectionInst rtcInstLowerBound tlv st
  | .data => sectionWithoutMemory .regular sectionData rtcDataLowerBound tlv st
  | .init => sectionWithoutMemory .init sectionInst rtcInstLowerBound tlv st
  | .initData => sectionWithoutMemory .init sectionData rtcDataLowerBound tlv st
  | .wowlanInst => sectionWithoutMemory .wowlan sectionInst rtcInstLowerBound tlv st
  | .wowlanData => sectionWithoutMemory .wowlan sectionData rtcDataLowerBound tlv st
  | .secRt | .secureSecRt => storeWithoutMemory .regular { st with fw.type := .mvm }
  | .secInit | .secureSecInit => storeWithoutMemory .init { st with fw.type := .mvm }
  | .secWowlan | .secureSecWowlan => storeWithoutMemory .wowlan { st with fw.type := .mvm }
  | .secRtUsniffer => storeWithoutMemory .regularUsniffer { st with usnifferImages := true }
  | .fwMemSeg => memSegWithoutMemory file tlv st
  | _ => checked (handleTlv file tlv st)

/-- The `switch`, for a TLV whose block is there or not. -/
def handleIn (blocks : Blocks) (file : Firmware) (tlv : Tlv) (st : TlvState) : Outcome Errno TlvState :=
  if blocks.tlv tlv.data then checked (handleTlv file tlv st) else handleWithoutMemory file tlv st

/-- One turn of `while (len >= sizeof(*tlv))`. -/
def turnIn (blocks : Blocks) (file : Firmware) :
    Cursor × TlvState → Turn (Cursor × TlvState) (Outcome Errno (Cursor × TlvState))
  | (cur, st) =>
    if cur.len < tlvHeaderSize then .leave (.ok (cur, st))
    else
      match nextTlv file cur with
      | .error stop => .leave (checked (.error stop))
      | .ok (tlv, next) =>
        match handleIn blocks file tlv st with
        | .error stop => .leave (.error stop)
        | .ok st => .again (next, st)

/-- The result of a loop; one that has not left by its bound does not return. -/
def leftOf {α : Type} : Option (Outcome Errno α) → Outcome Errno α
  | some left => left
  | none => .error .fault

/-- `iwl_parse_tlv_firmware`. -/
def parseTlvFirmware [WideShift] (blocks : Blocks) (file : Firmware) (st : TlvState) : Outcome Errno TlvState := do
  let entry ← checked (tlvHeader file st)
  let (cur, st) ← leftOf (run (turnIn blocks file) (tlvFuel file) entry)
  checked (tlvFinish cur st)

/-- `iwl_parse_v1_v2_firmware`: the blocks are asked for once the header is known to be there. -/
def parseV1V2Firmware (blocks : Blocks) (file : Firmware) (st : TlvState) : Outcome Errno TlvState :=
  if blocks.image .regular && blocks.image .init then do
    let (pieces, fw) ← checked (iwlParseV1V2Firmware file st.pieces st.fw)
    .ok { st with pieces, fw }
  else if file.size < file.ucodeHeader.size then .error (.error .einval)
  else .error .fault

/-! ### The loop stops -/

theorem turnIn_again {blocks : Blocks} {file : Firmware} {cur next : Cursor} {st st' : TlvState}
    (turn : turnIn blocks file (cur, st) = .again (next, st')) :
    ∃ tlv, nextTlv file cur = .ok (tlv, next) := by
  unfold turnIn at turn
  dsimp only at turn
  split at turn
  · cases turn
  · split at turn
    · cases turn
    · next tlv next' read =>
      split at turn
      · cases turn
      · cases turn
        exact ⟨tlv, read⟩

/-- **The parser stops on every file**, whichever requests for memory fail. -/
theorem parseTlvFirmware_total (blocks : Blocks) (file : Firmware) (entry : Cursor × TlvState) :
    ∃ left, run (turnIn blocks file) (tlvFuel file) entry = some left := by
  refine run_total (fun _ => True) (fun head => file.size - head.1.data) ?_ trivial
    (by unfold tlvFuel; omega)
  rintro ⟨cur, st⟩ ⟨next, st'⟩ _ turn
  obtain ⟨tlv, read⟩ := turnIn_again turn
  obtain ⟨inside, moved⟩ := nextTlv_advances read
  refine ⟨trivial, ?_⟩
  dsimp only
  omega

/-! ### With memory enough -/

@[simp] theorem checked_ok {α : Type} (a : α) : checked (.ok a) = .ok a := rfl

theorem turnIn_all (file : Firmware) (cur : Cursor) (st : TlvState) :
    turnIn .all file (cur, st) =
      match tlvTurn file (cur, st) with
      | .again next => .again next
      | .leave left => .leave (checked left) := by
  unfold turnIn tlvTurn
  dsimp only
  by_cases short : cur.len < tlvHeaderSize
  · rw [if_pos short, if_pos short]
    rfl
  · rw [if_neg short, if_neg short]
    cases nextTlv file cur with
    | error stop => rfl
    | ok read =>
      have met : handleIn .all file read.1 st = checked (handleTlv file read.1 st) := rfl
      dsimp only
      rw [met]
      cases handleTlv file read.1 st with
      | ok st' => rfl
      | error stop => cases stop <;> rfl

theorem run_turnIn_all (file : Firmware) (fuel : Nat) (entry : Cursor × TlvState) :
    run (turnIn .all file) fuel entry = (run (tlvTurn file) fuel entry).map checked := by
  induction fuel generalizing entry with
  | zero => rfl
  | succ fuel ih =>
    obtain ⟨cur, st⟩ := entry
    rw [run, run, turnIn_all]
    cases tlvTurn file (cur, st) with
    | again next => exact ih next
    | leave left => rfl

/-- **With every request met**, the parser is the one of `IntelWifi.Fw.TlvParser`. -/
theorem parseTlvFirmware_met [WideShift] (file : Firmware) (st : TlvState) :
    ∃ result, iwlParseTlvFirmware file st = some result ∧
      parseTlvFirmware .all file st = checked result := by
  obtain ⟨result, parsed⟩ := iwlParseTlvFirmware_total file st
  refine ⟨result, parsed, ?_⟩
  unfold iwlParseTlvFirmware at parsed
  unfold parseTlvFirmware
  cases header : tlvHeader file st with
  | error stop =>
    rw [header] at parsed
    obtain rfl := Option.some.inj parsed
    cases stop <;> rfl
  | ok entry =>
    rw [header] at parsed
    obtain ⟨left, ran⟩ := tlvLoop_total file entry
    dsimp only at parsed
    rw [ran, Option.map_some] at parsed
    obtain rfl := Option.some.inj parsed
    rw [checked_ok, ok_bind, run_turnIn_all, ran, Option.map_some]
    cases left with
    | ok left => rfl
    | error stop => cases stop <;> rfl

end IntelWifi.Fw
