/-
**`iwl_parse_v1_v2_firmware`.**

The old format is a version word, an optional build word, five sizes and the bytes of the four
sections in the same order: REGULAR INST, REGULAR DATA, INIT INST, INIT DATA. The file is accepted
only when the four sizes and the header make up its length. That the version word is there,
`iwl_req_fw_callback` has checked.

* `iwlParseV1V2Firmware_img`: the records of an accepted file, section after section.
* `v1v2Sections_tile`: the sections tile what follows the header, or the file is refused.
* `versionWord_outside`: without the callback's check, the version word of a file of three bytes is read
  outside.
-/

import IntelWifi.Lib.Tiling
import IntelWifi.Fw.Pieces

namespace IntelWifi.Fw

open IntelWifi.Bytes IntelWifi.Tiling

/-- `get_sec_size`. It is only asked about records whose size was set. -/
def getSecSize (pieces : IwlFirmwarePieces) (type : IwlUcodeType) (sec : Nat) : Nat :=
  (((pieces.img type)[sec]?).bind FwSec.size).getD 0

/-- The header of one of the two versions: its size, and where the build word and the four sizes
are. -/
structure UcodeHeader where
  size : Nat
  build : Option Nat
  instSize : Nat
  dataSize : Nat
  initSize : Nat
  initDataSize : Nat

/-- The `switch` on the API version. -/
def ucodeHeader (apiVer : Nat) : UcodeHeader :=
  if apiVer = 0 ∨ apiVer = 1 ∨ apiVer = 2 then
    { size := 24, build := none, instSize := 4, dataSize := 8, initSize := 12, initDataSize := 16 }
  else
    { size := 28, build := some 4, instSize := 8, dataSize := 12, initSize := 16, initDataSize := 20 }

/-- The build word; a v1 header has none. -/
def readBuild (file : Firmware) (header : UcodeHeader) : Except ParseStop Nat :=
  match header.build with
  | none => .ok 0
  | some offset => file.read offset 4

/-- One of the `set_sec_*` calls, on the records of an image. -/
def IwlFirmwarePieces.setSec (pieces : IwlFirmwarePieces) (type : IwlUcodeType)
    (set : List FwSec → List FwSec) : IwlFirmwarePieces :=
  pieces.withImg type (set (pieces.img type))

/-- `iwl_parse_v1_v2_firmware`. -/
def iwlParseV1V2Firmware (file : Firmware) (pieces : IwlFirmwarePieces) (fw : IwlFw) :
    Except ParseStop (IwlFirmwarePieces × IwlFw) := do
  let ver ← file.read 0 4
  let header := ucodeHeader (iwlUcodeApi ver)
  if file.size < header.size then .error .einval
  else do
    let build ← readBuild file header
    let instSize ← file.read header.instSize 4
    let dataSize ← file.read header.dataSize 4
    let initSize ← file.read header.initSize 4
    let initDataSize ← file.read header.initDataSize 4
    let pieces := pieces.setSec .regular (setSecSize sectionInst instSize)
    let pieces := pieces.setSec .regular (setSecSize sectionData dataSize)
    let pieces := pieces.setSec .init (setSecSize sectionInst initSize)
    let pieces := pieces.setSec .init (setSecSize sectionData initDataSize)
    if file.size ≠ header.size + getSecSize pieces .regular sectionInst +
        getSecSize pieces .regular sectionData + getSecSize pieces .init sectionInst +
        getSecSize pieces .init sectionData then .error .einval
    else
      let src := header.size
      let pieces := pieces.setSec .regular (setSecData sectionInst src)
      let src := src + getSecSize pieces .regular sectionInst
      let pieces := pieces.setSec .regular (setSecOffset sectionInst rtcInstLowerBound)
      let pieces := pieces.setSec .regular (setSecData sectionData src)
      let src := src + getSecSize pieces .regular sectionData
      let pieces := pieces.setSec .regular (setSecOffset sectionData rtcDataLowerBound)
      let pieces := pieces.setSec .init (setSecData sectionInst src)
      let src := src + getSecSize pieces .init sectionInst
      let pieces := pieces.setSec .init (setSecOffset sectionInst rtcInstLowerBound)
      let pieces := pieces.setSec .init (setSecData sectionData src)
      let pieces := pieces.setSec .init (setSecOffset sectionData rtcDataLowerBound)
      .ok (pieces, { fw with ucodeVer := ver, fwVersion := ucodeVersionText ver build })

/-- The header of a v1 or v2 file. -/
def Firmware.ucodeHeader (file : Firmware) : UcodeHeader :=
  Fw.ucodeHeader (iwlUcodeApi (leAt file.data 0 4))

/-- The records of two sections that follow each other in the file, INST first. -/
def sectionPair (start instSize dataSize : Nat) : List FwSec :=
  [.assigned (start + instSize) dataSize rtcDataLowerBound,
    .assigned start instSize rtcInstLowerBound]

/-- The records the header of a v1 or v2 file describes. -/
def headerRecords (file : Firmware) : IwlUcodeType → List FwSec
  | .regular => sectionPair file.ucodeHeader.size (leAt file.data file.ucodeHeader.instSize 4)
    (leAt file.data file.ucodeHeader.dataSize 4)
  | .init => sectionPair
    (file.ucodeHeader.size + leAt file.data file.ucodeHeader.instSize 4 +
      leAt file.data file.ucodeHeader.dataSize 4)
    (leAt file.data file.ucodeHeader.initSize 4) (leAt file.data file.ucodeHeader.initDataSize 4)
  | .wowlan | .regularUsniffer => []

/-- The header and the four sizes make up the file. -/
def SizesAddUp (file : Firmware) : Prop :=
  file.size = file.ucodeHeader.size + leAt file.data file.ucodeHeader.instSize 4 +
    leAt file.data file.ucodeHeader.dataSize 4 + leAt file.data file.ucodeHeader.initSize 4 +
    leAt file.data file.ucodeHeader.initDataSize 4

/-- The fields of a header are inside it. -/
theorem ucodeHeader_fields (apiVer : Nat) :
    let header := ucodeHeader apiVer
    4 ≤ header.size ∧ header.instSize + 4 ≤ header.size ∧ header.dataSize + 4 ≤ header.size ∧
      header.initSize + 4 ≤ header.size ∧ header.initDataSize + 4 ≤ header.size ∧
      ∀ offset, header.build = some offset → offset + 4 ≤ header.size := by
  unfold ucodeHeader
  split
  · refine ⟨by decide, by decide, by decide, by decide, by decide, fun offset some => ?_⟩
    cases some
  · refine ⟨by decide, by decide, by decide, by decide, by decide, fun offset some => ?_⟩
    cases some
    decide

/-- A file with a version word is accepted with the records of its header, or answered with `-EINVAL`, on
its sizes. -/
theorem iwlParseV1V2Firmware_decides {file : Firmware} (version : 4 ≤ file.size) (fw : IwlFw) :
    (SizesAddUp file → ∃ pieces fw', iwlParseV1V2Firmware file .zero fw = .ok (pieces, fw') ∧
        ∀ type, pieces.img type = headerRecords file type) ∧
      (¬ SizesAddUp file → iwlParseV1V2Firmware file .zero fw = .error .einval) := by
  unfold iwlParseV1V2Firmware
  rw [Firmware.read_inside (show 0 + 4 ≤ file.size by omega)]
  obtain ⟨_, instField, dataField, initField, initDataField, buildField⟩ :=
    ucodeHeader_fields (iwlUcodeApi (leAt file.data 0 4))
  have same : file.ucodeHeader = ucodeHeader (iwlUcodeApi (leAt file.data 0 4)) := rfl
  simp only [bind, Except.bind]
  rw [← same] at instField dataField initField initDataField buildField ⊢
  by_cases short : file.size < file.ucodeHeader.size
  · rw [if_pos short]
    refine ⟨fun sizes => ?_, fun _ => rfl⟩
    unfold SizesAddUp at sizes
    omega
  · rw [if_neg short]
    obtain ⟨build, built⟩ : ∃ build, readBuild file file.ucodeHeader = .ok build := by
      unfold readBuild
      cases field : file.ucodeHeader.build with
      | none => exact ⟨0, rfl⟩
      | some offset =>
        have inside := buildField offset field
        exact ⟨_, Firmware.read_inside (by omega)⟩
    rw [built, Firmware.read_inside (by omega), Firmware.read_inside (by omega),
      Firmware.read_inside (by omega), Firmware.read_inside (by omega)]
    dsimp only
    split
    · next other => exact ⟨fun sizes => absurd sizes other, fun _ => rfl⟩
    · next sizes =>
      refine ⟨fun _ => ⟨_, _, rfl, fun type => ?_⟩, fun other => absurd (not_not.mp sizes) other⟩
      cases type <;> rfl

/-- **An accepted v1 or v2 file**: its sizes add up, and its records are those of its header. -/
theorem iwlParseV1V2Firmware_img {file : Firmware} {fw fw' : IwlFw} {pieces : IwlFirmwarePieces}
    (accepted : iwlParseV1V2Firmware file .zero fw = .ok (pieces, fw')) :
    SizesAddUp file ∧ ∀ type, pieces.img type = headerRecords file type := by
  by_cases version : 4 ≤ file.size
  · obtain ⟨accepts, refuses⟩ := iwlParseV1V2Firmware_decides version fw
    by_cases sizes : SizesAddUp file
    · obtain ⟨_, _, made, img⟩ := accepts sizes
      cases made.symm.trans accepted
      exact ⟨sizes, img⟩
    · cases (refuses sizes).symm.trans accepted
  · unfold iwlParseV1V2Firmware at accepted
    rw [Firmware.read_outside (by omega)] at accepted
    cases accepted

/-- The four sections tile the file after its header, so each is inside. -/
theorem headerRecords_inside {file : Firmware} (sizes : SizesAddUp file) (type : IwlUcodeType) :
    ∀ record ∈ headerRecords file type, ∃ data size offset,
      record = .assigned data size offset ∧ data + size ≤ file.size := by
  unfold SizesAddUp at sizes
  intro record member
  cases type with
  | regular | init =>
    rcases List.mem_cons.mp member with rfl | member
    · exact ⟨_, _, _, rfl, by omega⟩
    · rw [List.mem_singleton.mp member]
      exact ⟨_, _, _, rfl, by omega⟩
  | wowlan | regularUsniffer => cases member

/-! ### The order of the bytes -/

/-- The length of the header of an API version. -/
def Firmware.hdrSize (file : Firmware) : Nat := if iwlUcodeApi (leAt file.data 0 4) ≤ 2 then 24 else 28

/-- The sizes a header states, in the order of the bytes: four words, and a fifth for the boot image
that ends the header. -/
def Firmware.statedSizes (file : Firmware) : List Nat :=
  (List.range 4).map fun word => leAt file.data (file.hdrSize - 20 + 4 * word) 4

/-- The bytes of the file a record is about, when both members were assigned. -/
def FwSec.part (record : FwSec) : Option Part :=
  record.data.bind fun data => record.size.map fun size => ⟨data, size⟩

/-- The bytes of a section. -/
def IwlFirmwarePieces.part (pieces : IwlFirmwarePieces) (type : IwlUcodeType) (sec : Nat) : Option Part :=
  ((pieces.img type)[sec]?).bind FwSec.part

/-- REGULAR INST, REGULAR DATA, INIT INST, INIT DATA. -/
def IwlFirmwarePieces.fileParts (pieces : IwlFirmwarePieces) : List (Option Part) :=
  [pieces.part .regular sectionInst, pieces.part .regular sectionData,
    pieces.part .init sectionInst, pieces.part .init sectionData]

theorem ucodeHeader_eq (file : Firmware) :
    file.ucodeHeader.size = file.hdrSize ∧
      file.statedSizes = [leAt file.data file.ucodeHeader.instSize 4,
        leAt file.data file.ucodeHeader.dataSize 4, leAt file.data file.ucodeHeader.initSize 4,
        leAt file.data file.ucodeHeader.initDataSize 4] := by
  unfold Firmware.statedSizes Firmware.hdrSize Firmware.ucodeHeader ucodeHeader
  by_cases old : iwlUcodeApi (leAt file.data 0 4) ≤ 2
  · rw [if_pos old, if_pos (by omega)]
    exact ⟨rfl, rfl⟩
  · rw [if_neg old, if_neg (by omega)]
    exact ⟨rfl, rfl⟩

theorem sizesAddUp_iff (file : Firmware) :
    SizesAddUp file ↔ file.hdrSize + file.statedSizes.sum = file.size := by
  obtain ⟨size, stated⟩ := ucodeHeader_eq file
  unfold SizesAddUp
  rw [size, stated]
  simp only [List.sum_cons, List.sum_nil]
  omega

/-- The four sections of an accepted file follow each other from the header to the end of the file. -/
theorem fileParts_tile {file : Firmware} {pieces : IwlFirmwarePieces} (sizes : SizesAddUp file)
    (img : ∀ type, pieces.img type = headerRecords file type) :
    ∃ parts, pieces.fileParts = parts.map some ∧ parts.map Part.length = file.statedSizes ∧
      Tiles file.hdrSize parts file.size := by
  obtain ⟨size, stated⟩ := ucodeHeader_eq file
  unfold SizesAddUp at sizes
  unfold IwlFirmwarePieces.fileParts IwlFirmwarePieces.part
  rw [img .regular, img .init, stated, ← size]
  exact ⟨[⟨_, _⟩, ⟨_, _⟩, ⟨_, _⟩, ⟨_, _⟩], rfl, rfl, rfl, rfl, rfl, rfl, sizes.symm⟩

/-- **The sections of a v1 or v2 file**: with the version word `iwl_req_fw_callback` asks for there, a file
is accepted when the header and the sizes it states make up its length. Its four sections then tile
what follows the header, with these sizes. Any other file is answered with `-EINVAL`, and none is read
outside. -/
theorem v1v2Sections_tile (file : Firmware) (fw : IwlFw) (version : 4 ≤ file.size) :
    if file.hdrSize + file.statedSizes.sum = file.size then
      ∃ pieces fw' parts, iwlParseV1V2Firmware file .zero fw = .ok (pieces, fw') ∧
        pieces.fileParts = parts.map some ∧ parts.map Part.length = file.statedSizes ∧
        Tiles file.hdrSize parts file.size
    else iwlParseV1V2Firmware file .zero fw = .error .einval := by
  have decides := iwlParseV1V2Firmware_decides version fw
  by_cases sizes : file.hdrSize + file.statedSizes.sum = file.size
  · rw [if_pos sizes]
    have adds := (sizesAddUp_iff file).mpr sizes
    obtain ⟨pieces, fw', accepted, img⟩ := decides.1 adds
    obtain ⟨parts, same, lengths, tiles⟩ := fileParts_tile adds img
    exact ⟨pieces, fw', parts, accepted, same, lengths, tiles⟩
  · rw [if_neg sizes]
    exact decides.2 (mt (sizesAddUp_iff file).mp sizes)

/-- A v1 file with sections of 1, 2, 3 and 4 bytes. -/
def tiledFile : Firmware where
  data := [0, 1, 0, 0, 1, 0, 0, 0, 2, 0, 0, 0, 3, 0, 0, 0, 4, 0, 0, 0] ++ List.replicate 14 7
  size_lt := by decide

theorem tiledFile_tiles : ∃ pieces fw' parts,
    iwlParseV1V2Firmware tiledFile .zero .zero = .ok (pieces, fw') ∧
      pieces.fileParts = parts.map some ∧ parts.map Part.length = tiledFile.statedSizes ∧
      Tiles tiledFile.hdrSize parts tiledFile.size :=
  (if_pos (by decide)).mp (v1v2Sections_tile tiledFile .zero (by decide))

/-- Three bytes, which `iwl_req_fw_callback` turns away. -/
def threeByteFile : Firmware where
  data := [0, 1, 0]
  size_lt := by decide

/-- The parser itself does not look at the length before the version word. -/
theorem versionWord_outside : threeByteFile.hdrSize + threeByteFile.statedSizes.sum ≠ threeByteFile.size ∧
    iwlParseV1V2Firmware threeByteFile .zero .zero ≠ .error .einval ∧
    iwlParseV1V2Firmware threeByteFile .zero .zero = .error .outOfBounds := by
  have outside : iwlParseV1V2Firmware threeByteFile .zero .zero = .error .outOfBounds := rfl
  refine ⟨by decide, ?_, outside⟩
  rw [outside]
  intro refused
  cases refused

end IntelWifi.Fw
