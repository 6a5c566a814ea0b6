/-
**`iwl_req_fw_callback`.**

The callback of a firmware request, with the file and with every outcome it does not decide itself:
which requests for memory are met, what fresh blocks hold, and whether the op mode starts. It ends at the
wakeup of the requesting thread, or leaves through one of three labels.

* `loadFirmware_decides`: the checks between the entry and the wakeup decide `Accepted`.
-/

import IntelWifi.Fw.Allocations
import IntelWifi.Fw.Sections

namespace IntelWifi.Fw

open IntelWifi.Bytes IntelWifi.Checked IntelWifi.Porting

/-- The fields of `struct iwl_cfg` that are read here. -/
structure IwlCfg where
  ucodeApiMax : Nat
  ucodeApiMin : Nat
  maxInstSize : Nat
  maxDataSize : Nat
  maxEventLogSize : Nat
  apiOrdered : ucodeApiMin ≤ ucodeApiMax

/-- Which requests for memory are met, and what the members of a fresh section record hold. -/
structure Memory where
  pieces : Bool
  blocks : Blocks
  descs : IwlUcodeType → Bool
  desc : IwlUcodeType → Nat → Bool
  freshSize : IwlUcodeType → Nat → Nat
  freshOffset : IwlUcodeType → Nat → Nat

/-- What the callback meets besides the file. `opMode` is what `ops->start` gives for an op mode that is
registered. -/
structure LoadEnv where
  cfg : IwlCfg
  memory : Memory
  opMode : IwlFwType → Option Bool

/-- The labels the callback leaves through. None of them wakes the requesting thread. -/
inductive Exit where
  | tryAgain | outFreeFw | outUnbind
  deriving DecidableEq, Repr

/-- `if (err) goto exit`. -/
def orGoto {α : Type} (exit : Exit) : Outcome Errno α → Outcome Exit α
  | .ok a => .ok a
  | .error .fault => .error .fault
  | .error (.error _) => .error (.error exit)

/-- The size of a section record; one that was never assigned holds what the block held. -/
def Memory.sizeOf (memory : Memory) (type : IwlUcodeType) (sec : Nat) (record : FwSec) : Nat :=
  record.size.getD (memory.freshSize type sec)

/-- `iwl_alloc_fw_desc`, when its block can be refused and a record can be fresh: the block has `size`
bytes, the copy `len`, a `u32`. -/
def allocFwDescIn (memory : Memory) (file : Firmware) (type : IwlUcodeType) (sec : Nat)
    (record : FwSec) : Outcome Errno FwDesc :=
  let size := memory.sizeOf type sec record
  if size = 0 then .error (.error .einval)
  else if !memory.desc type sec then .error (.error .enomem)
  else
    let len := size % 2 ^ 32
    let offset := record.offset.getD (memory.freshOffset type sec)
    match record.data with
    | some data =>
      if Inside file.data data len then .ok ⟨slice file.data data len, offset⟩ else .error .fault
    | none => if len = 0 then .ok ⟨[], offset⟩ else .error .fault

/-- The loop of `iwl_alloc_ucode`, from record `sec` on. -/
def allocDescsIn (memory : Memory) (file : Firmware) (type : IwlUcodeType) :
    Nat → List FwSec → Outcome Errno (List FwDesc)
  | _, [] => .ok []
  | sec, record :: rest => do
    let desc ← allocFwDescIn memory file type sec record
    let descs ← allocDescsIn memory file type (sec + 1) rest
    .ok (desc :: descs)

/-- `iwl_alloc_ucode`, when its blocks can be refused. -/
def allocUcodeIn (memory : Memory) (file : Firmware) (pieces : IwlFirmwarePieces)
    (type : IwlUcodeType) : Outcome Errno (List FwDesc) :=
  if !memory.descs type then .error (.error .enomem)
  else allocDescsIn memory file type 0 (pieces.img type)

/-- One comparison of `validate_sec_sizes`; there is no record to look at in an image without it. -/
def sectionFits (memory : Memory) (pieces : IwlFirmwarePieces) (type : IwlUcodeType) (sec limit : Nat) :
    Outcome Exit Unit :=
  match (pieces.img type)[sec]? with
  | none => .error .fault
  | some record =>
    if memory.sizeOf type sec record > limit then .error (.error .tryAgain) else .ok ()

/-- `validate_sec_sizes`. -/
def validateSecSizes (cfg : IwlCfg) (memory : Memory) (pieces : IwlFirmwarePieces) :
    Outcome Exit Unit := do
  sectionFits memory pieces .regular sectionInst cfg.maxInstSize
  sectionFits memory pieces .regular sectionData cfg.maxDataSize
  sectionFits memory pieces .init sectionInst cfg.maxInstSize
  sectionFits memory pieces .init sectionData cfg.maxDataSize

/-- A copy to one of `drv->fw`'s debug pointers, and the look at the pointer after it. Nothing allocates
these pointers: they are `NULL`. -/
def copyToNull (len : Nat) : Outcome Exit Unit :=
  if len = 0 then .error (.error .outFreeFw) else .error .fault

/-- `sizeof(struct iwl_fw_dbg_trigger_tlv)`. -/
def dbgTriggerTlvSize : Nat := 28

/-- `trigger_tlv_sz`: all ones where it is not set. -/
def triggerTlvSz : Nat → Nat
  | 3 => 32
  | 4 => 0
  | 5 => 32
  | 6 => 16
  | 7 => 16
  | 8 => 4
  | 9 => 48
  | 10 => 192
  | 11 => 14
  | 13 => 12
  | _ => 2 ^ 64 - 1

/-- The debug destination. -/
def copyDbgDest (st : TlvState) : Outcome Exit Unit :=
  match st.pieces.dbgDestTlv with
  | none => .ok ()
  | some _ => copyToNull (dbgDestRegOps + dbgRegOpSize * st.fw.dbgDestRegNum)

/-- One debug configuration. -/
def copyDbgConf (st : TlvState) (i : Nat) : Outcome Exit Unit :=
  match st.pieces.dbgConfTlv i with
  | none => .ok ()
  | some tlv => copyToNull tlv.length

/-- One debug trigger: it has to be long enough. -/
def copyDbgTrigger (st : TlvState) (i : Nat) : Outcome Exit Unit :=
  match st.pieces.dbgTriggerTlv i with
  | none => .ok ()
  | some tlv =>
    if tlv.length < (triggerTlvSz i + dbgTriggerTlvSize) % 2 ^ 64 then .error (.error .outFreeFw)
    else copyToNull tlv.length

/-- The API version a file states. -/
def apiVer [WideShift] (st : TlvState) : Nat :=
  if fwHasApi st.capa tlvApiNewVersion then st.fw.ucodeVer else iwlUcodeApi st.fw.ucodeVer

/-- `_iwl_op_mode_start`, or the request to load the op mode's module. -/
def startOpMode (env : LoadEnv) (type : IwlFwType) : Outcome Exit Bool :=
  match env.opMode type with
  | none => .ok true
  | some true => .ok false
  | some false => .error (.error .outUnbind)

/-- The number of events of a log of `size` bytes, in `u32`. -/
def evtlogSize (cfg : IwlCfg) (size : Nat) : Nat :=
  if size ≠ 0 then (size + 2 ^ 32 - 16) % 2 ^ 32 / 12 else cfg.maxEventLogSize

/-- What the driver holds when the firmware is loaded. -/
structure LoadedFw where
  fw : IwlFw
  capa : IwlUcodeCapabilities
  img : IwlUcodeType → List FwDesc
  dbgMemTlv : List DbgMemSeg
  initEvtlogPtr : Nat
  initEvtlogSize : Nat
  initErrlogPtr : Nat
  instEvtlogPtr : Nat
  instEvtlogSize : Nat
  instErrlogPtr : Nat
  loadModule : Bool

/-- `IWL_MAX_PHY_CALIBRATE_TBL_SIZE`. -/
def iwlMaxPhyCalibrateTblSize : Nat := 253

/-- `IWL_MAX_STANDARD_PHY_CALIBRATE_TBL_SIZE`. -/
def iwlMaxStandardPhyCalibrateTblSize : Nat := 19

/-- "Now that we can no longer fail, copy information". -/
def copyInformation (cfg : IwlCfg) (st : TlvState) (img : IwlUcodeType → List FwDesc)
    (loadModule : Bool) : LoadedFw where
  fw := st.fw
  capa :=
    if st.capa.standardPhyCalibrationSize > iwlMaxPhyCalibrateTblSize then
      { st.capa with standardPhyCalibrationSize := iwlMaxStandardPhyCalibrateTblSize }
    else st.capa
  img := img
  dbgMemTlv := st.pieces.dbgMemTlv
  initEvtlogPtr := st.pieces.initEvtlogPtr
  initEvtlogSize := evtlogSize cfg st.pieces.initEvtlogSize
  initErrlogPtr := st.pieces.initErrlogPtr
  instEvtlogPtr := st.pieces.instEvtlogPtr
  instEvtlogSize := evtlogSize cfg st.pieces.instEvtlogSize
  instErrlogPtr := st.pieces.instErrlogPtr
  loadModule := loadModule

/-- The capabilities of a zeroed driver with the three defaults. -/
def defaultCapabilities : IwlUcodeCapabilities :=
  { zeroCapabilities with
    maxProbeLength := 200
    standardPhyCalibrationSize := 18
    nScanChannels := 40 }

/-- The parser a file asks for: an old file starts with its version, a TLV file with zero. -/
def parseFirmware [WideShift] (env : LoadEnv) (file : Firmware) : Outcome Errno TlvState :=
  if leAt file.data 0 4 ≠ 0 then
    parseV1V2Firmware env.memory.blocks file (.start .zero defaultCapabilities)
  else parseTlvFirmware env.memory.blocks file (.start .zero defaultCapabilities)

/-- The four images, in the order of `enum iwl_ucode_type`. -/
def allocImages (env : LoadEnv) (file : Firmware) (st : TlvState) :
    Outcome Errno (IwlUcodeType → List FwDesc) := do
  let regular ← allocUcodeIn env.memory file st.pieces .regular
  let init ← allocUcodeIn env.memory file st.pieces .init
  let wowlan ← allocUcodeIn env.memory file st.pieces .wowlan
  let regularUsniffer ← allocUcodeIn env.memory file st.pieces .regularUsniffer
  .ok fun type =>
    match type with
    | .regular => regular
    | .init => init
    | .wowlan => wowlan
    | .regularUsniffer => regularUsniffer

/-- The three debug copies. -/
def copyDebug (st : TlvState) : Outcome Exit Unit := do
  copyDbgDest st
  each (copyDbgConf st) (List.range fwDbgConfMax)
  each (copyDbgTrigger st) (List.range fwDbgTriggerMax)

/-- Only a DVM image has sections whose sizes are limited. -/
def checkSecSizes (env : LoadEnv) (st : TlvState) : Outcome Exit Unit :=
  if st.fw.type = .dvm then validateSecSizes env.cfg env.memory st.pieces else .ok ()

/-- From the parsed file to the loaded firmware. -/
def installFirmware [WideShift] (env : LoadEnv) (file : Firmware) (st : TlvState) : Outcome Exit LoadedFw :=
  if apiVer st < env.cfg.ucodeApiMin ∨ apiVer st > env.cfg.ucodeApiMax then .error (.error .tryAgain)
  else do
    checkSecSizes env st
    let img ← orGoto .outFreeFw (allocImages env file st)
    copyDebug st
    let loadModule ← startOpMode env st.fw.type
    .ok (copyInformation env.cfg st img loadModule)

/-- `iwl_req_fw_callback`, up to the wakeup or to a label. -/
def loadFirmware [WideShift] (env : LoadEnv) : Option Firmware → Outcome Exit LoadedFw
  | none => if !env.memory.pieces then .error (.error .outFreeFw) else .error (.error .tryAgain)
  | some file =>
    if !env.memory.pieces then .error (.error .outFreeFw)
    else if file.size < 4 then .error (.error .tryAgain)
    else do
      let st ← orGoto .tryAgain (parseFirmware env file)
      installFirmware env file st

/-! ### What its checks decide -/

/-- With its block there, an assigned record whose size is a `u32` is copied as in
`IntelWifi.Fw.Sections`. -/
theorem allocFwDescIn_assigned {memory : Memory} {file : Firmware} {type : IwlUcodeType} {sec : Nat}
    {data size offset : Nat} {desc : FwDesc} (met : memory.desc type sec = true) (word : size < 2 ^ 32)
    (copied : iwlAllocFwDesc file (.assigned data size offset) = .ok desc) :
    allocFwDescIn memory file type sec (.assigned data size offset) = .ok desc := by
  unfold iwlAllocFwDesc FwSec.assigned at copied
  unfold allocFwDescIn FwSec.assigned Memory.sizeOf
  dsimp only [Option.getD_some] at copied ⊢
  by_cases empty : size = 0
  · rw [if_pos empty] at copied
    cases copied
  · rw [if_neg empty] at copied ⊢
    rw [met, if_neg (by decide), Nat.mod_eq_of_lt word]
    split at copied
    · next inside =>
      cases copied
      exact if_pos inside
    · cases copied

/-- The record is copied. -/
def DescLoads (memory : Memory) (type : IwlUcodeType) (sec : Nat) (record : FwSec) : Prop :=
  memory.sizeOf type sec record ≠ 0 ∧ memory.desc type sec = true

/-- The records of an image are copied. -/
structure ImageLoads (memory : Memory) (pieces : IwlFirmwarePieces) (type : IwlUcodeType) : Prop where
  descs : memory.descs type = true
  sections : ∀ sec record, (pieces.img type)[sec]? = some record → DescLoads memory type sec record

/-- A section of an image without it has any size. -/
def SectionWithin (memory : Memory) (pieces : IwlFirmwarePieces) (type : IwlUcodeType) (sec limit : Nat) :
    Prop :=
  ∀ record, (pieces.img type)[sec]? = some record → memory.sizeOf type sec record ≤ limit

/-- **A parsed file the driver takes.** -/
structure Supported [WideShift] (env : LoadEnv) (st : TlvState) : Prop where
  version : env.cfg.ucodeApiMin ≤ apiVer st ∧ apiVer st ≤ env.cfg.ucodeApiMax
  sizes : st.fw.type = .dvm →
    SectionWithin env.memory st.pieces .regular sectionInst env.cfg.maxInstSize ∧
    SectionWithin env.memory st.pieces .regular sectionData env.cfg.maxDataSize ∧
    SectionWithin env.memory st.pieces .init sectionInst env.cfg.maxInstSize ∧
    SectionWithin env.memory st.pieces .init sectionData env.cfg.maxDataSize
  images : ∀ type, ImageLoads env.memory st.pieces type
  noDebug : st.pieces.dbgDestTlv = none ∧ (∀ i < fwDbgConfMax, st.pieces.dbgConfTlv i = none) ∧
    ∀ i < fwDbgTriggerMax, st.pieces.dbgTriggerTlv i = none
  opMode : env.opMode st.fw.type ≠ some false

/-- **A delivery that passes every check.** -/
structure Accepted [WideShift] (env : LoadEnv) (ucodeRaw : Option Firmware) : Prop where
  pieces : env.memory.pieces = true
  file : ∃ file, ucodeRaw = some file ∧ 4 ≤ file.size ∧
    ∃ st, parseFirmware env file = .ok st ∧ Supported env st

theorem orGoto_decides {α : Type} {x : Outcome Errno α} {p : Prop} {exit : Exit}
    (decides : Decides x p) : Decides (orGoto exit x) p := by
  rcases x with stop | a
  · cases stop with
    | fault => exact decides_fault
    | error e => exact decides_error exit (decides.refused e rfl)
  · exact decides_ok a (decides.given a rfl)

theorem orGoto_eq_ok {α : Type} {x : Outcome Errno α} {exit : Exit} {a : α} :
    orGoto exit x = .ok a ↔ x = .ok a := by
  rcases x with (_ | _) | b
  · exact iff_of_false (fun same => nomatch same) fun same => nomatch same
  · exact iff_of_false (fun same => nomatch same) fun same => nomatch same
  · exact ⟨fun same => congrArg _ (Except.ok.inj same), fun same => congrArg _ (Except.ok.inj same)⟩

theorem allocFwDescIn_decides (memory : Memory) (file : Firmware) (type : IwlUcodeType) (sec : Nat)
    (record : FwSec) :
    Decides (allocFwDescIn memory file type sec record) (DescLoads memory type sec record) := by
  unfold allocFwDescIn
  refine decides_check fun nonempty => ?_
  cases met : memory.desc type sec with
  | false => exact decides_error _ fun same => by cases same
  | true =>
    rw [if_neg (by decide)]
    dsimp only
    split
    all_goals
      split
      · exact decides_ok _ rfl
      · exact decides_fault

/-- The records from `sec` on. -/
theorem allocDescsIn_decides (memory : Memory) (file : Firmware) (type : IwlUcodeType) (sec : Nat)
    (records : List FwSec) :
    Decides (allocDescsIn memory file type sec records)
      (∀ i record, records[i]? = some record → DescLoads memory type (sec + i) record) := by
  induction records generalizing sec with
  | nil => exact decides_ok _ fun i record here => by cases here
  | cons first rest ih =>
    have loads : Decides (allocDescsIn memory file type sec (first :: rest))
        (DescLoads memory type sec first ∧
          (∀ i record, rest[i]? = some record → DescLoads memory type (sec + 1 + i) record) ∧ True) :=
      (allocFwDescIn_decides memory file type sec first).bind fun desc =>
        (ih (sec + 1)).bind fun descs => decides_ok (desc :: descs) trivial
    refine loads.congr ⟨fun ⟨head, tail, _⟩ => ?_, fun all => ⟨all 0 first rfl, ?_, trivial⟩⟩
    · rintro (_ | i) record here
      · exact Option.some.inj here ▸ head
      · have later := tail i record here
        rwa [Nat.add_right_comm, Nat.add_assoc] at later
    · intro i record here
      rw [Nat.add_right_comm, Nat.add_assoc]
      exact all (i + 1) record here

theorem allocUcodeIn_decides (memory : Memory) (file : Firmware) (pieces : IwlFirmwarePieces)
    (type : IwlUcodeType) :
    Decides (allocUcodeIn memory file pieces type) (ImageLoads memory pieces type) := by
  unfold allocUcodeIn
  refine (decides_check fun met => allocDescsIn_decides memory file type 0 (pieces.img type)).congr ?_
  constructor
  · rintro ⟨met, records⟩
    refine ⟨by simpa using met, fun sec record here => ?_⟩
    have loads := records sec record here
    rwa [Nat.zero_add] at loads
  · intro loads
    refine ⟨by simp [loads.descs], fun sec record here => ?_⟩
    rw [Nat.zero_add]
    exact loads.sections sec record here

/-- All four images. -/
theorem allocImages_decides (env : LoadEnv) (file : Firmware) (st : TlvState) :
    Decides (allocImages env file st) (∀ type, ImageLoads env.memory st.pieces type) := by
  have image := allocUcodeIn_decides env.memory file st.pieces
  refine ((image .regular).bind fun regular => (image .init).bind fun init =>
    (image .wowlan).bind fun wowlan => (image .regularUsniffer).bind fun regularUsniffer =>
      decides_ok _ trivial).congr ?_
  constructor
  · rintro ⟨regular, init, wowlan, usniffer, _⟩ type
    cases type with
    | regular => exact regular
    | init => exact init
    | wowlan => exact wowlan
    | regularUsniffer => exact usniffer
  · intro all
    exact ⟨all .regular, all .init, all .wowlan, all .regularUsniffer, trivial⟩

theorem sectionFits_decides (memory : Memory) (pieces : IwlFirmwarePieces) (type : IwlUcodeType)
    (sec limit : Nat) :
    Decides (sectionFits memory pieces type sec limit)
      (SectionWithin memory pieces type sec limit) := by
  unfold sectionFits SectionWithin
  split
  · exact decides_fault
  · next record here =>
    refine (decides_check fun _ => decides_ok () trivial).congr ?_
    rw [and_true, Nat.not_lt, here]
    exact ⟨fun within other same => Option.some.inj same ▸ within, fun all => all record rfl⟩

/-- No copy to `NULL` lets the callback go on. -/
theorem copyToNull_decides (len : Nat) : Decides (copyToNull len) False := by
  unfold copyToNull
  split
  · exact decides_error _ id
  · exact decides_fault

theorem copyDebug_decides (st : TlvState) :
    Decides (copyDebug st) (st.pieces.dbgDestTlv = none ∧
      (∀ i < fwDbgConfMax, st.pieces.dbgConfTlv i = none) ∧
      ∀ i < fwDbgTriggerMax, st.pieces.dbgTriggerTlv i = none) := by
  have dest : Decides (copyDbgDest st) (st.pieces.dbgDestTlv = none) := by
    unfold copyDbgDest
    split
    · next none => exact decides_ok () none
    · next tlv some => exact (copyToNull_decides _).congr (by simp [some])
  have conf : ∀ i, Decides (copyDbgConf st i) (st.pieces.dbgConfTlv i = none) := by
    intro i
    unfold copyDbgConf
    split
    · next none => exact decides_ok () none
    · next tlv some => exact (copyToNull_decides _).congr (by simp [some])
  have trigger : ∀ i, Decides (copyDbgTrigger st i) (st.pieces.dbgTriggerTlv i = none) := by
    intro i
    unfold copyDbgTrigger
    split
    · next none => exact decides_ok () none
    · next tlv some =>
      exact (decides_check fun _ => copyToNull_decides _).congr (by simp [some])
  refine (dest.bind fun _ => (decides_each conf).bind fun _ => decides_each trigger).congr ?_
  simp only [List.mem_range]

theorem startOpMode_decides (env : LoadEnv) (type : IwlFwType) :
    Decides (startOpMode env type) (env.opMode type ≠ some false) := by
  unfold startOpMode
  split
  · next none => exact decides_ok _ (by simp [none])
  · next started => exact decides_ok _ (by simp [started])
  · next failed => exact decides_error _ (by simp [failed])

theorem checkSecSizes_decides (env : LoadEnv) (st : TlvState) :
    Decides (checkSecSizes env st) (st.fw.type = .dvm →
      SectionWithin env.memory st.pieces .regular sectionInst env.cfg.maxInstSize ∧
      SectionWithin env.memory st.pieces .regular sectionData env.cfg.maxDataSize ∧
      SectionWithin env.memory st.pieces .init sectionInst env.cfg.maxInstSize ∧
      SectionWithin env.memory st.pieces .init sectionData env.cfg.maxDataSize) := by
  have fits := sectionFits_decides env.memory st.pieces
  unfold checkSecSizes
  split
  · next dvm =>
    refine Decides.congr ?_ ⟨fun all _ => all, fun all => all dvm⟩
    exact (fits _ _ _).bind fun _ => (fits _ _ _).bind fun _ => (fits _ _ _).bind fun _ => fits _ _ _
  · next mvm => exact decides_ok () fun dvm => absurd dvm mvm

/-- The checks after the parse. -/
theorem installFirmware_decides [WideShift] (env : LoadEnv) (file : Firmware) (st : TlvState) :
    Decides (installFirmware env file st) (Supported env st) := by
  unfold installFirmware
  apply Decides.congr
  · exact decides_check fun _ => (checkSecSizes_decides env st).bind fun _ =>
      (orGoto_decides (allocImages_decides env file st)).bind fun img =>
        (copyDebug_decides st).bind fun _ => (startOpMode_decides env st.fw.type).bind
          fun loadModule => decides_ok _ trivial
  rw [not_or, Nat.not_lt, Nat.not_lt]
  exact ⟨fun ⟨version, sizes, images, noDebug, opMode, _⟩ => ⟨version, sizes, images, noDebug, opMode⟩,
    fun all => ⟨all.version, all.sizes, all.images, all.noDebug, all.opMode, trivial⟩⟩

/-- **The checks of the callback** decide whether the delivery is one it accepts. -/
theorem loadFirmware_decides [WideShift] (env : LoadEnv) (ucodeRaw : Option Firmware) :
    Decides (loadFirmware env ucodeRaw) (Accepted env ucodeRaw) := by
  unfold loadFirmware
  split
  · have missing : ¬ Accepted env none := by
      rintro ⟨_, _, same, _⟩
      cases same
    split
    · exact decides_error _ missing
    · exact decides_error _ missing
  · next file =>
    apply Decides.congr
    · exact decides_check fun _ => decides_check fun _ =>
        decides_bind fun st => installFirmware_decides env file st
    constructor
    · rintro ⟨met, enough, st, parsed, supported⟩
      refine ⟨by simpa using met, file, rfl, Nat.not_lt.mp enough, st, ?_, supported⟩
      exact orGoto_eq_ok.mp parsed
    · rintro ⟨met, other, same, enough, st, parsed, supported⟩
      obtain rfl := Option.some.inj same
      refine ⟨by simp [met], Nat.not_lt.mpr enough, st, ?_, supported⟩
      exact orGoto_eq_ok.mpr parsed

end IntelWifi.Fw
