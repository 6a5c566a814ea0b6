/-
**What a list of TLVs leaves in the parser's records.**

Each part of the records has its own rule: a scalar is overwritten, section records and memory segments
are appended, the API and CAPA words collect flags, and the debug parts keep the first of each kind.

* `scalar_after`: a scalar after one TLV, for every scalar and every type.
* `interpret_scalar`, `interpret_dest`, `interpret_conf`, ...: after a list of TLVs.
-/

import IntelWifi.Lib.Folds
import IntelWifi.Fw.Sections
import IntelWifi.Fw.TlvFormat

namespace IntelWifi.Fw

open IntelWifi.Bytes IntelWifi.Folds

/-! ### Scalars -/

/-- The fields a TLV overwrites, and the two of the header. -/
inductive Scalar where
  | ucodeVer | humanReadable
  | maxProbeLength | nScanChannels | standardPhyCalibrationSize
  | initEvtlogPtr | initEvtlogSize | initErrlogPtr
  | instEvtlogPtr | instEvtlogSize | instErrlogPtr
  | phyConfig | validTxAnt | validRxAnt
  | sdioAdmaAddr
  | pagingMemSize (type : IwlUcodeType)
  | isDualCpus (type : IwlUcodeType)
  | defaultCalib (type : IwlUcodeType)
  | enhanceSensitivityTable
  | fwType
  | fwVersion
  | gscanCapa

def Scalar.Value : Scalar → Type
  | .isDualCpus _ | .enhanceSensitivityTable => Bool
  | .defaultCalib _ => CalibCtrl
  | .fwType => IwlFwType
  | .humanReadable => List UInt8
  | .fwVersion => List Char
  | .gscanCapa => GscanCapabilities
  | _ => Nat

def Scalar.get : (field : Scalar) → TlvState → field.Value
  | .ucodeVer, st => st.fw.ucodeVer
  | .humanReadable, st => st.fw.humanReadable
  | .maxProbeLength, st => st.capa.maxProbeLength
  | .nScanChannels, st => st.capa.nScanChannels
  | .standardPhyCalibrationSize, st => st.capa.standardPhyCalibrationSize
  | .initEvtlogPtr, st => st.pieces.initEvtlogPtr
  | .initEvtlogSize, st => st.pieces.initEvtlogSize
  | .initErrlogPtr, st => st.pieces.initErrlogPtr
  | .instEvtlogPtr, st => st.pieces.instEvtlogPtr
  | .instEvtlogSize, st => st.pieces.instEvtlogSize
  | .instErrlogPtr, st => st.pieces.instErrlogPtr
  | .phyConfig, st => st.fw.phyConfig
  | .validTxAnt, st => st.fw.validTxAnt
  | .validRxAnt, st => st.fw.validRxAnt
  | .sdioAdmaAddr, st => st.fw.sdioAdmaAddr
  | .pagingMemSize type, st => st.fw.pagingMemSize type
  | .isDualCpus type, st => st.fw.isDualCpus type
  | .defaultCalib type, st => st.fw.defaultCalib type
  | .enhanceSensitivityTable, st => st.fw.enhanceSensitivityTable
  | .fwType, st => st.fw.type
  | .fwVersion, st => st.fw.fwVersion
  | .gscanCapa, st => st.fw.gscanCapa

/-- The word of a TLV of this type. -/
def u32Of (type : IwlUcodeTlvType) (c : TlvContent) : Option Nat :=
  if c.type = type then some (leAt c.payload 0 4) else none

/-- The image a SEC TLV of the new format is for. -/
def secImage : IwlUcodeTlvType → Option IwlUcodeType
  | .secRt | .secureSecRt => some .regular
  | .secInit | .secureSecInit => some .init
  | .secWowlan | .secureSecWowlan => some .wowlan
  | .secRtUsniffer => some .regularUsniffer
  | _ => none

/-- The image an INST or DATA TLV of the old format is for. -/
def legacyImage : IwlUcodeTlvType → Option IwlUcodeType
  | .inst | .data => some .regular
  | .init | .initData => some .init
  | .wowlanInst | .wowlanData => some .wowlan
  | _ => none

/-- **The value a TLV sets a scalar to**, if it sets it. -/
def Scalar.sets : (field : Scalar) → TlvContent → Option field.Value
  | .ucodeVer, _ | .humanReadable, _ => none
  | .maxProbeLength, c => u32Of .probeMaxLen c
  | .nScanChannels, c => u32Of .nScanChannels c
  | .standardPhyCalibrationSize, c => u32Of .phyCalibrationSize c
  | .initEvtlogPtr, c => u32Of .initEvtlogPtr c
  | .initEvtlogSize, c => u32Of .initEvtlogSize c
  | .initErrlogPtr, c => u32Of .initErrlogPtr c
  | .instEvtlogPtr, c => u32Of .runtEvtlogPtr c
  | .instEvtlogSize, c => u32Of .runtEvtlogSize c
  | .instErrlogPtr, c => u32Of .runtErrlogPtr c
  | .phyConfig, c => u32Of .phySku c
  | .validTxAnt, c => (u32Of .phySku c).map fun value => (value &&& (0xf <<< 16)) >>> 16
  | .validRxAnt, c => (u32Of .phySku c).map fun value => (value &&& (0xf <<< 20)) >>> 20
  | .sdioAdmaAddr, c => u32Of .sdioAdmaAddr c
  | .pagingMemSize type, c =>
    if c.type = .paging ∧ (type = .regular ∨ type = .regularUsniffer) then some (leAt c.payload 0 4)
    else none
  | .isDualCpus type, c =>
    if c.type = .numOfCpu ∧ leAt c.payload 0 4 = 2 ∧ type ≠ .regularUsniffer then some true else none
  | .defaultCalib type, c =>
    if c.type = .defCalib ∧ IwlUcodeType.ofIndex (leAt c.payload 0 4) = some type then
      some ⟨leAt c.payload 4 4, leAt c.payload 8 4⟩
    else none
  | .enhanceSensitivityTable, c => if c.type = .enhanceSensTbl then some true else none
  | .fwType, c =>
    if (secImage c.type).isSome ∧ c.type ≠ .secRtUsniffer then some .mvm else none
  | .fwVersion, c => if c.type = .fwVersion then some (versionOf c.payload) else none
  | .gscanCapa, c => if c.type = .fwGscanCapa then some (gscanOf c.payload) else none

section After

variable (st : TlvState) (tlv : Tlv) (payload : List UInt8)

/-! What the cases with a condition leave alone. -/

theorem keepDest_frame : ∃ dest regs,
    st.keepDest tlv = { st with pieces.dbgDestTlv := dest, fw.dbgDestRegNum := regs } := by
  unfold TlvState.keepDest
  split
  · exact ⟨_, _, rfl⟩
  · exact ⟨_, _, rfl⟩

theorem keepConf_frame : ∃ req confs,
    st.keepConf tlv payload = { st with usnifferReq := req, pieces.dbgConfTlv := confs } := by
  unfold TlvState.keepConf
  dsimp only
  split
  · exact ⟨_, _, rfl⟩
  · exact ⟨_, _, rfl⟩

theorem keepTrigger_frame : ∃ triggers,
    st.keepTrigger tlv payload = { st with pieces.dbgTriggerTlv := triggers } := by
  unfold TlvState.keepTrigger
  dsimp only
  split
  · exact ⟨_, rfl⟩
  · exact ⟨_, rfl⟩

theorem defCalib_frame (data length : Nat) : ∃ calib,
    st.after ⟨.defCalib, data, length⟩ payload = { st with fw.defaultCalib := calib } := by
  unfold TlvState.after
  dsimp only
  split
  · exact ⟨_, rfl⟩
  · exact ⟨_, rfl⟩

theorem numOfCpu_frame (data length : Nat) : ∃ dual,
    st.after ⟨.numOfCpu, data, length⟩ payload = { st with fw.isDualCpus := dual } := by
  unfold TlvState.after
  dsimp only
  split
  · exact ⟨_, rfl⟩
  · exact ⟨_, rfl⟩

theorem cscheme_frame (data length : Nat) : ∃ cs,
    st.after ⟨.cscheme, data, length⟩ payload = { st with fw.cs := cs } := by
  unfold TlvState.after
  dsimp only
  split
  · exact ⟨_, rfl⟩
  · exact ⟨_, rfl⟩

/-- The default calibrations. -/
theorem scalar_defCalib (field : Scalar) (data length : Nat) :
    field.get (st.after ⟨.defCalib, data, length⟩ payload) =
      (field.sets ⟨.defCalib, payload⟩).getD (field.get st) := by
  unfold TlvState.after
  dsimp only
  cases known : IwlUcodeType.ofIndex (leAt payload 0 4) with
  | none => cases field <;> first | rfl | simp [Scalar.sets, known]
  | some image =>
    cases field with
    | defaultCalib type =>
      unfold Scalar.sets Scalar.get
      dsimp only
      rw [known]
      by_cases same : image = type
      · rw [if_pos ⟨rfl, congrArg some same⟩, same, Function.update_self]
        rfl
      · rw [if_neg fun both => same (Option.some.inj both.2), Function.update_of_ne (Ne.symm same)]
        rfl
    | _ => rfl

/-- The number of CPUs: two of them are in every image but the sniffer's. -/
theorem scalar_numOfCpu (field : Scalar) (data length : Nat) :
    field.get (st.after ⟨.numOfCpu, data, length⟩ payload) =
      (field.sets ⟨.numOfCpu, payload⟩).getD (field.get st) := by
  unfold TlvState.after
  dsimp only
  split
  · next two =>
    cases field with
    | isDualCpus type =>
      unfold Scalar.sets Scalar.get
      dsimp only
      by_cases usniffer : type = .regularUsniffer
      · rw [if_pos usniffer, if_neg fun all => all.2.2 usniffer]
        rfl
      · rw [if_neg usniffer, if_pos ⟨rfl, two, usniffer⟩]
        rfl
    | _ => rfl
  · next other =>
    cases field with
    | isDualCpus type =>
      unfold Scalar.sets
      dsimp only
      rw [if_neg fun all => other all.2.1]
      rfl
    | _ => rfl

/-- **A scalar after one TLV.** -/
theorem scalar_after (field : Scalar) :
    field.get (st.after tlv payload) = (field.sets ⟨tlv.type, payload⟩).getD (field.get st) := by
  obtain ⟨type, data, length⟩ := tlv
  cases type with
  | fwDbgDest =>
    obtain ⟨_, _, frame⟩ := keepDest_frame st ⟨.fwDbgDest, data, length⟩
    refine (congrArg field.get frame).trans ?_
    cases field <;> rfl
  | fwDbgConf =>
    obtain ⟨_, _, frame⟩ := keepConf_frame st ⟨.fwDbgConf, data, length⟩ payload
    refine (congrArg field.get frame).trans ?_
    cases field <;> rfl
  | fwDbgTrigger =>
    obtain ⟨_, frame⟩ := keepTrigger_frame st ⟨.fwDbgTrigger, data, length⟩ payload
    refine (congrArg field.get frame).trans ?_
    cases field <;> rfl
  | defCalib => exact scalar_defCalib st payload field data length
  | numOfCpu => exact scalar_numOfCpu st payload field data length
  | cscheme =>
    obtain ⟨_, frame⟩ := cscheme_frame st payload data length
    refine (congrArg field.get frame).trans ?_
    cases field <;> rfl
  | paging =>
    cases field with
    | pagingMemSize type => cases type <;> rfl
    | _ => rfl
  | _ => cases field <;> rfl

end After

/-! ### The other parts -/

/-- The parts that are not overwritten, section records apart. -/
structure Parts where
  flags : Nat
  cs : List CipherScheme
  api : List Porting.Word
  capa : List Porting.Word
  memSegs : List DbgMemSeg
  dest : Option Nat
  regs : Nat
  confs : Nat → Option DbgTlv
  triggers : Nat → Option DbgTlv
  usnifferImages : Bool
  usnifferReq : Bool
  gscan : Bool

def TlvState.parts (st : TlvState) : Parts where
  flags := st.capa.flags
  cs := st.fw.cs
  api := st.capa.api
  capa := st.capa.capa
  memSegs := st.pieces.dbgMemTlv
  dest := st.pieces.dbgDestTlv
  regs := st.fw.dbgDestRegNum
  confs := st.pieces.dbgConfTlv
  triggers := st.pieces.dbgTriggerTlv
  usnifferImages := st.usnifferImages
  usnifferReq := st.usnifferReq
  gscan := st.gscanCapa

/-- `dbg_dest_reg_num`, a `u8`, for a destination of this length. -/
def regNum (length : Nat) : Nat := sizeSub length dbgDestRegOps % 256 / dbgRegOpSize

/-- The configuration is kept. -/
def Parts.keepsConf (p : Parts) (payload : List UInt8) : Bool :=
  p.dest.isSome && decide (leAt payload 0 1 < fwDbgConfMax) && (p.confs (leAt payload 0 1)).isNone

/-- The trigger is kept. -/
def Parts.keepsTrigger (p : Parts) (payload : List UInt8) : Bool :=
  decide (leAt payload 0 4 < fwDbgTriggerMax) && (p.triggers (leAt payload 0 4)).isNone

/-- What a well-formed TLV does to these parts. -/
def Parts.after (p : Parts) (tlv : Tlv) (payload : List UInt8) : Parts :=
  match tlv.type with
  | .flags => { p with flags := leAt payload 0 4 }
  | .pan => { p with flags := p.flags ||| 1 }
  | .cscheme => { p with cs := ((schemeOf payload).map (p.cs.set 0)).getD p.cs }
  | .apiChangesSet => { p with api := setFlagBits numIwlUcodeTlvApi (flagsOf payload) p.api }
  | .enabledCapabilities =>
    { p with capa := setFlagBits numIwlUcodeTlvCapa (flagsOf payload) p.capa }
  | .fwMemSeg => { p with memSegs := p.memSegs ++ [memSegOf payload] }
  | .fwDbgDest => { p with
    dest := p.dest.or (some tlv.data)
    regs := if p.dest.isSome then p.regs else regNum tlv.length }
  | .fwDbgConf =>
    if p.keepsConf payload then { p with
      confs := Function.update p.confs (leAt payload 0 1) (some ⟨tlv.data, tlv.length⟩)
      usnifferReq := p.usnifferReq || leAt payload 1 1 != 0 }
    else p
  | .fwDbgTrigger =>
    if p.keepsTrigger payload then { p with
      triggers := Function.update p.triggers (leAt payload 0 4) (some ⟨tlv.data, tlv.length⟩) }
    else p
  | .secRtUsniffer => { p with usnifferImages := true }
  | .fwGscanCapa => { p with gscan := true }
  | _ => p

theorem parts_keepDest (st : TlvState) (tlv : Tlv) :
    (st.keepDest tlv).parts = { st.parts with
      dest := st.pieces.dbgDestTlv.or (some tlv.data)
      regs := if st.pieces.dbgDestTlv.isSome then st.fw.dbgDestRegNum else regNum tlv.length } := by
  unfold TlvState.keepDest
  split
  · next kept =>
    obtain ⟨dest, kept⟩ := Option.isSome_iff_exists.mp kept
    unfold TlvState.parts
    rw [kept]
    rfl
  · next none =>
    unfold TlvState.parts
    rw [Option.not_isSome_iff_eq_none.mp none]
    rfl

theorem parts_keepConf (st : TlvState) (tlv : Tlv) (payload : List UInt8) :
    (st.keepConf tlv payload).parts =
      if st.parts.keepsConf payload then { st.parts with
        confs := Function.update st.pieces.dbgConfTlv (leAt payload 0 1) (some ⟨tlv.data, tlv.length⟩)
        usnifferReq := st.usnifferReq || leAt payload 1 1 != 0 }
      else st.parts := by
  have same : st.parts.keepsConf payload = true ↔
      ¬ (st.pieces.dbgDestTlv.isNone ∨ leAt payload 0 1 ≥ fwDbgConfMax ∨
        (st.pieces.dbgConfTlv (leAt payload 0 1)).isSome) := by
    unfold Parts.keepsConf TlvState.parts
    simp [Option.isSome_iff_ne_none, and_assoc]
  unfold TlvState.keepConf
  dsimp only
  split
  · next skipped => rw [if_neg fun keeps => same.mp keeps skipped]
  · next kept => rw [if_pos (same.mpr kept)]; rfl

theorem parts_keepTrigger (st : TlvState) (tlv : Tlv) (payload : List UInt8) :
    (st.keepTrigger tlv payload).parts =
      if st.parts.keepsTrigger payload then { st.parts with
        triggers :=
          Function.update st.pieces.dbgTriggerTlv (leAt payload 0 4) (some ⟨tlv.data, tlv.length⟩) }
      else st.parts := by
  have same : st.parts.keepsTrigger payload = true ↔
      ¬ (leAt payload 0 4 ≥ fwDbgTriggerMax ∨
        (st.pieces.dbgTriggerTlv (leAt payload 0 4)).isSome) := by
    unfold Parts.keepsTrigger TlvState.parts
    simp [Option.isSome_iff_ne_none]
  unfold TlvState.keepTrigger
  dsimp only
  split
  · next skipped => rw [if_neg fun keeps => same.mp keeps skipped]
  · next kept => rw [if_pos (same.mpr kept)]; rfl

/-- **The parts after one TLV.** -/
theorem parts_after (st : TlvState) (tlv : Tlv) (payload : List UInt8) :
    (st.after tlv payload).parts = st.parts.after tlv payload := by
  obtain ⟨type, data, length⟩ := tlv
  cases type with
  | fwDbgDest => exact parts_keepDest st ⟨.fwDbgDest, data, length⟩
  | fwDbgConf => exact parts_keepConf st ⟨.fwDbgConf, data, length⟩ payload
  | fwDbgTrigger => exact parts_keepTrigger st ⟨.fwDbgTrigger, data, length⟩ payload
  | defCalib =>
    obtain ⟨_, frame⟩ := defCalib_frame st payload data length
    rw [frame]
    rfl
  | numOfCpu =>
    obtain ⟨_, frame⟩ := numOfCpu_frame st payload data length
    rw [frame]
    rfl
  | cscheme =>
    unfold TlvState.after Parts.after
    dsimp only
    cases schemeOf payload <;> rfl
  | _ => rfl

/-! ### After a list of TLVs -/

section Laws

variable (file : Firmware)

theorem interpret_parts (tlvs : List Tlv) (st : TlvState) :
    (interpret file tlvs st).parts =
      tlvs.foldl (fun p tlv => p.after tlv (file.payload tlv)) st.parts :=
  (List.foldl_hom TlvState.parts fun st tlv => (parts_after st tlv (file.payload tlv)).symm).symm

/-- **A scalar is the last value set.** -/
theorem interpret_scalar (field : Scalar) (tlvs : List Tlv) (st : TlvState) :
    field.get (interpret file tlvs st) = latest field.sets (tlvs.map file.content) (field.get st) := by
  rw [latest_map]
  exact foldl_latest (fun st tlv => scalar_after st tlv (file.payload tlv) field) tlvs st

/-- The flags word after a TLV: FLAGS overwrites it, PAN sets a bit of it. -/
def flagsWord (flags : Nat) (c : TlvContent) : Nat :=
  if c.type = .flags then leAt c.payload 0 4 else if c.type = .pan then flags ||| 1 else flags

theorem interpret_flags (tlvs : List Tlv) (st : TlvState) :
    (interpret file tlvs st).capa.flags = (tlvs.map file.content).foldl flagsWord st.capa.flags := by
  have law : ∀ (p : Parts) (tlv : Tlv),
      flagsWord p.flags (file.content tlv) = (p.after tlv (file.payload tlv)).flags := by
    rintro p ⟨type, data, length⟩
    unfold Parts.after
    cases type with
    | fwDbgConf | fwDbgTrigger =>
      dsimp only
      split <;> rfl
    | _ => rfl
  rw [List.foldl_map]
  show (interpret file tlvs st).parts.flags = _
  rw [interpret_parts]
  exact (List.foldl_hom Parts.flags law).symm

/-- The cipher scheme a TLV stores. -/
def schemeTlv (c : TlvContent) : Option CipherScheme :=
  if c.type = .cscheme then schemeOf c.payload else none

theorem interpret_cs (tlvs : List Tlv) (st : TlvState) :
    (interpret file tlvs st).fw.cs =
      ((tlvs.map file.content).filterMap schemeTlv).foldl (fun cs scheme => cs.set 0 scheme)
        st.fw.cs := by
  have law : ∀ (p : Parts) (tlv : Tlv), (p.after tlv (file.payload tlv)).cs =
      ((schemeTlv (file.content tlv)).map (p.cs.set 0)).getD p.cs := by
    rintro p ⟨type, data, length⟩
    unfold Parts.after
    cases type with
    | fwDbgConf | fwDbgTrigger =>
      dsimp only
      split <;> rfl
    | _ => rfl
  rw [List.filterMap_map]
  show (interpret file tlvs st).parts.cs = _
  rw [interpret_parts]
  exact foldl_part law tlvs st.parts

/-- The flags an API TLV carries. -/
def apiOf (c : TlvContent) : Option FlagsTlv :=
  if c.type = .apiChangesSet then some (flagsOf c.payload) else none

/-- The flags a CAPA TLV carries. -/
def capaOf (c : TlvContent) : Option FlagsTlv :=
  if c.type = .enabledCapabilities then some (flagsOf c.payload) else none

theorem interpret_api (tlvs : List Tlv) (st : TlvState) :
    (interpret file tlvs st).capa.api =
      applyTlvs numIwlUcodeTlvApi ((tlvs.map file.content).filterMap apiOf) st.capa.api := by
  have law : ∀ (p : Parts) (tlv : Tlv), (p.after tlv (file.payload tlv)).api =
      ((apiOf (file.content tlv)).map fun flags => setFlagBits numIwlUcodeTlvApi flags p.api).getD
        p.api := by
    rintro p ⟨type, data, length⟩
    unfold Parts.after
    cases type with
    | fwDbgConf | fwDbgTrigger =>
      dsimp only
      split <;> rfl
    | _ => rfl
  rw [List.filterMap_map]
  show (interpret file tlvs st).parts.api = _
  rw [interpret_parts]
  exact foldl_part law tlvs st.parts

theorem interpret_capa (tlvs : List Tlv) (st : TlvState) :
    (interpret file tlvs st).capa.capa =
      applyTlvs numIwlUcodeTlvCapa ((tlvs.map file.content).filterMap capaOf) st.capa.capa := by
  have law : ∀ (p : Parts) (tlv : Tlv), (p.after tlv (file.payload tlv)).capa =
      ((capaOf (file.content tlv)).map fun flags => setFlagBits numIwlUcodeTlvCapa flags p.capa).getD
        p.capa := by
    rintro p ⟨type, data, length⟩
    unfold Parts.after
    cases type with
    | fwDbgConf | fwDbgTrigger =>
      dsimp only
      split <;> rfl
    | _ => rfl
  rw [List.filterMap_map]
  show (interpret file tlvs st).parts.capa = _
  rw [interpret_parts]
  exact foldl_part law tlvs st.parts

/-- The memory segment a TLV adds. -/
def memSegTlv (c : TlvContent) : Option DbgMemSeg :=
  if c.type = .fwMemSeg then some (memSegOf c.payload) else none

theorem interpret_memSegs (tlvs : List Tlv) (st : TlvState) :
    (interpret file tlvs st).pieces.dbgMemTlv =
      st.pieces.dbgMemTlv ++ (tlvs.map file.content).filterMap memSegTlv := by
  have law : ∀ (p : Parts) (tlv : Tlv), (p.after tlv (file.payload tlv)).memSegs =
      p.memSegs ++ (memSegTlv (file.content tlv)).toList := by
    rintro p ⟨type, data, length⟩
    unfold Parts.after
    cases type with
    | fwMemSeg => rfl
    | fwDbgConf | fwDbgTrigger =>
      dsimp only
      split <;> exact (List.append_nil _).symm
    | _ => exact (List.append_nil _).symm
  rw [List.filterMap_map]
  show (interpret file tlvs st).parts.memSegs = _
  rw [interpret_parts]
  exact foldl_extended law tlvs st.parts

/-- The destination a TLV is. -/
def destOf (tlv : Tlv) : Option Nat := if tlv.type = .fwDbgDest then some tlv.data else none

theorem dest_after (p : Parts) (tlv : Tlv) :
    (p.after tlv (file.payload tlv)).dest = p.dest.or (destOf tlv) := by
  obtain ⟨type, data, length⟩ := tlv
  unfold Parts.after
  cases type with
  | fwDbgDest => rfl
  | fwDbgConf | fwDbgTrigger =>
    dsimp only
    split <;> exact (Option.or_none).symm
  | _ => exact (Option.or_none).symm

/-- **The first destination is kept.** -/
theorem interpret_dest (tlvs : List Tlv) (st : TlvState) :
    (interpret file tlvs st).pieces.dbgDestTlv = st.pieces.dbgDestTlv.or (tlvs.findSome? destOf) := by
  show (interpret file tlvs st).parts.dest = _
  rw [interpret_parts]
  exact foldl_first (dest_after file) tlvs st.parts

/-- The length of a destination. -/
def destLength (tlv : Tlv) : Option Nat := if tlv.type = .fwDbgDest then some tlv.length else none

theorem regs_after (p : Parts) (tlv : Tlv) :
    (if (p.after tlv (file.payload tlv)).dest.isSome then
      some (p.after tlv (file.payload tlv)).regs else none) =
      (if p.dest.isSome then some p.regs else none).or ((destLength tlv).map regNum) := by
  obtain ⟨type, data, length⟩ := tlv
  unfold Parts.after
  cases type with
  | fwDbgDest =>
    dsimp only
    cases p.dest <;> rfl
  | fwDbgConf | fwDbgTrigger =>
    dsimp only
    split <;> exact (Option.or_none).symm
  | _ => exact (Option.or_none).symm

/-- **The register count is that of the destination that is kept.** -/
theorem interpret_regs {tlvs : List Tlv} {st : TlvState} (noDest : st.pieces.dbgDestTlv = none)
    {length : Nat} (first : tlvs.findSome? destLength = some length) :
    (interpret file tlvs st).fw.dbgDestRegNum = regNum length := by
  have kept := @foldl_first Parts Nat Tlv _ (fun p => if p.dest.isSome then some p.regs else none) _
    (regs_after file) tlvs st.parts
  have closed : st.parts.dest = none := noDest
  have offered : tlvs.findSome? (fun tlv => (destLength tlv).map regNum) = some (regNum length) := by
    have mapped := congrArg (Option.map regNum) first
    rwa [List.map_findSome?] at mapped
  rw [← interpret_parts, closed, offered] at kept
  dsimp only [Option.isSome_none, Bool.false_eq_true, if_false] at kept
  split at kept
  · exact Option.some.inj kept
  · cases kept

/-- The configuration `id` a TLV is. -/
def confOf (id : Nat) (tlv : Tlv) : Option DbgTlv :=
  if tlv.type = .fwDbgConf ∧ leAt (file.payload tlv) 0 1 = id ∧ id < fwDbgConfMax then
    some ⟨tlv.data, tlv.length⟩
  else none

/-- The trigger `id` a TLV is. -/
def triggerOf (id : Nat) (tlv : Tlv) : Option DbgTlv :=
  if tlv.type = .fwDbgTrigger ∧ leAt (file.payload tlv) 0 4 = id ∧ id < fwDbgTriggerMax then
    some ⟨tlv.data, tlv.length⟩
  else none

/-- Nothing is offered. -/
theorem eq_or_gate {α : Type} {old offer : Option α} {gate : Bool} (none : offer = none) :
    old = old.or (if gate then offer else .none) := by
  rw [none, ite_self, Option.or_none]

theorem conf_after (id : Nat) (p : Parts) (tlv : Tlv) :
    (p.after tlv (file.payload tlv)).confs id =
      (p.confs id).or (if p.dest.isSome then confOf file id tlv else none) := by
  obtain ⟨type, data, length⟩ := tlv
  unfold Parts.after
  cases type with
  | fwDbgConf =>
    dsimp only
    unfold Parts.keepsConf confOf
    by_cases mine : leAt (file.payload ⟨.fwDbgConf, data, length⟩) 0 1 = id
    · rw [mine]
      cases dest : p.dest.isSome with
      | false => simp
      | true =>
        cases held : p.confs id with
        | some conf => simp [held]
        | none =>
          by_cases range : id < fwDbgConfMax
          · simp [range]
          · simp [range, held]
    · have other : id ≠ leAt (file.payload ⟨.fwDbgConf, data, length⟩) 0 1 := fun same => mine same.symm
      rw [← eq_or_gate (if_neg fun all => mine all.2.1)]
      split
      · dsimp only
        rw [Function.update_of_ne other]
      · rfl
  | fwDbgTrigger =>
    dsimp only
    split <;> exact eq_or_gate rfl
  | _ => exact eq_or_gate rfl

/-- **After a destination, the first configuration of each index is kept.** -/
theorem interpret_conf (id : Nat) (tlvs : List Tlv) {st : TlvState}
    (noDest : st.pieces.dbgDestTlv = none) :
    (interpret file tlvs st).pieces.dbgConfTlv id =
      (st.pieces.dbgConfTlv id).or
        ((afterFirst (fun tlv => (destOf tlv).isSome) tlvs).findSome? (confOf file id)) := by
  show (interpret file tlvs st).parts.confs id = _
  rw [interpret_parts]
  have gate : ∀ (p : Parts) (tlv : Tlv), (p.after tlv (file.payload tlv)).dest.isSome =
      (p.dest.isSome || (destOf tlv).isSome) := by
    intro p tlv
    rw [dest_after, Option.isSome_or]
  have closed : st.parts.dest.isSome = false := by
    show st.pieces.dbgDestTlv.isSome = false
    rw [noDest]
    rfl
  have kept := @foldl_first_after Parts DbgTlv Tlv _ (fun p => p.confs id) (confOf file id)
    (fun p => p.dest.isSome) _ gate (conf_after file id) tlvs st.parts
  rw [closed] at kept
  exact kept

theorem trigger_after (id : Nat) (p : Parts) (tlv : Tlv) :
    (p.after tlv (file.payload tlv)).triggers id = (p.triggers id).or (triggerOf file id tlv) := by
  obtain ⟨type, data, length⟩ := tlv
  unfold Parts.after
  cases type with
  | fwDbgTrigger =>
    dsimp only
    unfold Parts.keepsTrigger
    by_cases mine : leAt (file.payload ⟨.fwDbgTrigger, data, length⟩) 0 4 = id
    · unfold triggerOf
      rw [mine]
      cases held : p.triggers id with
      | some trigger => simp [held]
      | none =>
        by_cases range : id < fwDbgTriggerMax
        · simp [range]
        · simp [range, held]
    · have other : id ≠ leAt (file.payload ⟨.fwDbgTrigger, data, length⟩) 0 4 :=
        fun same => mine same.symm
      have none : triggerOf file id ⟨.fwDbgTrigger, data, length⟩ = none :=
        if_neg fun all => mine all.2.1
      rw [none, Option.or_none]
      split
      · dsimp only
        rw [Function.update_of_ne other]
      · rfl
  | fwDbgConf =>
    dsimp only
    split <;> exact (Option.or_none).symm
  | _ => exact (Option.or_none).symm

/-- **The first trigger of each index is kept.** -/
theorem interpret_trigger (id : Nat) (tlvs : List Tlv) (st : TlvState) :
    (interpret file tlvs st).pieces.dbgTriggerTlv id =
      (st.pieces.dbgTriggerTlv id).or (tlvs.findSome? (triggerOf file id)) := by
  show (interpret file tlvs st).parts.triggers id = _
  rw [interpret_parts]
  exact @foldl_first Parts DbgTlv Tlv _ (fun p => p.triggers id) _ (trigger_after file id) tlvs
    st.parts

theorem interpret_usnifferImages (tlvs : List Tlv) (st : TlvState) :
    (interpret file tlvs st).usnifferImages =
      (st.usnifferImages || tlvs.any fun tlv => tlv.type == .secRtUsniffer) := by
  have law : ∀ (p : Parts) (tlv : Tlv), (p.after tlv (file.payload tlv)).usnifferImages =
      (p.usnifferImages || tlv.type == .secRtUsniffer) := by
    rintro p ⟨type, data, length⟩
    unfold Parts.after
    cases type with
    | secRtUsniffer => exact (Bool.or_true _).symm
    | fwDbgConf | fwDbgTrigger =>
      dsimp only
      split <;> exact (Bool.or_false _).symm
    | _ => exact (Bool.or_false _).symm
  show (interpret file tlvs st).parts.usnifferImages = _
  rw [interpret_parts]
  exact foldl_any law tlvs st.parts

theorem interpret_gscan (tlvs : List Tlv) (st : TlvState) :
    (interpret file tlvs st).gscanCapa =
      (st.gscanCapa || tlvs.any fun tlv => tlv.type == .fwGscanCapa) := by
  have law : ∀ (p : Parts) (tlv : Tlv), (p.after tlv (file.payload tlv)).gscan =
      (p.gscan || tlv.type == .fwGscanCapa) := by
    rintro p ⟨type, data, length⟩
    unfold Parts.after
    cases type with
    | fwGscanCapa => exact (Bool.or_true _).symm
    | fwDbgConf | fwDbgTrigger =>
      dsimp only
      split <;> exact (Bool.or_false _).symm
    | _ => exact (Bool.or_false _).symm
  show (interpret file tlvs st).parts.gscan = _
  rw [interpret_parts]
  exact foldl_any law tlvs st.parts

/-- A kept configuration asks for the usniffer image. -/
def AsksUsniffer (confs : Nat → Option DbgTlv) : Prop :=
  ∃ id conf, confs id = some conf ∧ leAt (slice file.data conf.data conf.length) 1 1 ≠ 0

theorem usnifferReq_after (p : Parts) (tlv : Tlv)
    (before : p.usnifferReq = true ↔ AsksUsniffer file p.confs) :
    (p.after tlv (file.payload tlv)).usnifferReq = true ↔
      AsksUsniffer file (p.after tlv (file.payload tlv)).confs := by
  obtain ⟨type, data, length⟩ := tlv
  unfold Parts.after
  cases type with
  | fwDbgConf =>
    dsimp only
    split
    · next keeps =>
      have fresh : p.confs (leAt (file.payload ⟨.fwDbgConf, data, length⟩) 0 1) = none := by
        unfold Parts.keepsConf at keeps
        simpa using (Bool.and_eq_true_iff.mp keeps).2
      dsimp only
      rw [Bool.or_eq_true, before, bne_iff_ne]
      constructor
      · rintro (⟨id, conf, held, asks⟩ | asks)
        · refine ⟨id, conf, ?_, asks⟩
          rw [Function.update_of_ne, held]
          rintro rfl
          rw [fresh] at held
          cases held
        · exact ⟨_, _, Function.update_self .., asks⟩
      · rintro ⟨id, conf, held, asks⟩
        by_cases mine : id = leAt (file.payload ⟨.fwDbgConf, data, length⟩) 0 1
        · subst mine
          rw [Function.update_self] at held
          obtain rfl := Option.some.inj held
          exact .inr asks
        · rw [Function.update_of_ne mine] at held
          exact .inl ⟨id, conf, held, asks⟩
    · exact before
  | fwDbgTrigger =>
    dsimp only
    split <;> exact before
  | _ => exact before

/-- **The usniffer image is asked for** by a configuration that is kept. -/
theorem interpret_usnifferReq (tlvs : List Tlv) {st : TlvState}
    (before : st.usnifferReq = true ↔ AsksUsniffer file st.pieces.dbgConfTlv) :
    (interpret file tlvs st).usnifferReq = true ↔
      AsksUsniffer file (interpret file tlvs st).pieces.dbgConfTlv := by
  show (interpret file tlvs st).parts.usnifferReq = true ↔
    AsksUsniffer file (interpret file tlvs st).parts.confs
  rw [interpret_parts]
  exact List.foldlRecOn (motive := fun p : Parts => p.usnifferReq = true ↔ AsksUsniffer file p.confs)
    _ _ before fun p kept tlv _ => usnifferReq_after file p tlv kept

end Laws

end IntelWifi.Fw
