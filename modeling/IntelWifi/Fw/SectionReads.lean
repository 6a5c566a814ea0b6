/-
**The section records that the callback reads.**

`validate_sec_sizes` looks at two records of the REGULAR and two of the INIT image by index, before
`iwl_alloc_ucode` goes through the records that there are. `get_sec_size` does not look at how many there
are. The first four reads are those of a debug message, which is compiled in or not.

* `sectionFits_fault_iff`: reading a missing record is where the comparisons of `IntelWifi.Fw.Callback` stop.
* `sectionInst_lt_iff`: a DVM image has two records exactly when its INST TLV is in the file.
* `sectionReads_iff`: the accepted files all of whose reads find a record.
-/

import IntelWifi.Fw.FirmwareRequest

namespace IntelWifi.Fw

open IntelWifi.Bytes IntelWifi.Checked IntelWifi.Slots IntelWifi.Porting

/-- A record by its image and its index. -/
abbrev SecIndex := IwlUcodeType × Nat

/-- One comparison of `validate_sec_sizes`: the record it compares, the limit, and the record whose size its
message prints. -/
structure SizeLimit where
  compared : SecIndex
  limit : Nat
  printed : SecIndex

/-- The four comparisons, in order. The last message prints the wrong image. -/
def sizeLimits (cfg : IwlCfg) : List SizeLimit :=
  [⟨(.regular, sectionInst), cfg.maxInstSize, (.regular, sectionInst)⟩,
    ⟨(.regular, sectionData), cfg.maxDataSize, (.regular, sectionData)⟩,
    ⟨(.init, sectionInst), cfg.maxInstSize, (.init, sectionInst)⟩,
    ⟨(.init, sectionData), cfg.maxDataSize, (.regular, sectionData)⟩]

/-- `get_sec_size`. `stray` is what lies where a record is missing. -/
def sizeAt (memory : Memory) (stray : SecIndex → Nat) (img : IwlUcodeType → List FwSec)
    (index : SecIndex) : Nat :=
  match (img index.1)[index.2]? with
  | none => stray index
  | some record => memory.sizeOf index.1 index.2 record

/-- What some comparisons read: they end with the message of the first record that is too large. -/
def comparisonReads (size : SecIndex → Nat) : List SizeLimit → List SecIndex
  | [] => []
  | check :: later =>
    check.compared ::
      if size check.compared > check.limit then [check.printed] else comparisonReads size later

/-- The records that `validate_sec_sizes` reads; `debug` says whether its debug messages are printed. -/
def validateReads (debug : Bool) (cfg : IwlCfg) (size : SecIndex → Nat) : List SecIndex :=
  (if debug then [(.regular, sectionInst), (.regular, sectionData), (.init, sectionInst),
    (.init, sectionData)] else []) ++ comparisonReads size (sizeLimits cfg)

/-- The records that `iwl_alloc_ucode` reads, if it gets that far. -/
def allocReads (pieces : IwlFirmwarePieces) : List SecIndex :=
  [IwlUcodeType.regular, .init, .wowlan, .regularUsniffer].flatMap fun type =>
    (List.range (pieces.img type).length).map fun sec => (type, sec)

/-- The records that `iwl_req_fw_callback` reads after the parse. -/
def callbackReads [WideShift] (debug : Bool) (cfg : IwlCfg) (memory : Memory) (stray : SecIndex → Nat) (st : TlvState) :
    List SecIndex :=
  if apiVer st < cfg.ucodeApiMin ∨ apiVer st > cfg.ucodeApiMax then []
  else
    (if st.fw.type = .dvm then validateReads debug cfg (sizeAt memory stray st.pieces.img) else []) ++
      allocReads st.pieces

/-- The image has more than that many records. -/
def RecordExists (pieces : IwlFirmwarePieces) (index : SecIndex) : Prop :=
  index.2 < (pieces.img index.1).length

/-- **Every read finds a record.** -/
def ReadsExist [WideShift] (debug : Bool) (cfg : IwlCfg) (memory : Memory) (stray : SecIndex → Nat) (st : TlvState) :
    Prop :=
  ∀ index ∈ callbackReads debug cfg memory stray st, RecordExists st.pieces index

/-- A comparison of `IntelWifi.Fw.Callback` stops where the record is missing. -/
theorem sectionFits_fault_iff (memory : Memory) (pieces : IwlFirmwarePieces) (type : IwlUcodeType)
    (sec limit : Nat) :
    sectionFits memory pieces type sec limit = .error .fault ↔ ¬ RecordExists pieces (type, sec) := by
  unfold sectionFits RecordExists
  rw [Nat.not_lt, ← List.getElem?_eq_none_iff]
  constructor
  · intro stops
    split at stops
    · assumption
    · split at stops <;> cases stops
  · intro missing
    rw [missing]

/-! ### Which reads exist -/

theorem allocReads_exist (pieces : IwlFirmwarePieces) :
    ∀ index ∈ allocReads pieces, RecordExists pieces index := by
  intro index member
  obtain ⟨type, _, member⟩ := List.mem_flatMap.mp member
  obtain ⟨sec, inside, rfl⟩ := List.mem_map.mp member
  exact List.mem_range.mp inside

/-- The REGULAR sizes are within their limits. -/
def regularFits (cfg : IwlCfg) (size : SecIndex → Nat) : Bool :=
  decide (size (.regular, sectionInst) ≤ cfg.maxInstSize) &&
    decide (size (.regular, sectionData) ≤ cfg.maxDataSize)

section Reads

variable {pieces : IwlFirmwarePieces} {cfg : IwlCfg} {size : SecIndex → Nat}

theorem RecordExists.data {type : IwlUcodeType} (exists_ : RecordExists pieces (type, sectionInst)) :
    RecordExists pieces (type, sectionData) :=
  Nat.lt_of_succ_lt exists_

/-- **The records that the comparisons read**: the INST record of REGULAR, and that of INIT unless a REGULAR
size is too large. -/
theorem comparisonReads_exist_iff :
    (∀ index ∈ comparisonReads size (sizeLimits cfg), RecordExists pieces index) ↔
      RecordExists pieces (.regular, sectionInst) ∧
        (regularFits cfg size = true → RecordExists pieces (.init, sectionInst)) := by
  unfold sizeLimits regularFits
  rw [Bool.and_eq_true, decide_eq_true_iff, decide_eq_true_iff]
  simp only [comparisonReads]
  constructor
  · intro all
    refine ⟨all _ List.mem_cons_self, fun ⟨inst, data⟩ => ?_⟩
    rw [if_neg (Nat.not_lt.mpr inst), if_neg (Nat.not_lt.mpr data)] at all
    exact all _ (List.mem_cons_of_mem _ (List.mem_cons_of_mem _ List.mem_cons_self))
  · rintro ⟨regular, init⟩ index member
    rcases List.mem_cons.mp member with rfl | member
    · exact regular
    · split at member
      · exact List.mem_singleton.mp member ▸ regular
      · next inst =>
        rcases List.mem_cons.mp member with rfl | member
        · exact regular.data
        · split at member
          · exact List.mem_singleton.mp member ▸ regular.data
          · next data =>
            have second := init ⟨Nat.not_lt.mp inst, Nat.not_lt.mp data⟩
            rcases List.mem_cons.mp member with rfl | member
            · exact second
            · split at member
              · exact List.mem_singleton.mp member ▸ second
              · rcases List.mem_cons.mp member with rfl | member
                · exact second.data
                · split at member
                  · exact List.mem_singleton.mp member ▸ regular.data
                  · cases member

/-- With the debug message, both images need their INST record. -/
theorem validateReads_exist_iff (debug : Bool) :
    (∀ index ∈ validateReads debug cfg size, RecordExists pieces index) ↔
      RecordExists pieces (.regular, sectionInst) ∧
        ((debug || regularFits cfg size) = true → RecordExists pieces (.init, sectionInst)) := by
  unfold validateReads
  rw [List.forall_mem_append, comparisonReads_exist_iff]
  cases debug with
  | false =>
    rw [Bool.false_or]
    exact ⟨fun both => both.2, fun both => ⟨fun _ member => (nomatch member), both⟩⟩
  | true =>
    rw [Bool.true_or, if_pos rfl]
    constructor
    · rintro ⟨messages, regular, _⟩
      exact ⟨regular, fun _ => messages _ (List.mem_cons_of_mem _ (List.mem_cons_of_mem _ List.mem_cons_self))⟩
    · rintro ⟨regular, init⟩
      have second := init rfl
      refine ⟨fun index member => ?_, regular, fun _ => second⟩
      simp only [List.mem_cons, List.not_mem_nil, or_false] at member
      rcases member with rfl | rfl | rfl | rfl
      · exact regular
      · exact regular.data
      · exact second
      · exact second.data

end Reads

/-! ### Which records a file has -/

/-- The TLVs that make the image one of the MVM firmware. -/
def IwlUcodeTlvType.mvmSection : IwlUcodeTlvType → Bool
  | .secRt | .secInit | .secWowlan | .secureSecRt | .secureSecInit | .secureSecWowlan => true
  | _ => false

/-- The parser comes to a TLV of the type. -/
def Firmware.hasTlv (file : Firmware) (type : IwlUcodeTlvType) : Bool :=
  (visitedTlvs file).any fun tlv => tlv.type == type

/-- The records of a TLV file. -/
def fileRecords (file : Firmware) (type : IwlUcodeType) : List FwSec :=
  (fill (sectionWrites type (visitedTlvs file)) []).map (slotRecord file)

/-- What the callback asks the parser for besides the records: the type of the firmware, and what its API
version is taken from. -/
structure Asked where
  type : IwlFwType
  ucodeVer : Nat
  api : List Word

def TlvState.asked (st : TlvState) : Asked := ⟨st.fw.type, st.fw.ucodeVer, st.capa.api⟩

/-- What a TLV does to it. -/
def Asked.after (file : Firmware) (asked : Asked) (tlv : Tlv) : Asked where
  type := if tlv.type.mvmSection then .mvm else asked.type
  ucodeVer := asked.ucodeVer
  api :=
    if tlv.type = .apiChangesSet then
      setFlagBits numIwlUcodeTlvApi ⟨leAt file.data tlv.data 4, leAt file.data (tlv.data + 4) 4⟩ asked.api
    else asked.api

/-- What a file answers. -/
def fileAsked (file : Firmware) (fw : IwlFw) (capa : IwlUcodeCapabilities) : Asked :=
  (visitedTlvs file).foldl (Asked.after file) ⟨fw.type, leAt file.data 72 4, capa.api⟩

/-- `api_ver`. -/
def Asked.apiVer [WideShift] (asked : Asked) : Nat :=
  if testBit tlvApiNewVersion asked.api then asked.ucodeVer else iwlUcodeApi asked.ucodeVer

/-- The driver refuses the API version of the file. -/
def versionRefused [WideShift] (cfg : IwlCfg) (file : Firmware) (fw : IwlFw) (capa : IwlUcodeCapabilities) : Bool :=
  decide ((fileAsked file fw capa).apiVer < cfg.ucodeApiMin ∨
    (fileAsked file fw capa).apiVer > cfg.ucodeApiMax)

/-- The firmware is DVM's: the driver has not seen another, and no TLV is of the MVM firmware. -/
def dvmFile (file : Firmware) (fw : IwlFw) : Bool :=
  decide (fw.type = .dvm) && !(visitedTlvs file).any fun tlv => tlv.type.mvmSection

/-- **The condition on a file**: its version is refused; or it is not DVM's; or it has an INST TLV of REGULAR,
and one of INIT unless a size of REGULAR is too large and the debug message is not printed. -/
def sizesReadable [WideShift] (debug : Bool) (cfg : IwlCfg) (memory : Memory) (stray : SecIndex → Nat) (file : Firmware)
    (fw : IwlFw) (capa : IwlUcodeCapabilities) : Bool :=
  versionRefused cfg file fw capa || !dvmFile file fw || (file.hasTlv .inst &&
    (!(debug || regularFits cfg (sizeAt memory stray (fileRecords file))) || file.hasTlv .init))

section Effects

variable {file : Firmware} {tlv : Tlv} {st st' : TlvState}

theorem Leaves.asked (leaves : Leaves st st') : st'.asked = st.asked := by
  unfold TlvState.asked
  rw [leaves.type, leaves.ucodeVer, leaves.api]

theorem secTlv_asked {type : IwlUcodeType} (done : secTlv file tlv type st = .ok st') :
    st'.asked = { st.asked with type := .mvm } := by
  obtain ⟨stored, appended, done⟩ := bind_eq_ok done
  rw [iwlStoreUcodeSec_ok appended] at done
  cases done
  rfl

theorem flagsTlv_ok {flags : FlagsTlv} (done : flagsTlv file tlv = .ok flags) :
    flags = ⟨leAt file.data tlv.data 4, leAt file.data (tlv.data + 4) 4⟩ := by
  obtain ⟨_, _, done⟩ := bind_eq_ok done
  obtain ⟨apiIndex, index, done⟩ := bind_eq_ok done
  obtain ⟨apiFlags, bits, done⟩ := bind_eq_ok done
  cases done
  rw [read_eq_ok index, read_eq_ok bits]

/-- **One TLV**: only a section TLV of the MVM firmware changes the type, only an API TLV the API words. -/
theorem handleTlv_asked (done : handleTlv file tlv st = .ok st') : st'.asked = st.asked.after file tlv := by
  obtain ⟨tlvType, data, length⟩ := tlv
  cases tlvType with
  | inst | data | init | initData | wowlanInst | wowlanData | boot | unknown =>
    cases done
    rfl
  | probeMaxLen | initEvtlogPtr | initEvtlogSize | initErrlogPtr | runtEvtlogPtr | runtEvtlogSize
  | runtErrlogPtr | phyCalibrationSize | phySku | nScanChannels | sdioAdmaAddr =>
    obtain ⟨value, rfl⟩ := u32Tlv_ok done
    rfl
  | pan | enhanceSensTbl =>
    rw [emptyTlv_ok done]
    rfl
  | flags => exact (flagsCase_leaves done).asked
  | apiChangesSet =>
    obtain ⟨flags, read, done⟩ := bind_eq_ok done
    cases done
    rw [flagsTlv_ok read]
    rfl
  | enabledCapabilities =>
    obtain ⟨_, _, done⟩ := bind_eq_ok done
    cases done
    rfl
  | secRt | secInit | secWowlan | secureSecRt | secureSecInit | secureSecWowlan => exact secTlv_asked done
  | secRtUsniffer =>
    rw [iwlStoreUcodeSec_ok done]
    rfl
  | defCalib => exact (iwlSetDefaultCalib_leaves done).asked
  | numOfCpu => exact (numOfCpuTlv_leaves done).asked
  | cscheme => exact (iwlStoreCscheme_leaves done).asked
  | fwVersion => exact (fwVersionTlv_leaves done).asked
  | fwDbgDest => exact (fwDbgDestTlv_leaves done).asked
  | fwDbgConf => exact (fwDbgConfTlv_leaves done).asked
  | fwDbgTrigger => exact (fwDbgTriggerTlv_leaves done).asked
  | paging => exact (pagingTlv_leaves done).asked
  | fwGscanCapa => exact (fwGscanCapaTlv_leaves done).asked
  | fwMemSeg => exact (fwMemSegTlv_leaves done).asked

end Effects

/-- The file's header says the version, and changes nothing else of it. -/
theorem tlvHeader_asked {file : Firmware} {st st' : TlvState} {cur : Cursor}
    (accepted : tlvHeader file st = .ok (cur, st')) :
    st'.asked = { st.asked with ucodeVer := leAt file.data 72 4 } := by
  unfold tlvHeader at accepted
  split at accepted
  · cases accepted
  · obtain ⟨magic, _, accepted⟩ := bind_eq_ok accepted
    split at accepted
    · cases accepted
    · obtain ⟨ver, read, accepted⟩ := bind_eq_ok accepted
      obtain ⟨build, _, accepted⟩ := bind_eq_ok accepted
      cases accepted
      rw [← read_eq_ok read]
      rfl

theorem tlvFinish_asked [WideShift] {cur : Cursor} {left st : TlvState} (finished : tlvFinish cur left = .ok st) :
    st.asked = left.asked := by
  obtain ⟨words, rfl⟩ := tlvFinish_ok finished
  rfl

/-- **What an accepted file answers.** -/
theorem accepted_asked [WideShift] {file : Firmware} {fw : IwlFw} {capa : IwlUcodeCapabilities} {st : TlvState}
    (accepted : iwlParseTlvFirmware file (.start fw capa) = some (.ok st)) :
    st.asked = fileAsked file fw capa := by
  obtain ⟨left, cur, handled, finished⟩ := accepted_induction
    (fun done st => st.asked = done.foldl (Asked.after file) ⟨fw.type, leAt file.data 72 4, capa.api⟩)
    (fun _ _ entry => tlvHeader_asked entry)
    (fun done tlv st st' held _ step => by
      rw [handleTlv_asked step, held, List.foldl_append]
      rfl)
    accepted
  exact (tlvFinish_asked finished).trans handled

/-- The type stays DVM's until a TLV of the MVM firmware comes. -/
theorem foldl_after_type (file : Firmware) (tlvs : List Tlv) (asked : Asked) :
    (tlvs.foldl (Asked.after file) asked).type = .dvm ↔
      asked.type = .dvm ∧ (tlvs.any fun tlv => tlv.type.mvmSection) = false := by
  induction tlvs generalizing asked with
  | nil => simp
  | cons tlv later ih =>
    rw [List.foldl_cons, ih, List.any_cons, Bool.or_eq_false_iff]
    unfold Asked.after
    dsimp only
    cases tlv.type.mvmSection with
    | true => simp
    | false => simp

theorem dvmFile_iff (file : Firmware) (fw : IwlFw) (capa : IwlUcodeCapabilities) :
    (fileAsked file fw capa).type = .dvm ↔ dvmFile file fw = true := by
  unfold fileAsked dvmFile
  rw [foldl_after_type]
  simp

/-! ### Which records a DVM file has -/

/-- The TLV that fills the INST record of an image. -/
def instTlv : IwlUcodeType → IwlUcodeTlvType
  | .regular => .inst
  | .init => .init
  | .wowlan => .wowlanInst
  | .regularUsniffer => .secRtUsniffer

/-- In an image of the DVM firmware a TLV puts the INST or the DATA record. -/
theorem writeTo_dvm {type : IwlUcodeType} {tlv : Tlv} {write : Write Tlv} (old : type ≠ .regularUsniffer)
    (dvm : tlv.type.mvmSection = false) (writes : writeTo type tlv = some write) :
    ∃ slot, write = .put slot tlv ∧ (sectionInst ≤ slot ↔ tlv.type = instTlv type) := by
  obtain ⟨tlvType, data, length⟩ := tlv
  cases tlvType with
  | inst | data | init | initData | wowlanInst | wowlanData =>
    dsimp only [writeTo, sectionWrite] at writes
    split at writes
    · next here =>
      cases writes
      rw [← here]
      refine ⟨_, rfl, ?_⟩
      dsimp only
      decide
    · cases writes
  | secRt | secInit | secWowlan | secureSecRt | secureSecInit | secureSecWowlan => cases dvm
  | secRtUsniffer =>
    dsimp only [writeTo, sectionWrite] at writes
    rw [if_neg (Ne.symm old)] at writes
    cases writes
  | _ => cases writes

/-- **An image of the DVM firmware has an INST record exactly when its INST TLV is there.** -/
theorem sectionInst_lt_iff {type : IwlUcodeType} {tlvs : List Tlv} (old : type ≠ .regularUsniffer)
    (dvm : (tlvs.any fun tlv => tlv.type.mvmSection) = false) :
    sectionInst < (fill (sectionWrites type tlvs) []).length ↔
      (tlvs.any fun tlv => tlv.type == instTlv type) = true := by
  have plain : ∀ tlv ∈ tlvs, tlv.type.mvmSection = false := fun tlv member =>
    Bool.eq_false_iff.mpr (List.any_eq_false.mp dvm tlv member)
  have written : ∀ write ∈ sectionWrites type tlvs, ∃ tlv ∈ tlvs, writeTo type tlv = some write :=
    fun write member => List.mem_filterMap.mp member
  rw [lt_length_fill_puts, List.any_eq_true]
  · constructor
    · rintro (old | ⟨slot, above, tlv, found⟩)
      · cases old
      · obtain ⟨source, member, writes⟩ := written _ found
        obtain ⟨slot', same, inst⟩ := writeTo_dvm old (plain source member) writes
        cases same
        exact ⟨_, member, beq_iff_eq.mpr (inst.mp above)⟩
    · rintro ⟨tlv, member, inst⟩
      have type_ := beq_iff_eq.mp inst
      refine .inr ⟨sectionInst, Nat.le_refl _, tlv, List.mem_filterMap.mpr ⟨tlv, member, ?_⟩⟩
      unfold writeTo sectionWrite
      rw [type_]
      cases type with
      | regular | init | wowlan => rfl
      | regularUsniffer => exact absurd rfl old
  · intro write member
    obtain ⟨source, found, writes⟩ := written write member
    obtain ⟨slot, same, _⟩ := writeTo_dvm old (plain source found) writes
    exact ⟨slot, source, same⟩

/-- The same of an accepted file. -/
theorem recordExists_inst [WideShift] {file : Firmware} {fw : IwlFw} {capa : IwlUcodeCapabilities} {st : TlvState}
    {type : IwlUcodeType} (accepted : iwlParseTlvFirmware file (.start fw capa) = some (.ok st))
    (old : type ≠ .regularUsniffer) (dvm : dvmFile file fw = true) :
    RecordExists st.pieces (type, sectionInst) ↔ file.hasTlv (instTlv type) = true := by
  unfold dvmFile at dvm
  rw [Bool.and_eq_true, Bool.not_eq_true'] at dvm
  unfold RecordExists Firmware.hasTlv
  dsimp only
  rw [records_eq_fill accepted, List.length_map]
  exact sectionInst_lt_iff old dvm.2

/-! ### The accepted files -/

/-- What the callback reads exists, whatever was parsed: a version it takes, of a DVM firmware, needs the
records. -/
theorem readsExist_iff [WideShift] (debug : Bool) (cfg : IwlCfg) (memory : Memory) (stray : SecIndex → Nat)
    (st : TlvState) :
    ReadsExist debug cfg memory stray st ↔
      (apiVer st < cfg.ucodeApiMin ∨ apiVer st > cfg.ucodeApiMax) ∨ st.fw.type ≠ .dvm ∨
        (RecordExists st.pieces (.regular, sectionInst) ∧
          ((debug || regularFits cfg (sizeAt memory stray st.pieces.img)) = true →
            RecordExists st.pieces (.init, sectionInst))) := by
  unfold ReadsExist callbackReads
  by_cases refused : apiVer st < cfg.ucodeApiMin ∨ apiVer st > cfg.ucodeApiMax
  · rw [if_pos refused]
    exact iff_of_true (fun _ member => (nomatch member)) (.inl refused)
  · rw [if_neg refused, or_iff_right refused, List.forall_mem_append, and_iff_left (allocReads_exist st.pieces)]
    by_cases dvm : st.fw.type = .dvm
    · rw [if_pos dvm, or_iff_right (not_not.mpr dvm), validateReads_exist_iff]
    · rw [if_neg dvm]
      exact iff_of_true (fun _ member => (nomatch member)) (.inl dvm)

theorem sizesReadable_iff [WideShift] (debug : Bool) (cfg : IwlCfg) (memory : Memory) (stray : SecIndex → Nat)
    (file : Firmware) (fw : IwlFw) (capa : IwlUcodeCapabilities) :
    sizesReadable debug cfg memory stray file fw capa = true ↔
      ((fileAsked file fw capa).apiVer < cfg.ucodeApiMin ∨
          (fileAsked file fw capa).apiVer > cfg.ucodeApiMax) ∨
        dvmFile file fw = false ∨ (file.hasTlv .inst = true ∧
          ((debug || regularFits cfg (sizeAt memory stray (fileRecords file))) = true →
            file.hasTlv .init = true)) := by
  unfold sizesReadable versionRefused
  rw [Bool.or_eq_true, Bool.or_eq_true, decide_eq_true_iff, Bool.not_eq_true', Bool.and_eq_true, or_assoc]
  refine or_congr Iff.rfl (or_congr Iff.rfl (and_congr Iff.rfl ?_))
  rw [Bool.or_eq_true, Bool.not_eq_true', ← Bool.not_eq_true]
  exact imp_iff_not_or.symm

/-- **The accepted TLV files all of whose reads find a record.** -/
theorem tlvReads_iff [WideShift] {debug : Bool} {cfg : IwlCfg} {memory : Memory} {stray : SecIndex → Nat}
    {file : Firmware} {fw : IwlFw} {capa : IwlUcodeCapabilities} {st : TlvState}
    (accepted : iwlParseTlvFirmware file (.start fw capa) = some (.ok st)) :
    ReadsExist debug cfg memory stray st ↔ sizesReadable debug cfg memory stray file fw capa = true := by
  have asked := accepted_asked accepted
  have version : apiVer st = (fileAsked file fw capa).apiVer := by
    rw [← asked]
    rfl
  have type : st.fw.type = (fileAsked file fw capa).type := congrArg Asked.type asked
  have records : st.pieces.img = fileRecords file := funext fun type => records_eq_fill accepted type
  rw [readsExist_iff, sizesReadable_iff, version, type, records, Ne, dvmFile_iff file fw capa,
    Bool.not_eq_true]
  refine or_congr Iff.rfl (or_congr_right' fun dvm => ?_)
  have dvm := Bool.not_eq_false _ ▸ dvm
  have exists_ := fun type old => @recordExists_inst _ file fw capa st type accepted old dvm
  rw [exists_ .regular (by decide), exists_ .init (by decide)]
  rfl

/-- An accepted v1 or v2 file has all four records. -/
theorem v1v2Reads_exist [WideShift] {debug : Bool} {cfg : IwlCfg} {memory : Memory} {stray : SecIndex → Nat}
    {file : Firmware} {fw fw' : IwlFw} {pieces : IwlFirmwarePieces}
    (accepted : iwlParseV1V2Firmware file .zero fw = .ok (pieces, fw')) (st : TlvState)
    (parsed : st.pieces = pieces) : ReadsExist debug cfg memory stray st := by
  obtain ⟨_, records⟩ := iwlParseV1V2Firmware_img accepted
  have inst : ∀ type, type = .regular ∨ type = .init → RecordExists st.pieces (type, sectionInst) := by
    rintro type (rfl | rfl)
    · show _ < (st.pieces.img .regular).length
      rw [parsed, records]
      exact Nat.lt_succ_self 1
    · show _ < (st.pieces.img .init).length
      rw [parsed, records]
      exact Nat.lt_succ_self 1
  rw [readsExist_iff]
  exact .inr (.inr ⟨inst .regular (.inl rfl), fun _ => inst .init (.inr rfl)⟩)

/-- **Which accepted files have every record that is read**: every v1 or v2 file, and the TLV files whose
sizes are readable. -/
theorem sectionReads_iff [WideShift] (debug : Bool) (cfg : IwlCfg) (memory : Memory) (stray : SecIndex → Nat)
    (file : Firmware) (fw : IwlFw) (capa : IwlUcodeCapabilities) :
    (∀ st : TlvState, iwlParseTlvFirmware file (.start fw capa) = some (.ok st) →
      (ReadsExist debug cfg memory stray st ↔ sizesReadable debug cfg memory stray file fw capa = true)) ∧
    (∀ (fw' : IwlFw) (pieces : IwlFirmwarePieces), iwlParseV1V2Firmware file .zero fw = .ok (pieces, fw') →
      ReadsExist debug cfg memory stray { TlvState.start fw' capa with pieces := pieces }) :=
  ⟨fun _ accepted => tlvReads_iff accepted, fun _ _ accepted => v1v2Reads_exist accepted _ rfl⟩

theorem smallCfg_ordered : 0 ≤ 5 := by decide

/-- A driver of API versions 0 to 5, whose device takes sections of 16 bytes. -/
def smallCfg : IwlCfg := ⟨5, 0, 16, 16, 0, smallCfg_ordered⟩

/-- A TLV file with an INST TLV of both images. -/
def instInitFile : Firmware where
  data := [0, 0, 0, 0, 0x49, 0x57, 0x4c, 0x0a] ++ List.replicate 80 0 ++
    [1, 0, 0, 0, 4, 0, 0, 0, 1, 2, 3, 4] ++ [3, 0, 0, 0, 4, 0, 0, 0, 1, 2, 3, 4]
  size_lt := by
    show 112 < 2 ^ 63
    decide

section Processor

attribute [local instance] processorShift

/-- Such a file, and a v1 file. -/
theorem sectionReads_iff_instances :
    (∃ st, iwlParseTlvFirmware instInitFile (.start .zero zeroCapabilities) = some (.ok st) ∧
      ReadsExist true smallCfg .enough (fun _ => 0) st) ∧
    ∃ pieces fw, iwlParseV1V2Firmware v1File .zero .zero = .ok (pieces, fw) ∧
      ReadsExist true smallCfg .enough (fun _ => 0)
        { TlvState.start fw zeroCapabilities with pieces := pieces } :=
  ⟨⟨_, rfl, ((sectionReads_iff true smallCfg .enough (fun _ => 0) instInitFile .zero zeroCapabilities).1 _
      rfl).mpr (by decide +kernel)⟩,
    ⟨_, _, rfl, (sectionReads_iff true smallCfg .enough (fun _ => 0) v1File .zero zeroCapabilities).2 _ _ rfl⟩⟩

/-- **A file with a DATA TLV alone**: accepted with one REGULAR record, and the second one and both INIT ones
are read. -/
theorem dataOnly_reads :
    ∃ st, iwlParseTlvFirmware (oneTlvFile 2) (.start .zero zeroCapabilities) = some (.ok st) ∧
      (st.pieces.img .regular).length = 1 ∧ (st.pieces.img .init).length = 0 ∧
      callbackReads false smallCfg .enough (fun _ => 0) st =
        [(.regular, sectionInst), (.regular, sectionData), (.init, sectionInst), (.init, sectionData),
          (.regular, 0)] ∧
      ¬ ReadsExist false smallCfg .enough (fun _ => 0) st := by
  refine ⟨_, rfl, rfl, rfl, rfl, fun exist => ?_⟩
  exact Nat.lt_irrefl 1 (exist (.regular, sectionInst) List.mem_cons_self)

end Processor

end IntelWifi.Fw
