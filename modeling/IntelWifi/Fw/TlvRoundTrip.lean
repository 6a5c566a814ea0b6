/-
**The round trip of the TLV format.**

A file written from a header and well-formed TLVs is accepted, and the parser's records are what the list
means from left to right.

* `tlvFile_roundTrip`: for every list whose values the driver supports.
* `requiredLength_not_enough`: the required lengths alone do not do.
-/

import IntelWifi.Fw.TlvLaws

namespace IntelWifi.Fw

open IntelWifi.Bytes IntelWifi.Loop IntelWifi.Folds IntelWifi.Slots IntelWifi.Porting

/-- A file to be written, of a size an object can have. -/
structure TlvFile where
  header : TlvUcodeHeader
  tlvs : List WireTlv
  size_lt : (fileBytes header tlvs).length < 2 ^ 63

/-- The file. -/
def TlvFile.file (f : TlvFile) : Firmware := ⟨fileBytes f.header f.tlvs, f.size_lt⟩

/-- Its TLVs, where they lie. -/
def TlvFile.placed (f : TlvFile) : List Tlv := place tlvUcodeHeaderSize f.tlvs

/-- Its TLVs without their places. -/
def TlvFile.contents (f : TlvFile) : List TlvContent := f.tlvs.map WireTlv.content

/-- The bytes of a section record and where they go. -/
def Firmware.section (file : Firmware) (record : FwSec) : Option (Nat × List UInt8) :=
  match record.data, record.size, record.offset with
  | some data, some size, some offset => some (offset, slice file.data data size)
  | _, _, _ => none

/-- The section of an image a SEC TLV holds. -/
def sectionOf (type : IwlUcodeType) (c : TlvContent) : Option (Nat × List UInt8) :=
  if secImage c.type = some type then some (leAt c.payload 0 4, c.payload.drop 4) else none

/-- The debug configurations that are kept. -/
def keptConfs (file : Firmware) (tlvs : List Tlv) (id : Nat) : Option DbgTlv :=
  (afterFirst (fun tlv => (destOf tlv).isSome) tlvs).findSome? (confOf file id)

/-- The capability words before the clean-up. -/
def capaWords (contents : List TlvContent) (capa : IwlUcodeCapabilities) : List Word :=
  applyTlvs numIwlUcodeTlvCapa (contents.filterMap capaOf) capa.capa

/-- A kept configuration that asks for the usniffer image gets it, or `fw_has_capa` sees the unified
image. -/
def UsnifferServed [WideShift] (f : TlvFile) (capa : IwlUcodeCapabilities) : Prop :=
  AsksUsniffer f.file (keptConfs f.file f.placed) →
    (f.placed.any fun tlv => tlv.type == .secRtUsniffer) = true ∨
      testBit tlvCapaUsnifferUnified (capaWords f.contents capa) = true

/-- The records after the header. -/
def TlvFile.entry (f : TlvFile) (fw : IwlFw) (capa : IwlUcodeCapabilities) : TlvState :=
  { TlvState.start fw capa with
    fw.ucodeVer := f.header.ver
    fw.humanReadable := f.header.humanReadable
    fw.fwVersion := ucodeVersionText f.header.ver f.header.build }

/-- **The records are what the file means.** -/
structure Means (f : TlvFile) (fw : IwlFw) (capa : IwlUcodeCapabilities) (st : TlvState) : Prop where
  contents : f.placed.map f.file.content = f.contents
  ucodeVer : st.fw.ucodeVer = f.header.ver
  humanReadable : st.fw.humanReadable = f.header.humanReadable
  /-- Without INST and DATA TLVs, the sections of an image are its SEC TLVs. -/
  sections : ∀ type, (∀ c ∈ f.contents, legacyImage c.type ≠ some type) →
    (st.pieces.img type).map f.file.section = (f.contents.filterMap (sectionOf type)).map some
  /-- With them, those of INST and DATA TLVs are put in their slots. -/
  records : ∀ type, st.pieces.img type =
    (fill (sectionWrites type f.placed) []).map (slotRecord f.file)
  scalars : ∀ field : Scalar,
    field.get st = latest field.sets f.contents (field.get (f.entry fw capa))
  flags : st.capa.flags = f.contents.foldl flagsWord capa.flags
  cs : st.fw.cs = (f.contents.filterMap schemeTlv).foldl (fun cs scheme => cs.set 0 scheme) fw.cs
  api : ∀ k < 64 * capa.api.length, storedBit k st.capa.api =
    ((f.contents.filterMap apiOf).any (fun tlv => tlv.announces numIwlUcodeTlvApi k) ||
      storedBit k capa.api)
  /-- GSCAN is announced only with its TLV. -/
  capa : ∀ k < 64 * capa.capa.length, storedBit k st.capa.capa =
    (((f.contents.filterMap capaOf).any (fun tlv => tlv.announces numIwlUcodeTlvCapa k) ||
      storedBit k capa.capa) &&
    (decide (k ≠ tlvCapaGscanSupport) || f.placed.any fun tlv => tlv.type == .fwGscanCapa))
  memSegs : st.pieces.dbgMemTlv = f.contents.filterMap memSegTlv
  dest : st.pieces.dbgDestTlv = f.placed.findSome? destOf
  destRegs : ∀ length, f.placed.findSome? destLength = some length → length < dbgDestRegOps + 256 →
    st.fw.dbgDestRegNum = (length - dbgDestRegOps) / dbgRegOpSize
  confs : ∀ id, st.pieces.dbgConfTlv id = keptConfs f.file f.placed id
  triggers : ∀ id, st.pieces.dbgTriggerTlv id = f.placed.findSome? (triggerOf f.file id)

section Header

variable (f : TlvFile)

/-! ### The header -/

theorem written_drop : f.file.data.drop tlvUcodeHeaderSize = tlvBytes f.tlvs := by
  show (f.header.bytes ++ tlvBytes f.tlvs).drop tlvUcodeHeaderSize = _
  exact List.drop_left' (length_headerBytes f.header)

theorem written_size : tlvUcodeHeaderSize ≤ f.file.size := by
  show tlvUcodeHeaderSize ≤ (f.header.bytes ++ tlvBytes f.tlvs).length
  rw [List.length_append, length_headerBytes]
  exact Nat.le_add_right _ _

/-- A field of the header, behind `before`. -/
theorem headerField {before rest : List UInt8} {n value : Nat}
    (split : f.file.data = before ++ (leBytes n value ++ rest)) (fits : value < 256 ^ n) :
    leAt f.file.data before.length n = value := by
  have read := leAt_append_right before (leBytes n value ++ rest) 0 n
  rw [← split, Nat.add_zero] at read
  rw [read]
  exact leAt_leBytes fits rest

/-- The file, field by field. -/
theorem written_fields : f.file.data =
    leBytes 4 0 ++ (leBytes 4 tlvUcodeMagic ++ (f.header.humanReadable ++
      (leBytes 4 f.header.ver ++ (leBytes 4 f.header.build ++
        (leBytes 8 f.header.ignore ++ tlvBytes f.tlvs))))) := by
  show f.header.bytes ++ tlvBytes f.tlvs = _
  unfold TlvUcodeHeader.bytes
  simp only [List.append_assoc]

theorem magic_written : leAt f.file.data 4 4 = tlvUcodeMagic :=
  headerField f (written_fields f) (by decide)

theorem humanReadable_written : slice f.file.data 8 64 = f.header.humanReadable := by
  have split : f.file.data = (leBytes 4 0 ++ leBytes 4 tlvUcodeMagic) ++ (f.header.humanReadable ++
      (leBytes 4 f.header.ver ++ (leBytes 4 f.header.build ++
        (leBytes 8 f.header.ignore ++ tlvBytes f.tlvs)))) := by
    rw [written_fields, List.append_assoc]
  have skipped : f.file.data.drop 8 = f.header.humanReadable ++ _ :=
    (congrArg _ split).trans (List.drop_left' rfl)
  unfold slice
  rw [skipped]
  exact List.take_left' f.header.humanReadable_length

theorem ver_written : leAt f.file.data 72 4 = f.header.ver := by
  have split : f.file.data =
      (leBytes 4 0 ++ leBytes 4 tlvUcodeMagic ++ f.header.humanReadable) ++
        (leBytes 4 f.header.ver ++ (leBytes 4 f.header.build ++
          (leBytes 8 f.header.ignore ++ tlvBytes f.tlvs))) := by
    rw [written_fields]
    simp only [List.append_assoc]
  have field := headerField f split f.header.ver_lt
  rwa [List.length_append, f.header.humanReadable_length] at field

theorem build_written : leAt f.file.data 76 4 = f.header.build := by
  have split : f.file.data =
      (leBytes 4 0 ++ leBytes 4 tlvUcodeMagic ++ f.header.humanReadable ++ leBytes 4 f.header.ver) ++
        (leBytes 4 f.header.build ++ (leBytes 8 f.header.ignore ++ tlvBytes f.tlvs)) := by
    rw [written_fields]
    simp only [List.append_assoc]
  have field := headerField f split f.header.build_lt
  rwa [List.length_append, List.length_append, f.header.humanReadable_length, length_leBytes] at field

/-- The header is accepted. -/
theorem tlvHeader_written (fw : IwlFw) (capa : IwlUcodeCapabilities) :
    tlvHeader f.file (.start fw capa) =
      .ok (⟨tlvUcodeHeaderSize, f.file.size - tlvUcodeHeaderSize⟩, f.entry fw capa) := by
  have size := written_size f
  have bound : f.file.size < 2 ^ 63 := f.file.size_lt
  unfold tlvHeader
  rw [if_neg (Nat.not_lt.mpr size)]
  unfold tlvUcodeHeaderSize at *
  rw [Firmware.read_inside (by omega), magic_written]
  simp only [bind, Except.bind]
  rw [if_neg (not_not.mpr rfl), Firmware.read_inside (by omega), Firmware.read_inside (by omega),
    ver_written, build_written, humanReadable_written, sizeSub_of_le size (by omega)]
  rfl

end Header

/-! ### The section records -/

/-- A TLV of a file that the parser takes. -/
structure GoodTlv (file : Firmware) (tlv : Tlv) : Prop where
  inside : tlv.data + tlv.length ≤ file.size
  length : requiredLength (file.content tlv) = true
  value : supportedValue (file.content tlv) = true

theorem placed_good {file : Firmware} (rest : List WireTlv) {offset : Nat}
    (written : file.data.drop offset = tlvBytes rest)
    (wellFormed : ∀ tlv ∈ rest,
      requiredLength tlv.content = true ∧ supportedValue tlv.content = true) :
    ∀ tlv ∈ place offset rest, GoodTlv file tlv := by
  induction rest generalizing offset with
  | nil =>
    intro tlv member
    cases member
  | cons first rest ih =>
    obtain ⟨_, next, _⟩ := nextTlv_written written
    have padded := le_lnxAlign_four first.payload.length
    have content : file.content ⟨first.type, offset + tlvHeaderSize, first.payload.length⟩ =
        first.content := by
      unfold Firmware.content WireTlv.content
      rw [payload_written written]
    obtain ⟨length, value⟩ := wellFormed first List.mem_cons_self
    intro tlv member
    rcases List.mem_cons.mp member with rfl | member
    · exact ⟨by dsimp only; omega, content.symm ▸ length, content.symm ▸ value⟩
    · exact ih (drop_written written)
        (fun later found => wellFormed later (List.mem_cons_of_mem _ found)) tlv member

section Sections

variable {file : Firmware} {type : IwlUcodeType}

/-- **The records are the slots the TLVs fill.** -/
theorem interpret_img (tlvs : List Tlv) {st : TlvState} {table : List (Option Tlv)}
    (good : ∀ tlv ∈ tlvs, GoodTlv file tlv)
    (held : st.pieces.img type = table.map (slotRecord file)) :
    (interpret file tlvs st).pieces.img type =
      (fill (sectionWrites type tlvs) table).map (slotRecord file) := by
  induction tlvs generalizing st table with
  | nil => exact held
  | cons tlv rest ih =>
    obtain ⟨inside, length, value⟩ := good tlv List.mem_cons_self
    have stepped := handleTlv_img (handleTlv_after st inside length value) held
    have whole : fill (sectionWrites type (tlv :: rest)) table =
        fill (sectionWrites type rest) (fill (sectionWrites type [tlv]) table) := by
      have split : sectionWrites type (tlv :: rest) =
          sectionWrites type [tlv] ++ sectionWrites type rest :=
        @List.filterMap_append _ _ [tlv] rest _
      rw [split, fill, fill, fill, List.foldl_append]
    rw [whole]
    exact ih (fun later member => good later (List.mem_cons_of_mem _ member)) stepped

/-- The record of a SEC TLV: its first word, and the rest of its payload. -/
theorem section_stored {tlv : Tlv} (inside : tlv.data + tlv.length ≤ file.size)
    (low : 4 ≤ tlv.length) (high : tlv.length < 2 ^ 31) :
    file.section (.assigned (tlv.data + 4) (secSize tlv.length) (leAt file.data tlv.data 4)) =
      some (leAt (file.payload tlv) 0 4, (file.payload tlv).drop 4) := by
  have word : leAt (file.payload tlv) 0 4 = leAt file.data tlv.data 4 :=
    @leAt_slice file.data tlv.data tlv.length 0 4 (by omega) inside
  have bytes : (file.payload tlv).drop 4 = slice file.data (tlv.data + 4) (tlv.length - 4) := by
    unfold Firmware.payload slice
    rw [List.drop_take, List.drop_drop]
  rw [word, bytes, secSize_of_mem low high]
  rfl

/-- Apart from INST and DATA TLVs, a TLV appends its section, or writes none. -/
theorem writeTo_section {tlv : Tlv} (good : GoodTlv file tlv)
    (plain : legacyImage tlv.type ≠ some type) :
    (writeTo type tlv = none ∧ sectionOf type (file.content tlv) = none) ∨
      ∃ bytes, writeTo type tlv = some (.append tlv) ∧
        sectionOf type (file.content tlv) = some bytes ∧
        file.section (tlvRecord file tlv) = some bytes := by
  obtain ⟨inside, length, _⟩ := good
  have size := payload_length inside
  obtain ⟨tlvType, data, len⟩ := tlv
  unfold requiredLength Firmware.content at length
  dsimp only at length
  rw [size] at length
  cases tlvType with
  | inst | data | init | initData | wowlanInst | wowlanData =>
    refine .inl ⟨?_, rfl⟩
    unfold writeTo sectionWrite
    dsimp only
    exact if_neg fun same => plain (congrArg some same)
  | secRt | secInit | secWowlan | secureSecRt | secureSecInit | secureSecWowlan | secRtUsniffer =>
    simp only [Bool.and_eq_true, decide_eq_true_eq] at length
    have stored := section_stored inside length.1 length.2
    unfold writeTo sectionWrite sectionOf
    dsimp only [Firmware.content, secImage]
    split
    · next same => exact .inr ⟨_, rfl, if_pos (congrArg some same), stored⟩
    · next other => exact .inl ⟨rfl, if_neg fun same => other (Option.some.inj same)⟩
  | _ => exact .inl ⟨rfl, rfl⟩

theorem fill_sections (tlvs : List Tlv) {table : List (Option Tlv)}
    (good : ∀ tlv ∈ tlvs, GoodTlv file tlv)
    (plain : ∀ tlv ∈ tlvs, legacyImage tlv.type ≠ some type) :
    ((fill (sectionWrites type tlvs) table).map (slotRecord file)).map file.section =
      (table.map (slotRecord file)).map file.section ++
        ((tlvs.map file.content).filterMap (sectionOf type)).map some := by
  induction tlvs generalizing table with
  | nil => exact (List.append_nil _).symm
  | cons tlv rest ih =>
    have later := fun {table} => @ih table
      (fun later member => good later (List.mem_cons_of_mem _ member))
      (fun later member => plain later (List.mem_cons_of_mem _ member))
    rw [List.map_cons]
    rcases writeTo_section (good tlv List.mem_cons_self) (plain tlv List.mem_cons_self) with
      ⟨kept, none⟩ | ⟨bytes, appended, own, stored⟩
    · rw [sectionWrites, List.filterMap_cons_none kept, List.filterMap_cons_none none]
      exact later
    · have first : fill (.append tlv :: sectionWrites type rest) table =
          fill (sectionWrites type rest) (table ++ [some tlv]) := rfl
      rw [sectionWrites, List.filterMap_cons_some appended,
        List.filterMap_cons_some own, ← sectionWrites, first, later, List.map_append,
        List.map_append, List.append_assoc, List.map_cons]
      congr 1
      show file.section (tlvRecord file tlv) :: _ = _
      rw [stored]
      rfl

end Sections

/-! ### The checks after the loop -/

/-- The GSCAN bit stays only with its TLV. -/
def TlvState.withoutGscan [WideShift] (st : TlvState) : TlvState :=
  { st with
    capa.capa :=
      if fwHasCapa st.capa tlvCapaGscanSupport && !st.gscanCapa then
        clearBit tlvCapaGscanSupport st.capa.capa
      else st.capa.capa }

theorem tlvFinish_served [WideShift] {data : Nat} {st : TlvState}
    (served : st.usnifferReq = true →
      st.usnifferImages = true ∨ fwHasCapa st.capa tlvCapaUsnifferUnified = true) :
    tlvFinish ⟨data, 0⟩ st = .ok st.withoutGscan := by
  have passes : (!fwHasCapa st.capa tlvCapaUsnifferUnified && st.usnifferReq &&
      !st.usnifferImages) = false := by
    cases asked : st.usnifferReq with
    | false => simp
    | true =>
      rcases served asked with images | unified
      · simp [images]
      · simp [unified]
  unfold tlvFinish TlvState.withoutGscan
  rw [passes, if_neg Bool.false_ne_true, if_neg (not_not.mpr rfl)]
  split <;> rfl

theorem storedBit_withoutGscan [WideShift] {st : TlvState} {k : Nat} (inside : k < 64 * st.capa.capa.length) :
    storedBit k st.withoutGscan.capa.capa =
      (storedBit k st.capa.capa && (decide (k ≠ tlvCapaGscanSupport) || st.gscanCapa)) := by
  have bit : fwHasCapa st.capa tlvCapaGscanSupport = storedBit tlvCapaGscanSupport st.capa.capa :=
    (storedBit_eq_testBit (by decide) _).symm
  unfold TlvState.withoutGscan
  dsimp only
  rw [bit]
  by_cases gscan : k = tlvCapaGscanSupport
  · subst gscan
    cases announced : storedBit tlvCapaGscanSupport st.capa.capa with
    | false => simp [announced]
    | true =>
      cases told : st.gscanCapa with
      | true => simp [announced]
      | false => simp [storedBit_clearBit inside]
  · split
    · rw [storedBit_clearBit inside]
      simp [gscan]
    · simp [gscan]

/-! ### The round trip -/

section RoundTrip

variable (f : TlvFile) (fw : IwlFw) (capa : IwlUcodeCapabilities)

/-- The records after the loop. -/
def TlvFile.left : TlvState := interpret f.file f.placed (f.entry fw capa)

theorem placed_content : f.placed.map f.file.content = f.contents :=
  contents_written f.tlvs (written_drop f)

theorem left_conf (id : Nat) :
    (f.left fw capa).pieces.dbgConfTlv id = keptConfs f.file f.placed id :=
  interpret_conf f.file id f.placed rfl

theorem left_capa : (f.left fw capa).capa.capa = capaWords f.contents capa := by
  rw [← placed_content]
  exact interpret_capa f.file f.placed (f.entry fw capa)

/-- The file is accepted, and left with the GSCAN bit only with its TLV. -/
theorem parse_written [WideShift]
    (wellFormed : ∀ tlv ∈ f.tlvs,
      requiredLength tlv.content = true ∧ supportedValue tlv.content = true)
    (served : UsnifferServed f capa) :
    iwlParseTlvFirmware f.file (.start fw capa) = some (.ok (f.left fw capa).withoutGscan) := by
  have enough : f.tlvs.length < tlvFuel f.file := by
    have size : f.file.size = (f.header.bytes ++ tlvBytes f.tlvs).length := rfl
    have taken := length_le_tlvBytes f.tlvs
    rw [List.length_append] at size
    unfold tlvFuel
    omega
  have loop := run_written f.tlvs (f.entry fw capa) (written_drop f) (written_size f) wellFormed enough
  have asks : (f.left fw capa).usnifferReq = true ↔
      AsksUsniffer f.file (f.left fw capa).pieces.dbgConfTlv := by
    refine interpret_usnifferReq f.file f.placed ⟨fun raised => Bool.noConfusion raised, ?_⟩
    rintro ⟨id, conf, kept, _⟩
    have none : (none : Option DbgTlv) = some conf := kept
    cases none
  have finished : tlvFinish ⟨f.file.size, 0⟩ (f.left fw capa) = .ok (f.left fw capa).withoutGscan := by
    refine tlvFinish_served fun asked => ?_
    rw [asks, funext (left_conf f fw capa)] at asked
    rcases served asked with images | unified
    · exact .inl ((interpret_usnifferImages f.file f.placed (f.entry fw capa)).trans images)
    · refine .inr ?_
      unfold fwHasCapa
      rw [left_capa]
      exact unified
  unfold iwlParseTlvFirmware
  rw [tlvHeader_written]
  dsimp only
  rw [loop]
  exact congrArg some finished

/-- The GSCAN bit is no scalar. -/
theorem withoutGscan_scalar [WideShift] (field : Scalar) (st : TlvState) :
    field.get st.withoutGscan = field.get st := by
  cases field <;> rfl

/-- A destination has its fixed part. -/
theorem destLength_low {file : Firmware} {tlv : Tlv} {length : Nat} (good : GoodTlv file tlv)
    (dest : destLength tlv = some length) : dbgDestRegOps ≤ length := by
  obtain ⟨inside, required, _⟩ := good
  have size := payload_length inside
  unfold destLength at dest
  split at dest
  · next type =>
    obtain rfl := Option.some.inj dest
    unfold requiredLength Firmware.content at required
    rw [type] at required
    dsimp only at required
    rw [size] at required
    exact of_decide_eq_true required
  · cases dest

variable {f fw capa}

/-- **A written file is accepted, and means what its TLVs say.** -/
theorem tlvFile_roundTrip [WideShift]
    (wellFormed : ∀ tlv ∈ f.tlvs,
      requiredLength tlv.content = true ∧ supportedValue tlv.content = true)
    (served : UsnifferServed f capa) :
    ∃ st, iwlParseTlvFirmware f.file (.start fw capa) = some (.ok st) ∧ Means f fw capa st := by
  have content := placed_content f
  have good := placed_good f.tlvs (written_drop f) wellFormed
  have records : ∀ type, (f.left fw capa).pieces.img type =
      (fill (sectionWrites type f.placed) []).map (slotRecord f.file) :=
    fun type => interpret_img f.placed good rfl
  have scalars : ∀ field : Scalar, field.get (f.left fw capa) =
      latest field.sets f.contents (field.get (f.entry fw capa)) := by
    intro field
    rw [← content]
    exact interpret_scalar f.file field f.placed (f.entry fw capa)
  refine ⟨_, parse_written f fw capa wellFormed served, ?_⟩
  constructor
  case contents => exact content
  case ucodeVer => exact (scalars .ucodeVer).trans (latest_none _ _)
  case humanReadable => exact (scalars .humanReadable).trans (latest_none _ _)
  case sections =>
    intro type plain
    have plainPlaced : ∀ tlv ∈ f.placed, legacyImage tlv.type ≠ some type := by
      intro tlv member
      refine plain (f.file.content tlv) ?_
      rw [← content]
      exact List.mem_map_of_mem member
    show ((f.left fw capa).pieces.img type).map f.file.section = _
    rw [records, fill_sections f.placed good plainPlaced, content]
    rfl
  case records => exact records
  case scalars =>
    intro field
    rw [withoutGscan_scalar]
    exact scalars field
  case flags =>
    rw [← content]
    exact interpret_flags f.file f.placed (f.entry fw capa)
  case cs =>
    rw [← content]
    exact interpret_cs f.file f.placed (f.entry fw capa)
  case api =>
    intro k inside
    show storedBit k (f.left fw capa).capa.api = _
    have api := interpret_api f.file f.placed (f.entry fw capa)
    rw [content] at api
    refine (congrArg (storedBit k) api).trans ?_
    exact (storedBit_applyTlvs _ inside).1
  case capa =>
    intro k inside
    obtain ⟨bit, length⟩ :=
      @storedBit_applyTlvs numIwlUcodeTlvCapa k (f.contents.filterMap capaOf) _ inside
    have words := left_capa f fw capa
    have told : (f.left fw capa).gscanCapa = f.placed.any fun tlv => tlv.type == .fwGscanCapa :=
      interpret_gscan f.file f.placed (f.entry fw capa)
    have bound : k < 64 * (f.left fw capa).capa.capa.length := by
      rw [words, capaWords, length]
      exact inside
    rw [storedBit_withoutGscan bound, words, capaWords, bit, told]
  case memSegs =>
    rw [← content]
    exact interpret_memSegs f.file f.placed (f.entry fw capa)
  case dest => exact interpret_dest f.file f.placed (f.entry fw capa)
  case destRegs =>
    intro length first short
    have count : (f.left fw capa).fw.dbgDestRegNum = regNum length := interpret_regs f.file rfl first
    obtain ⟨tlv, member, dest⟩ := List.exists_of_findSome?_eq_some first
    have low := destLength_low (good tlv member) dest
    refine count.trans ?_
    unfold regNum
    rw [sizeSub_of_le low (by unfold dbgDestRegOps at *; omega), Nat.mod_eq_of_lt (by omega)]
  case confs => exact left_conf f fw capa
  case triggers => exact fun id => interpret_trigger f.file id f.placed (f.entry fw capa)

end RoundTrip

/-! ### Small files -/

/-- A TLV of one word. -/
def wordTlv (type : IwlUcodeTlvType) (value : Nat) : WireTlv where
  type := type
  payload := leBytes 4 value
  padding := []
  length_lt := by
    rw [length_leBytes]
    decide
  padded := by
    rw [length_leBytes]
    rfl

/-- A TLV of two words. -/
def pairTlv (type : IwlUcodeTlvType) (first second : Nat) : WireTlv where
  type := type
  payload := leBytes 4 first ++ leBytes 4 second
  padding := []
  length_lt := by
    rw [List.length_append, length_leBytes, length_leBytes]
    decide
  padded := by
    rw [List.length_append, length_leBytes, length_leBytes]
    rfl

/-- The header of version 1.2.3.4. -/
def smallHeader : TlvUcodeHeader where
  humanReadable := List.replicate 64 0
  ver := 0x01020304
  build := 0
  ignore := 0
  humanReadable_length := rfl
  ver_lt := by decide
  build_lt := by decide

/-- A section and a scalar. -/
def secFile : TlvFile where
  header := smallHeader
  tlvs := [pairTlv .secRt 0x800 0xabcd, wordTlv .probeMaxLen 200]
  size_lt := by
    show 116 < 2 ^ 63
    decide

section Processor

attribute [local instance] processorShift

theorem tlvFile_roundTrip_sec :
    ∃ st, iwlParseTlvFirmware secFile.file (.start .zero zeroCapabilities) = some (.ok st) ∧
      Means secFile .zero zeroCapabilities st := by
  refine tlvFile_roundTrip (by decide) ?_
  rintro ⟨id, conf, kept, _⟩
  have none : (none : Option DbgTlv) = some conf := kept
  cases none

/-- Three CPUs. -/
def threeCpusFile : TlvFile where
  header := smallHeader
  tlvs := [wordTlv .numOfCpu 3]
  size_lt := by
    show 100 < 2 ^ 63
    decide

/-- A debug configuration before the destination. -/
def confFirstFile : TlvFile where
  header := smallHeader
  tlvs := [wordTlv .fwDbgConf 0]
  size_lt := by
    show 100 < 2 ^ 63
    decide

/-- The GSCAN capability without its TLV. -/
def gscanBitFile : TlvFile where
  header := smallHeader
  tlvs := [pairTlv .enabledCapabilities 0 (2 ^ 31)]
  size_lt := by
    show 104 < 2 ^ 63
    decide

/-- A DATA TLV after a SEC TLV. -/
def secThenDataFile : TlvFile where
  header := smallHeader
  tlvs := [pairTlv .secRt 0x800 0xabcd, wordTlv .data 7]
  size_lt := by
    show 116 < 2 ^ 63
    decide

/-- **The lengths alone are not enough**: three CPUs are refused, and in the other files a TLV that the
list holds is not in the records. -/
theorem requiredLength_not_enough :
    (∀ f ∈ [threeCpusFile, confFirstFile, gscanBitFile, secThenDataFile], ∀ tlv ∈ f.tlvs,
      requiredLength tlv.content = true) ∧
    iwlParseTlvFirmware threeCpusFile.file (.start .zero zeroCapabilities) = some (.error .einval) ∧
    (∃ st, iwlParseTlvFirmware confFirstFile.file (.start .zero zeroCapabilities) = some (.ok st) ∧
      st.pieces.dbgConfTlv 0 = none) ∧
    (∃ st, iwlParseTlvFirmware gscanBitFile.file (.start .zero zeroCapabilities) = some (.ok st) ∧
      storedBit tlvCapaGscanSupport st.capa.capa = false) ∧
    ∃ st, iwlParseTlvFirmware secThenDataFile.file (.start .zero zeroCapabilities) = some (.ok st) ∧
      st.pieces.img .regular = [.assigned 112 4 rtcDataLowerBound] :=
  ⟨by decide, rfl, ⟨_, rfl, rfl⟩, ⟨_, rfl, rfl⟩, ⟨_, rfl, rfl⟩⟩

end Processor

end IntelWifi.Fw
