/-
**The section records an accepted file leaves behind, and what is copied from them.**

The INST and DATA TLVs of an image write its records by index, the SEC TLVs append. The records of an
accepted TLV file are the slots of `IntelWifi.Slots`, filled by the image's TLVs in file order
(`records_eq_fill`). A hole, or a SEC TLV whose length is below 4 or not an `int`, is a record that
`iwl_alloc_ucode` copies from without its being assigned or inside the file, unless a later INST or
DATA TLV overwrites it.

* `accepted_induction`: induction over the TLVs of an accepted file.
* `sectionsSound_iff`: the records are sound exactly when the file's section TLVs are mended.
-/

import IntelWifi.Lib.Checked
import IntelWifi.Lib.Slots
import IntelWifi.Fw.TlvSafety
import IntelWifi.Fw.V1V2

namespace IntelWifi.Fw

open IntelWifi.Bytes IntelWifi.Loop IntelWifi.Slots IntelWifi.Porting
open IntelWifi.Checked (bind_eq_ok)

/-! ### Publishing the sections -/

/-- Why `iwl_alloc_fw_desc` fails, or what it should not have done. -/
inductive AllocStop where
  /-- `-EINVAL` for an empty section. -/
  | einval
  /-- A member nothing assigned is used. -/
  | unassigned
  /-- `memcpy` reads outside the file. -/
  | outOfBounds
  deriving DecidableEq, Repr

/-- `struct fw_desc`. -/
structure FwDesc where
  data : List UInt8
  offset : Nat
  deriving DecidableEq

/-- A descriptor of the zeroed array. -/
def FwDesc.zero : FwDesc := ⟨[], 0⟩

/-- `iwl_alloc_fw_desc`, when `iwh_malloc` succeeds. `len` is the length of the copy. -/
def iwlAllocFwDesc (file : Firmware) (sec : FwSec) : Except AllocStop FwDesc :=
  match sec.size with
  | none => .error .unassigned
  | some size =>
    if size = 0 then .error .einval
    else
      match sec.offset, sec.data with
      | some offset, some data =>
        if Inside file.data data size then .ok ⟨slice file.data data size, offset⟩
        else .error .outOfBounds
      | _, _ => .error .unassigned

/-- The loop of `iwl_alloc_ucode`: the published array, and why it stopped, if it did. -/
def allocDescs (file : Firmware) : List FwSec → List FwDesc × Option AllocStop
  | [] => ([], none)
  | sec :: rest =>
    match iwlAllocFwDesc file sec with
    | .ok desc => (desc :: (allocDescs file rest).1, (allocDescs file rest).2)
    | .error stop => (List.replicate (rest.length + 1) .zero, some stop)

/-- `iwl_alloc_ucode`: `drv->fw.img[type]` is published before the loop fills it. -/
def iwlAllocUcode (file : Firmware) (pieces : IwlFirmwarePieces) (type : IwlUcodeType) :
    List FwDesc × Option AllocStop :=
  allocDescs file (pieces.img type)

/-! ### Sound records -/

/-- A record with its three members assigned and its bytes in the file. -/
def RecordInside (file : Firmware) (record : FwSec) : Prop :=
  ∃ data size offset, record = .assigned data size offset ∧ data + size ≤ file.size

/-- A descriptor that holds a part of the file, or nothing. -/
def DescOfFile (file : Firmware) (desc : FwDesc) : Prop :=
  ∃ start size, start + size ≤ file.size ∧ desc.data = slice file.data start size

/-- **Sound sections**: each record comes from one place of the file and lies inside it, and what is
published is copied from the file. -/
structure SectionsSound (file : Firmware) (source : FwSec → Prop) (pieces : IwlFirmwarePieces) :
    Prop where
  assigned : ∀ type, ∀ record ∈ pieces.img type, source record ∧ RecordInside file record
  copies : ∀ type, (iwlAllocUcode file pieces type).2 = none ∨
    (iwlAllocUcode file pieces type).2 = some .einval
  published : ∀ type, ∀ desc ∈ (iwlAllocUcode file pieces type).1, DescOfFile file desc

theorem iwlAllocFwDesc_inside {file : Firmware} {record : FwSec}
    (inside : RecordInside file record) :
    iwlAllocFwDesc file record = .error .einval ∨
      ∃ desc, iwlAllocFwDesc file record = .ok desc ∧ DescOfFile file desc := by
  obtain ⟨data, size, offset, rfl, bound⟩ := inside
  unfold iwlAllocFwDesc FwSec.assigned
  dsimp only
  by_cases empty : size = 0
  · exact .inl (if_pos empty)
  · refine .inr ⟨⟨slice file.data data size, offset⟩, ?_, data, size, bound, rfl⟩
    rw [if_neg empty]
    exact if_pos bound

/-- Records inside the file are copied from the file, up to an empty one. -/
theorem allocDescs_inside {file : Firmware} {records : List FwSec}
    (inside : ∀ record ∈ records, RecordInside file record) :
    ((allocDescs file records).2 = none ∨ (allocDescs file records).2 = some .einval) ∧
      ∀ desc ∈ (allocDescs file records).1, DescOfFile file desc := by
  induction records with
  | nil => exact ⟨.inl rfl, fun desc member => by cases member⟩
  | cons record rest ih =>
    obtain ⟨stops, descs⟩ := ih fun record member => inside record (List.mem_cons_of_mem _ member)
    rw [allocDescs]
    rcases iwlAllocFwDesc_inside (inside record List.mem_cons_self) with empty | ⟨desc, copied, own⟩
    · rw [empty]
      refine ⟨.inr rfl, fun desc member => ?_⟩
      rw [(List.mem_replicate.mp member).2]
      exact ⟨0, 0, Nat.zero_le _, rfl⟩
    · rw [copied]
      refine ⟨stops, fun desc' member => ?_⟩
      rcases List.mem_cons.mp member with rfl | member
      · exact own
      · exact descs desc' member

/-- Records assigned inside the file are all it takes. -/
theorem sectionsSound_of_assigned {file : Firmware} {source : FwSec → Prop}
    {pieces : IwlFirmwarePieces}
    (assigned : ∀ type, ∀ record ∈ pieces.img type, source record ∧ RecordInside file record) :
    SectionsSound file source pieces where
  assigned := assigned
  copies type := (allocDescs_inside fun record member => (assigned type record member).2).1
  published type := (allocDescs_inside fun record member => (assigned type record member).2).2

/-! ### The section TLVs of a file -/

/-- The write a TLV makes to the records of an image. -/
def sectionWrite (tlv : Tlv) : Option (IwlUcodeType × Write Tlv) :=
  match tlv.type with
  | .inst => some (.regular, .put sectionInst tlv)
  | .data => some (.regular, .put sectionData tlv)
  | .init => some (.init, .put sectionInst tlv)
  | .initData => some (.init, .put sectionData tlv)
  | .wowlanInst => some (.wowlan, .put sectionInst tlv)
  | .wowlanData => some (.wowlan, .put sectionData tlv)
  | .secRt | .secureSecRt => some (.regular, .append tlv)
  | .secInit | .secureSecInit => some (.init, .append tlv)
  | .secWowlan | .secureSecWowlan => some (.wowlan, .append tlv)
  | .secRtUsniffer => some (.regularUsniffer, .append tlv)
  | _ => none

/-- The write a TLV makes to the records of the image `type`. -/
def writeTo (type : IwlUcodeType) (tlv : Tlv) : Option (Write Tlv) :=
  match sectionWrite tlv with
  | some (image, write) => if image = type then some write else none
  | none => none

/-- The record a section TLV leaves. -/
def tlvRecord (file : Firmware) (tlv : Tlv) : FwSec :=
  match tlv.type with
  | .inst | .init | .wowlanInst => .assigned tlv.data tlv.length rtcInstLowerBound
  | .data | .initData | .wowlanData => .assigned tlv.data tlv.length rtcDataLowerBound
  | _ => .assigned (tlv.data + 4) (secSize tlv.length) (leAt file.data tlv.data 4)

/-- The record in a slot: a hole is a record nothing assigned. -/
def slotRecord (file : Firmware) : Option Tlv → FwSec
  | none => .unassigned
  | some tlv => tlvRecord file tlv

/-- A section TLV whose record is inside the file: an INST or DATA TLV, or a SEC TLV whose length
covers its offset field and is an `int`. -/
def GoodLength (tlv : Tlv) : Prop :=
  match tlv.type with
  | .inst | .init | .wowlanInst | .data | .initData | .wowlanData => True
  | _ => 4 ≤ tlv.length ∧ tlv.length < 2 ^ 31

/-- The section writes of a file to one image, in order. -/
def sectionWrites (type : IwlUcodeType) (tlvs : List Tlv) : List (Write Tlv) :=
  tlvs.filterMap (writeTo type)

/-- **The condition on a file**: in every image, a hole and a SEC TLV of bad length are overwritten
by a later INST or DATA TLV. -/
def SectionsMended (file : Firmware) : Prop :=
  ∀ type, Mended GoodLength 0 (sectionWrites type (visitedTlvs file))

/-! ### One TLV's effect on the records -/

theorem read_eq_ok {file : Firmware} {offset n value : Nat}
    (done : file.read offset n = .ok value) : value = leAt file.data offset n := by
  unfold Firmware.read at done
  split at done
  · cases done
    rfl
  · cases done

/-- Growing a record list is growing its slot table. -/
theorem allocSecData_map (file : Firmware) (sec : Nat) (table : List (Option Tlv)) :
    allocSecData sec (table.map (slotRecord file)) =
      (grow (sec + 1) table).map (slotRecord file) := by
  unfold allocSecData grow
  rw [List.length_map]
  split
  · next long =>
    rw [Nat.sub_eq_zero_of_le long, List.replicate_zero, List.append_nil]
  · rw [List.map_append, List.map_replicate]
    rfl

/-- The three member writes of an INST or DATA TLV put its record in the slot. -/
theorem setSec_map {file : Firmware} {tlv : Tlv} {offset : Nat}
    (record : tlvRecord file tlv = .assigned tlv.data tlv.length offset) (sec : Nat)
    (table : List (Option Tlv)) :
    setSecOffset sec offset (setSecSize sec tlv.length
      (setSecData sec tlv.data (table.map (slotRecord file)))) =
      ((Write.put sec tlv).apply table).map (slotRecord file) := by
  have whole : setSecOffset sec offset (setSecSize sec tlv.length
      (setSecData sec tlv.data (table.map (slotRecord file)))) =
      setSection sec tlv.data tlv.length offset (table.map (slotRecord file)) := by
    rw [setSecOffset, setSecSize, setSecData, setSecField_setSecField, setSecField_setSecField]
    rfl
  have inTable : sec < (grow (sec + 1) table).length := by
    rw [length_grow]
    omega
  rw [whole, setSection, setSecField, allocSecData_map, List.modify_eq_set_getElem? , List.getElem?_map,
    List.getElem?_eq_getElem inTable]
  show ((grow (sec + 1) table).map (slotRecord file)).set sec (.assigned _ _ _) = _
  rw [← record]
  exact (List.map_set (f := slotRecord file) (l := grow (sec + 1) table) (i := sec) (a := some tlv)).symm

/-- The append of `iwl_store_ucode_sec`. -/
theorem append_map {file : Firmware} {tlv : Tlv} {record : FwSec}
    (same : tlvRecord file tlv = record) (table : List (Option Tlv)) :
    table.map (slotRecord file) ++ [record] =
      ((Write.append tlv).apply table).map (slotRecord file) := by
  show _ = List.map (slotRecord file) (table ++ [some tlv])
  rw [List.map_append, ← same]
  rfl

/-- A TLV that keeps the image lists, or changes one of them. -/
theorem img_of_same {file : Firmware} {tlv : Tlv} {st st' : TlvState} {type : IwlUcodeType}
    {table : List (Option Tlv)} (held : st.pieces.img type = table.map (slotRecord file))
    (same : st'.pieces.img = st.pieces.img) (none : sectionWrite tlv = none) :
    st'.pieces.img type = (fill (sectionWrites type [tlv]) table).map (slotRecord file) := by
  have nothing : sectionWrites type [tlv] = [] := by
    rw [sectionWrites, List.filterMap_cons_none]
    · rfl
    · rw [writeTo, none]
  rw [same, held, nothing]
  rfl

theorem img_of_write {file : Firmware} {tlv : Tlv} {st : TlvState} {type image : IwlUcodeType}
    {table : List (Option Tlv)} {write : Write Tlv} {records : List FwSec}
    (held : st.pieces.img type = table.map (slotRecord file))
    (writes : sectionWrite tlv = some (image, write))
    (written : image = type → records = (write.apply table).map (slotRecord file)) :
    (st.withImg image records).pieces.img type =
      (fill (sectionWrites type [tlv]) table).map (slotRecord file) := by
  show Function.update st.pieces.img image records type = _
  by_cases here : image = type
  · have one : sectionWrites type [tlv] = [write] := by
      rw [sectionWrites, List.filterMap_cons_some (b := write)]
      · rfl
      · rw [writeTo, writes]
        exact if_pos here
    rw [one, ← here, Function.update_self, written here]
    rfl
  · have nothing : sectionWrites type [tlv] = [] := by
      rw [sectionWrites, List.filterMap_cons_none]
      · rfl
      · rw [writeTo, writes]
        exact if_neg here
    rw [nothing, Function.update_of_ne (Ne.symm here), held]
    rfl

/-- What a TLV leaves that stores no section: the images, and what the type of the firmware and its version are
taken from. -/
structure Leaves (st st' : TlvState) : Prop where
  img : st'.pieces.img = st.pieces.img
  type : st'.fw.type = st.fw.type
  ucodeVer : st'.fw.ucodeVer = st.fw.ucodeVer
  api : st'.capa.api = st.capa.api

/-- It leaves the other pieces too. -/
structure LeavesPieces (st st' : TlvState) : Prop extends Leaves st st' where
  pieces : st'.pieces = st.pieces

theorem LeavesPieces.refl (st : TlvState) : LeavesPieces st st := ⟨⟨rfl, rfl, rfl, rfl⟩, rfl⟩

section Effects

variable {file : Firmware} {tlv : Tlv} {st st' : TlvState}

theorem u32Tlv_ok {store : Nat → TlvState} (done : u32Tlv file tlv store = .ok st') :
    ∃ value, st' = store value := by
  obtain ⟨_, _, done⟩ := bind_eq_ok done
  obtain ⟨value, _, done⟩ := bind_eq_ok done
  cases done
  exact ⟨value, rfl⟩

theorem emptyTlv_ok (done : emptyTlv tlv st = .ok st') : st' = st := by
  obtain ⟨_, _, done⟩ := bind_eq_ok done
  cases done
  rfl

theorem iwlStoreUcodeSec_ok {type : IwlUcodeType}
    (done : iwlStoreUcodeSec file tlv type st = .ok st') :
    st' = st.withImg type (st.pieces.img type ++
      [.assigned (tlv.data + 4) (secSize tlv.length) (leAt file.data tlv.data 4)]) := by
  obtain ⟨offset, read, done⟩ := bind_eq_ok done
  cases done
  rw [read_eq_ok read]

theorem secTlv_ok {type : IwlUcodeType} (done : secTlv file tlv type st = .ok st') :
    st'.pieces = (st.withImg type (st.pieces.img type ++
      [.assigned (tlv.data + 4) (secSize tlv.length) (leAt file.data tlv.data 4)])).pieces := by
  obtain ⟨stored, appended, kept⟩ := bind_eq_ok done
  cases kept
  rw [← iwlStoreUcodeSec_ok appended]

theorem iwlSetDefaultCalib_leaves (done : iwlSetDefaultCalib file tlv st = .ok st') : LeavesPieces st st' := by
  obtain ⟨_, _, done⟩ := bind_eq_ok done
  obtain ⟨ucodeType, _, done⟩ := bind_eq_ok done
  cases known : IwlUcodeType.ofIndex ucodeType with
  | none =>
    rw [known] at done
    cases done
  | some type =>
    rw [known] at done
    obtain ⟨_, _, done⟩ := bind_eq_ok done
    obtain ⟨_, _, done⟩ := bind_eq_ok done
    cases done
    exact ⟨⟨rfl, rfl, rfl, rfl⟩, rfl⟩

theorem numOfCpuTlv_leaves (done : numOfCpuTlv file tlv st = .ok st') : LeavesPieces st st' := by
  obtain ⟨_, _, done⟩ := bind_eq_ok done
  obtain ⟨_, _, done⟩ := bind_eq_ok done
  split at done
  · cases done
    exact ⟨⟨rfl, rfl, rfl, rfl⟩, rfl⟩
  · split at done
    · cases done
    · cases done
      exact .refl st

theorem iwlStoreCscheme_leaves (done : iwlStoreCscheme file tlv st = .ok st') : LeavesPieces st st' := by
  unfold iwlStoreCscheme at done
  split at done
  · cases done
  · obtain ⟨_, _, done⟩ := bind_eq_ok done
    split at done
    · cases done
    · obtain ⟨_, _, done⟩ := bind_eq_ok done
      cases done
      exact ⟨⟨rfl, rfl, rfl, rfl⟩, rfl⟩

theorem fwVersionTlv_leaves (done : fwVersionTlv file tlv st = .ok st') : LeavesPieces st st' := by
  obtain ⟨_, _, done⟩ := bind_eq_ok done
  obtain ⟨_, _, done⟩ := bind_eq_ok done
  obtain ⟨_, _, done⟩ := bind_eq_ok done
  obtain ⟨_, _, done⟩ := bind_eq_ok done
  cases done
  exact ⟨⟨rfl, rfl, rfl, rfl⟩, rfl⟩

theorem fwDbgDestTlv_leaves (done : fwDbgDestTlv file tlv st = .ok st') : Leaves st st' := by
  unfold fwDbgDestTlv at done
  split at done
  · cases done
    exact ⟨rfl, rfl, rfl, rfl⟩
  · obtain ⟨_, _, done⟩ := bind_eq_ok done
    cases done
    exact ⟨rfl, rfl, rfl, rfl⟩

theorem fwDbgConfTlv_leaves (done : fwDbgConfTlv file tlv st = .ok st') : Leaves st st' := by
  obtain ⟨id, _, done⟩ := bind_eq_ok done
  split at done
  · cases done
    exact ⟨rfl, rfl, rfl, rfl⟩
  · split at done
    · cases done
      exact ⟨rfl, rfl, rfl, rfl⟩
    · split at done
      · cases done
        exact ⟨rfl, rfl, rfl, rfl⟩
      · obtain ⟨_, _, done⟩ := bind_eq_ok done
        cases done
        exact ⟨rfl, rfl, rfl, rfl⟩

theorem fwDbgTriggerTlv_leaves (done : fwDbgTriggerTlv file tlv st = .ok st') : Leaves st st' := by
  obtain ⟨triggerId, _, done⟩ := bind_eq_ok done
  split at done
  · cases done
    exact ⟨rfl, rfl, rfl, rfl⟩
  · split at done <;>
    · cases done
      exact ⟨rfl, rfl, rfl, rfl⟩

theorem pagingTlv_leaves (done : pagingTlv file tlv st = .ok st') : LeavesPieces st st' := by
  obtain ⟨_, _, done⟩ := bind_eq_ok done
  obtain ⟨_, _, done⟩ := bind_eq_ok done
  split at done
  · cases done
  · split at done
    · cases done
    · cases done
      exact ⟨⟨rfl, rfl, rfl, rfl⟩, rfl⟩

theorem fwGscanCapaTlv_leaves (done : fwGscanCapaTlv file tlv st = .ok st') : LeavesPieces st st' := by
  unfold fwGscanCapaTlv at done
  split at done
  · cases done
    exact .refl st
  · obtain ⟨_, _, done⟩ := bind_eq_ok done
    cases done
    exact ⟨⟨rfl, rfl, rfl, rfl⟩, rfl⟩

theorem fwMemSegTlv_leaves (done : fwMemSegTlv file tlv st = .ok st') : Leaves st st' := by
  obtain ⟨_, _, done⟩ := bind_eq_ok done
  obtain ⟨_, _, done⟩ := bind_eq_ok done
  split at done
  · obtain ⟨_, _, done⟩ := bind_eq_ok done
    obtain ⟨_, _, done⟩ := bind_eq_ok done
    cases done
    exact ⟨rfl, rfl, rfl, rfl⟩
  · cases done

theorem flagsCase_leaves {data length : Nat} (done : handleTlv file ⟨.flags, data, length⟩ st = .ok st') :
    LeavesPieces st st' := by
  simp only [handleTlv] at done
  split at done
  · cases done
  · split at done
    · cases done
    · obtain ⟨_, _, done⟩ := bind_eq_ok done
      cases done
      exact ⟨⟨rfl, rfl, rfl, rfl⟩, rfl⟩

end Effects

/-- **One handled TLV is one write to the slot table**, or none. -/
theorem handleTlv_img {file : Firmware} {tlv : Tlv} {st st' : TlvState}
    (done : handleTlv file tlv st = .ok st') {type : IwlUcodeType} {table : List (Option Tlv)}
    (held : st.pieces.img type = table.map (slotRecord file)) :
    st'.pieces.img type = (fill (sectionWrites type [tlv]) table).map (slotRecord file) := by
  obtain ⟨tlvType, data, length⟩ := tlv
  cases tlvType with
  | inst | data | init | initData | wowlanInst | wowlanData =>
    cases done
    refine img_of_write held rfl fun here => ?_
    rw [here, held]
    exact setSec_map rfl _ table
  | boot | unknown =>
    cases done
    exact img_of_same held rfl rfl
  | probeMaxLen | initEvtlogPtr | initEvtlogSize | initErrlogPtr | runtEvtlogPtr | runtEvtlogSize
  | runtErrlogPtr | phyCalibrationSize | phySku | nScanChannels | sdioAdmaAddr =>
    obtain ⟨value, rfl⟩ := u32Tlv_ok done
    exact img_of_same held rfl rfl
  | pan | enhanceSensTbl =>
    rw [emptyTlv_ok done]
    exact img_of_same held rfl rfl
  | flags => exact img_of_same held (flagsCase_leaves done).img rfl
  | apiChangesSet | enabledCapabilities =>
    obtain ⟨flags, _, done⟩ := bind_eq_ok done
    cases done
    exact img_of_same held rfl rfl
  | secRt | secInit | secWowlan | secureSecRt | secureSecInit | secureSecWowlan =>
    rw [secTlv_ok done]
    refine img_of_write held rfl fun here => ?_
    rw [here, held]
    refine append_map ?_ table
    rfl
  | secRtUsniffer =>
    rw [iwlStoreUcodeSec_ok done]
    have flagged : ({ st with usnifferImages := true } : TlvState).pieces.img type =
        table.map (slotRecord file) := held
    refine img_of_write flagged rfl fun here => ?_
    rw [here, held]
    refine append_map ?_ table
    rfl
  | defCalib => exact img_of_same held (iwlSetDefaultCalib_leaves done).img rfl
  | numOfCpu => exact img_of_same held (numOfCpuTlv_leaves done).img rfl
  | cscheme => exact img_of_same held (iwlStoreCscheme_leaves done).img rfl
  | fwVersion => exact img_of_same held (fwVersionTlv_leaves done).img rfl
  | fwDbgDest => exact img_of_same held (fwDbgDestTlv_leaves done).img rfl
  | fwDbgConf => exact img_of_same held (fwDbgConfTlv_leaves done).img rfl
  | fwDbgTrigger => exact img_of_same held (fwDbgTriggerTlv_leaves done).img rfl
  | paging => exact img_of_same held (pagingTlv_leaves done).img rfl
  | fwGscanCapa => exact img_of_same held (fwGscanCapaTlv_leaves done).img rfl
  | fwMemSeg => exact img_of_same held (fwMemSegTlv_leaves done).img rfl

/-! ### The TLVs of an accepted file -/

/-- A loop head of a parse that may still be accepted: the TLVs handled so far are the first of the
visited ones. -/
structure HandledHead (file : Firmware) (Handled : List Tlv → TlvState → Prop) (cur : Cursor)
    (st : TlvState) : Prop where
  exact : cur.Exact file
  handled : ∃ done, ∃ seen : DbgSeen, ∃ fuel, Handled done st ∧ seen.Matches st ∧ file.size - cur.data < fuel ∧
    visitedTlvs file = done ++ visitedFrom file fuel cur.data

/-- Past the end of the file no header can be read, and the counter is too large to leave. -/
def Lost (file : Firmware) (cur : Cursor) : Prop := file.size < cur.data ∧ file.size < cur.len

theorem nextTlv_lost {file : Firmware} {cur : Cursor} (lost : Lost file cur) :
    nextTlv file cur = .error .outOfBounds := by
  unfold nextTlv
  rw [Firmware.read_outside (by have := lost.1; omega)]
  rfl

/-- The loop's entry is such a head. -/
theorem HandledHead.enter {file : Firmware} {fw : IwlFw} {capa : IwlUcodeCapabilities}
    {Handled : List Tlv → TlvState → Prop} {cur : Cursor} {st : TlvState}
    (entry : tlvHeader file (.start fw capa) = .ok (cur, st)) (entered : Handled [] st) :
    HandledHead file Handled cur st := by
  obtain ⟨long, magic, rfl, pieces, _⟩ := tlvHeader_ok entry
  refine ⟨Nat.add_sub_cancel' long, [], .empty, tlvFuel file, entered, ⟨?_, fun id => ?_⟩, ?_, ?_⟩
  · rw [pieces]
    rfl
  · rw [pieces]
    rfl
  · unfold tlvFuel
    dsimp only
    omega
  · rw [visitedTlvs, if_neg (by omega)]
    rfl

/-- One more TLV is handled, or its padding runs past the end. -/
theorem HandledHead.turn {file : Firmware} {Handled : List Tlv → TlvState → Prop}
    {cur next : Cursor} {st st' : TlvState}
    (kept : ∀ done tlv st st', Handled done st → tlv.data + tlv.length ≤ file.size →
      handleTlv file tlv st = .ok st' → Handled (done ++ [tlv]) st')
    (head : HandledHead file Handled cur st) (turn : tlvTurn file (cur, st) = .again (next, st')) :
    HandledHead file Handled next st' ∨ Lost file next := by
  obtain ⟨exact, done, seen, fuel, held, matched, enough, split⟩ := head
  obtain ⟨header, tlv, read, step⟩ := tlvTurn_again turn
  have sum : cur.data + cur.len = file.size := exact
  rw [nextTlv_exact exact header] at read
  by_cases outside : file.size < (file.tlvAt cur.data).data + (file.tlvAt cur.data).length
  · rw [if_pos outside] at read
    cases read
  rw [if_neg outside] at read
  cases read
  have payload := Nat.not_lt.mp outside
  by_cases padding : (file.tlvAt cur.data).next ≤ file.size
  · obtain ⟨fuel, rfl⟩ : ∃ fuel', fuel = fuel' + 1 := ⟨fuel - 1, by omega⟩
    rw [visitedFrom_succ (by omega) payload] at split
    have moved : cur.data + tlvHeaderSize ≤ (file.tlvAt cur.data).next := Nat.le_add_right _ _
    unfold tlvHeaderSize at header moved
    -- An accepted TLV is not a rejected one.
    have handled := handleTlv_handled payload matched
    have inside :
        (file.tlvAt cur.data).data + uncheckedPart file seen (file.tlvAt cur.data) ≤ file.size := by
      by_contra far
      rw [handled.outside (Nat.not_le.mp far)] at step
      cases step
    cases rejected : rejects file (file.tlvAt cur.data) with
    | true =>
      rw [handled.rejected rejected inside] at step
      cases step
    | false =>
      obtain ⟨st'', same, matched'⟩ := handled.accepted rejected inside
      rw [step] at same
      cases same
      rw [rejected] at split
      refine .inl ⟨exact.next header padding, done ++ [file.tlvAt cur.data], _, fuel,
        kept _ _ _ _ held payload step, matched', ?_, ?_⟩
      · show file.size - (file.tlvAt cur.data).next < fuel
        omega
      · rw [split, List.append_assoc]
        rfl
  · exact .inr ⟨Nat.not_le.mp padding, counter_wraps exact header (Nat.not_le.mp padding)⟩

/-- The loop leaves normally only with fewer than 8 bytes on the counter. -/
theorem tlvTurn_leave_ok {file : Firmware} {cur cur' : Cursor} {st st' : TlvState}
    (leaves : tlvTurn file (cur, st) = .leave (.ok (cur', st'))) :
    cur.len < tlvHeaderSize ∧ cur' = cur ∧ st' = st := by
  unfold tlvTurn at leaves
  dsimp only at leaves
  split at leaves
  · next short =>
    cases leaves
    exact ⟨short, rfl, rfl⟩
  · split at leaves
    · cases leaves
    · split at leaves <;> cases leaves

/-- **Induction over the TLVs of an accepted file**, in file order. -/
theorem accepted_induction [WideShift] {file : Firmware} {fw : IwlFw} {capa : IwlUcodeCapabilities}
    {st : TlvState} (Handled : List Tlv → TlvState → Prop)
    (entered : ∀ cur st, tlvHeader file (.start fw capa) = .ok (cur, st) → Handled [] st)
    (kept : ∀ done tlv st st', Handled done st → tlv.data + tlv.length ≤ file.size →
      handleTlv file tlv st = .ok st' → Handled (done ++ [tlv]) st')
    (accepted : iwlParseTlvFirmware file (.start fw capa) = some (.ok st)) :
    ∃ left cur, Handled (visitedTlvs file) left ∧ tlvFinish cur left = .ok st := by
  unfold iwlParseTlvFirmware at accepted
  cases entry : tlvHeader file (.start fw capa) with
  | error stop =>
    rw [entry] at accepted
    cases accepted
  | ok head =>
    obtain ⟨cur₀, st₀⟩ := head
    rw [entry] at accepted
    dsimp only at accepted
    obtain ⟨result, ran, finished⟩ := Option.map_eq_some_iff.mp accepted
    cases result with
    | error stop => cases finished
    | ok left =>
      obtain ⟨cur, left⟩ := left
      obtain ⟨⟨cur', st'⟩, reached, leaves⟩ := leave_of_run ran
      obtain ⟨short, rfl, rfl⟩ := tlvTurn_leave_ok leaves
      have inv : HandledHead file Handled cur left ∨ Lost file cur := by
        refine reached.invariant
          (fun head => HandledHead file Handled head.1 head.2 ∨ Lost file head.1)
          (.inl (.enter entry (entered _ _ entry))) ?_
        rintro ⟨cur, st⟩ ⟨next, st'⟩ inv turn
        rcases inv with head | lost
        · exact head.turn kept turn
        · obtain ⟨_, tlv, read, _⟩ := tlvTurn_again turn
          rw [nextTlv_lost lost] at read
          cases read
      rcases inv with ⟨exact, done, seen, fuel, held, _, _, split⟩ | lost
      · have sum : cur.data + cur.len = file.size := exact
        have ended : visitedFrom file fuel cur.data = [] := by
          cases fuel with
          | zero => rfl
          | succ fuel =>
            rw [visitedFrom, if_pos]
            omega
        rw [ended, List.append_nil] at split
        exact ⟨left, cur, split ▸ held, finished⟩
      · obtain ⟨past, large⟩ := lost
        obtain ⟨long, _, _⟩ := tlvHeader_ok entry
        unfold tlvUcodeHeaderSize at long
        unfold tlvHeaderSize at short
        omega

/-- The checks after the loop change nothing but the CAPA words. -/
theorem tlvFinish_ok [WideShift] {cur : Cursor} {left st : TlvState} (finished : tlvFinish cur left = .ok st) :
    ∃ words, st = { left with capa.capa := words } := by
  unfold tlvFinish at finished
  split at finished
  · cases finished
  · split at finished
    · cases finished
    · split at finished <;>
      · cases finished
        exact ⟨_, rfl⟩

theorem tlvFinish_pieces [WideShift] {cur : Cursor} {left st : TlvState} (finished : tlvFinish cur left = .ok st) :
    st.pieces = left.pieces := by
  obtain ⟨words, rfl⟩ := tlvFinish_ok finished
  rfl

/-- **The records of an accepted file are the slots its TLVs fill.** -/
theorem records_eq_fill [WideShift] {file : Firmware} {fw : IwlFw} {capa : IwlUcodeCapabilities} {st : TlvState}
    (accepted : iwlParseTlvFirmware file (.start fw capa) = some (.ok st)) (type : IwlUcodeType) :
    st.pieces.img type =
      (fill (sectionWrites type (visitedTlvs file)) []).map (slotRecord file) := by
  obtain ⟨left, cur, handled, finished⟩ := accepted_induction
    (fun done st => st.pieces.img type = (fill (sectionWrites type done) []).map (slotRecord file))
    (fun cur st entry => by
      obtain ⟨_, _, _, pieces, _⟩ := tlvHeader_ok entry
      rw [pieces]
      rfl)
    (fun done tlv st st' held _ step => by
      rw [handleTlv_img step held, sectionWrites, sectionWrites, sectionWrites, List.filterMap_append,
        fill, fill, fill, List.foldl_append])
    accepted
  rw [tlvFinish_pieces finished]
  exact handled

/-! ### Which records are sound -/

/-- The payload of a visited TLV is inside the file. -/
theorem mem_visitedFrom {file : Firmware} {fuel offset : Nat} {tlv : Tlv}
    (member : tlv ∈ visitedFrom file fuel offset) :
    tlv.data + tlv.length ≤ file.size ∧ tlv.length < 2 ^ 32 := by
  induction fuel generalizing offset with
  | zero => cases member
  | succ fuel ih =>
    rw [visitedFrom] at member
    split at member
    · cases member
    · split at member
      · cases member
      · next inside =>
        rcases List.mem_cons.mp member with rfl | member
        · exact ⟨Nat.not_lt.mp inside, file.tlvAt_length_lt _⟩
        · split at member
          · cases member
          · exact ih member

theorem mem_visitedTlvs {file : Firmware} {tlv : Tlv} (member : tlv ∈ visitedTlvs file) :
    tlv.data + tlv.length ≤ file.size ∧ tlv.length < 2 ^ 32 := by
  unfold visitedTlvs at member
  split at member
  · cases member
  · exact mem_visitedFrom member

theorem recordInside_assigned {file : Firmware} {data size offset : Nat} :
    RecordInside file (.assigned data size offset) ↔ data + size ≤ file.size := by
  constructor
  · rintro ⟨data', size', offset', same, inside⟩
    cases same
    exact inside
  · exact fun inside => ⟨data, size, offset, rfl, inside⟩

/-- The record of a stored section is inside exactly when its length is good. -/
theorem storedRecord_inside {file : Firmware} {data length offset : Nat}
    (payload : data + length ≤ file.size) (word : length < 2 ^ 32) :
    RecordInside file (.assigned (data + 4) (secSize length) offset) ↔
      4 ≤ length ∧ length < 2 ^ 31 := by
  have bound : file.size < 2 ^ 63 := file.size_lt
  rw [recordInside_assigned]
  by_cases good : 4 ≤ length ∧ length < 2 ^ 31
  · rw [secSize_of_mem good.1 good.2]
    exact ⟨fun _ => good, fun _ => by omega⟩
  · have large := secSize_large word good
    exact ⟨fun inside => by omega, fun wrong => absurd wrong good⟩

theorem tlvRecord_inside {file : Firmware} {tlv : Tlv}
    (payload : tlv.data + tlv.length ≤ file.size) (word : tlv.length < 2 ^ 32) :
    RecordInside file (tlvRecord file tlv) ↔ GoodLength tlv := by
  obtain ⟨type, data, length⟩ := tlv
  cases type with
  | inst | data | init | initData | wowlanInst | wowlanData =>
    exact ⟨fun _ => trivial, fun _ => recordInside_assigned.mpr payload⟩
  | _ => exact storedRecord_inside payload word

theorem not_unassigned_inside (file : Firmware) : ¬ RecordInside file .unassigned := by
  rintro ⟨data, size, offset, same, _⟩
  cases same

theorem writeTo_record {type : IwlUcodeType} {tlv : Tlv} {write : Write Tlv}
    (writes : writeTo type tlv = some write) : write.record = tlv := by
  obtain ⟨tlvType, data, length⟩ := tlv
  unfold writeTo at writes
  cases tlvType <;> simp only [sectionWrite] at writes <;> first
    | cases writes
    | split at writes
      · cases writes
        rfl
      · cases writes

/-- A record's TLV is one of the file's. -/
theorem mem_sectionTable {file : Firmware} {type : IwlUcodeType} {tlv : Tlv}
    (member : some tlv ∈ fill (sectionWrites type (visitedTlvs file)) []) :
    tlv ∈ visitedTlvs file := by
  rcases mem_fill member with old | ⟨write, found, rfl⟩
  · cases old
  · obtain ⟨tlv, visited, writes⟩ := List.mem_filterMap.mp found
    rw [writeTo_record writes]
    exact visited

/-- The record is that of a TLV of the file. -/
def FromTlv (file : Firmware) (record : FwSec) : Prop :=
  ∃ tlv ∈ visitedTlvs file, record = tlvRecord file tlv

/-- The slots hold good TLVs exactly when the records are assigned inside the file. -/
theorem slots_good_iff (file : Firmware) (type : IwlUcodeType) :
    AllGood GoodLength (fill (sectionWrites type (visitedTlvs file)) []) ↔
      ∀ record ∈ (fill (sectionWrites type (visitedTlvs file)) []).map (slotRecord file),
        FromTlv file record ∧ RecordInside file record := by
  rw [allGood_iff_mem]
  constructor
  · intro good record member
    obtain ⟨entry, slot, rfl⟩ := List.mem_map.mp member
    obtain ⟨tlv, rfl, length⟩ := good entry slot
    have visited := mem_sectionTable slot
    obtain ⟨payload, word⟩ := mem_visitedTlvs visited
    exact ⟨⟨tlv, visited, rfl⟩, (tlvRecord_inside payload word).mpr length⟩
  · intro inside entry slot
    cases entry with
    | none => exact absurd (inside _ (List.mem_map_of_mem slot)).2 (not_unassigned_inside file)
    | some tlv =>
      obtain ⟨payload, word⟩ := mem_visitedTlvs (mem_sectionTable slot)
      exact ⟨tlv, rfl, (tlvRecord_inside payload word).mp (inside _ (List.mem_map_of_mem slot)).2⟩

/-- **The sections of an accepted TLV file are sound exactly when they are mended.** -/
theorem tlvSections_iff [WideShift] {file : Firmware} {fw : IwlFw} {capa : IwlUcodeCapabilities} {st : TlvState}
    (accepted : iwlParseTlvFirmware file (.start fw capa) = some (.ok st)) :
    SectionsSound file (FromTlv file) st.pieces ↔ SectionsMended file := by
  have perImage : ∀ type, (∀ record ∈ st.pieces.img type,
      FromTlv file record ∧ RecordInside file record) ↔
        Mended GoodLength 0 (sectionWrites type (visitedTlvs file)) := fun type => by
    rw [records_eq_fill accepted type, ← slots_good_iff, fill_all_iff]
  constructor
  · exact fun sound type => (perImage type).mp (sound.assigned type)
  · exact fun mended => sectionsSound_of_assigned fun type => (perImage type).mpr (mended type)

/-- The sections of an accepted v1 or v2 file are sound. -/
theorem v1v2Sections_sound {file : Firmware} {fw fw' : IwlFw} {pieces : IwlFirmwarePieces}
    (accepted : iwlParseV1V2Firmware file .zero fw = .ok (pieces, fw')) :
    SectionsSound file (fun record => ∃ type, record ∈ headerRecords file type) pieces := by
  obtain ⟨sizes, records⟩ := iwlParseV1V2Firmware_img accepted
  refine sectionsSound_of_assigned fun type record member => ?_
  rw [records type] at member
  exact ⟨⟨type, member⟩, headerRecords_inside sizes type record member⟩

/-- **Which accepted files have sound sections**: every v1 or v2 file, and the TLV files whose holes
and badly sized SEC sections are overwritten. -/
theorem sectionsSound_iff [WideShift] (file : Firmware) (fw : IwlFw) :
    (∀ (capa : IwlUcodeCapabilities) (st : TlvState),
      iwlParseTlvFirmware file (.start fw capa) = some (.ok st) →
        (SectionsSound file (FromTlv file) st.pieces ↔ SectionsMended file)) ∧
    (∀ (fw' : IwlFw) (pieces : IwlFirmwarePieces),
      iwlParseV1V2Firmware file .zero fw = .ok (pieces, fw') →
        SectionsSound file (fun record => ∃ type, record ∈ headerRecords file type) pieces) :=
  ⟨fun _ _ accepted => tlvSections_iff accepted, fun _ _ accepted => v1v2Sections_sound accepted⟩

/-- A TLV file with one TLV of 4 bytes. -/
def oneTlvFile (type : UInt8) : Firmware where
  data := [0, 0, 0, 0, 0x49, 0x57, 0x4c, 0x0a] ++ List.replicate 80 0 ++
    [type, 0, 0, 0, 4, 0, 0, 0, 1, 2, 3, 4]
  size_lt := by
    show 100 < 2 ^ 63
    decide

/-- A v1 file whose only section is 4 bytes of REGULAR INST. -/
def v1File : Firmware where
  data := [1, 0, 0, 0, 4, 0, 0, 0] ++ List.replicate 16 0 ++ [1, 2, 3, 4]
  size_lt := by decide

section Processor

attribute [local instance] processorShift

/-- A file with a DATA TLV, and a v1 file. -/
theorem sectionsSound_iff_instances :
    (∃ st, iwlParseTlvFirmware (oneTlvFile 2) (.start .zero zeroCapabilities) = some (.ok st) ∧
      SectionsSound (oneTlvFile 2) (FromTlv (oneTlvFile 2)) st.pieces) ∧
    ∃ pieces fw, iwlParseV1V2Firmware v1File .zero .zero = .ok (pieces, fw) ∧
      SectionsSound v1File (fun record => ∃ type, record ∈ headerRecords v1File type) pieces := by
  have mended : SectionsMended (oneTlvFile 2) := by
    intro type
    cases type with
    | regular => exact ⟨.inl trivial, fun hole _ below => absurd below (Nat.not_lt_zero hole), trivial⟩
    | init | wowlan | regularUsniffer => exact trivial
  exact ⟨⟨_, rfl, ((sectionsSound_iff (oneTlvFile 2) .zero).1 zeroCapabilities _ rfl).mpr mended⟩,
    ⟨_, _, rfl, (sectionsSound_iff v1File .zero).2 _ _ rfl⟩⟩

/-- **A file with an INST TLV alone**: accepted, and its record 0 is never assigned, so
`iwl_alloc_ucode` asks `iwh_malloc` for an arbitrary size and copies from an arbitrary address. -/
theorem instOnly_unassigned :
    ∃ st, iwlParseTlvFirmware (oneTlvFile 1) (.start .zero zeroCapabilities) = some (.ok st) ∧
      st.pieces.img .regular = [.unassigned, .assigned 96 4 rtcInstLowerBound] ∧
      (iwlAllocUcode (oneTlvFile 1) st.pieces .regular).2 = some .unassigned ∧
      ¬ SectionsSound (oneTlvFile 1) (FromTlv (oneTlvFile 1)) st.pieces := by
  refine ⟨_, rfl, rfl, rfl, fun sound => ?_⟩
  exact not_unassigned_inside _ (sound.assigned .regular .unassigned List.mem_cons_self).2

end Processor

end IntelWifi.Fw
