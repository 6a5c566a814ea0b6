/-
**The external NVM file.**

`iwl_read_external_nvm` reads sections out of a file: two words that give an id and a length, then the bytes. Two zero
words end the file. The sections come in any order, and one id may come again.

* `sectionFormat`: how a section is written. Every file is a list of sections and a rest that starts with none.
* `iwlReadExternalNvm_meaning`: the function stores the sections up to the rest and returns what the rest says, or it
  stops at the first copy that there is no memory for; it reads nothing outside of the file.
* `iwlReadExternalNvm_written`: a file that was written from sections is accepted, and then each id has the last
  section with it.
-/

import IntelWifi.Lib.Bytes
import IntelWifi.Lib.Checked
import IntelWifi.Lib.Folds
import IntelWifi.Lib.Framing
import IntelWifi.NvmParse.Channels
import Mathlib.Logic.Function.Basic

namespace IntelWifi.NvmParse

open Bytes Checked Folds Framing Loop

/-! ### Sections -/

/-- `NVM_MAX_NUM_SECTIONS`. -/
def nvmMaxNumSections : Nat := 13
/-- `NVM_SECTION_TYPE_PHY_SKU`. -/
def nvmSectionTypePhySku : Nat := 12
/-- `MAX_NVM_FILE_LEN`. -/
def maxNvmFileLen : Nat := 16384
/-- `NVM_HEADER_SIZE`. -/
def nvmHeaderSize : Nat := 16
/-- `NVM_HEADER_0`. -/
def nvmHeader0 : Nat := 0x2A504C54
/-- `NVM_HEADER_1`. -/
def nvmHeader1 : Nat := 0x4E564D2A
/-- `IWL_4165_DEVICE_ID`. -/
def iwl4165DeviceId : Nat := 0x5501
/-- `NVM_SKU_CAP_MIMO_DISABLE`. -/
def nvmSkuCapMimoDisable : UInt8 := (1 : UInt8) <<< 5
/-- `ANT_B`. -/
def antB : UInt8 := 2

/-- `IWL_MAX_NVM_SECTION_SIZE`, and `IWL_MAX_EXT_NVM_SECTION_SIZE`. -/
def IwlNvmType.maxSectionSize : IwlNvmType → Nat
  | .ext => 0x1ffc
  | .nvm | .sdp => 0x1b58

/-- `2 * NVM_WORD1_LEN`, and `2 * EXT_NVM_WORD2_LEN`. -/
def IwlNvmType.sectionSize : IwlNvmType → Nat → Nat → Nat
  | .ext, _, word2 => 2 * (2 * ((word2 &&& 0xFF) <<< 8 ||| word2 >>> 8))
  | .nvm, word1, _ | .sdp, word1, _ => 2 * (8 * (word1 &&& 0x03FF))

/-- `NVM_WORD2_ID`, and `EXT_NVM_WORD1_ID`. -/
def IwlNvmType.sectionId : IwlNvmType → Nat → Nat → Nat
  | .ext, word1, _ => word1 >>> 4
  | .nvm, _, word2 | .sdp, _, word2 => word2 >>> 12

/-- `struct iwl_nvm_section`. Without data there is no pointer. -/
structure IwlNvmSection where
  length : Nat
  data : Option (List UInt8)
  deriving DecidableEq, Repr

/-- `nvm_sections`. -/
abbrev NvmSections := Fin nvmMaxNumSections → IwlNvmSection

/-- Why the function returns: 0 is one of the reasons. -/
inductive NvmFileRet where
  | zero
  | einval
  | efault
  | enomem
  /-- What `request_firmware` returned. -/
  | noFirmware (ret : Int)
  deriving DecidableEq, Repr

/-- What the function reads of `iwl_trans`. -/
structure NvmNic where
  nvmType : IwlNvmType
  /-- `device_family == IWL_DEVICE_FAMILY_8000`. -/
  family8000 : Bool
  hwRev : BitVec 32
  hwId : Nat

/-- `iwl_nvm_fixups`. -/
def iwlNvmFixups (hwId sectionId : Nat) (data : List UInt8) : List UInt8 :=
  if sectionId = nvmSectionTypePhySku ∧ hwId = iwl4165DeviceId ∧ 5 ≤ data.length ∧
      data.getD 4 0 &&& nvmSkuCapMimoDisable ≠ 0 then
    data.set 3 (antB ||| antB <<< 4)
  else data

/-! ### The function -/

/-- The variables of the loop: where `file_sec` is, how many copies were made, and the sections. -/
structure NvmReader where
  pos : Nat
  copies : Nat
  sections : NvmSections

/-- A field of the file. -/
def field (file : List UInt8) (offset n : Nat) : Outcome NvmFileRet Nat :=
  if Inside file offset n then .ok (leAt file offset n) else .error .fault

/-- The bytes that `kmemdup` copies. -/
def kmemdup (file : List UInt8) (memory : Bool) (offset n : Nat) : Outcome NvmFileRet (List UInt8) :=
  if !memory then .error (.error .enomem)
  else if Inside file offset n then .ok (slice file offset n) else .error .fault

/-- Where the sections start. -/
def nvmFileStart (nic : NvmNic) (file : List UInt8) : Outcome NvmFileRet Nat :=
  if nvmHeaderSize < file.length then do
    let dword0 ← field file 0 4
    let dword1 ← field file 4 4
    if dword0 = nvmHeader0 ∧ dword1 = nvmHeader1 then do
      let dword2 ← field file 8 4
      -- the step of the NIC: C is 2
      if nic.family8000 ∧ (nic.hwRev &&& 0x000000C) >>> 2 = 2 ∧ dword2 < 0xE4A then .error (.error .efault)
      else .ok nvmHeaderSize
    else .ok 0
  else .ok 0

/-- The body of the loop, up to the next section. -/
def nvmFileSection (nic : NvmNic) (file : List UInt8) (memory : Nat → Bool) (st : NvmReader) :
    Outcome NvmFileRet NvmReader :=
  if file.length < st.pos + 4 then .error (.error .einval)
  else do
    let word1 ← field file st.pos 2
    let word2 ← field file (st.pos + 2) 2
    if word1 = 0 ∧ word2 = 0 then .error (.error .zero)
    else
      let sectionSize := nic.nvmType.sectionSize word1 word2
      let sectionId := nic.nvmType.sectionId word1 word2
      if nic.nvmType.maxSectionSize < sectionSize then .error (.error .einval)
      else if sectionSize = 0 then .error (.error .einval)
      else if file.length < st.pos + 4 + sectionSize then .error (.error .einval)
      else if known : sectionId < nvmMaxNumSections then do
        let temp ← kmemdup file (memory st.copies) (st.pos + 4) sectionSize
        let temp := iwlNvmFixups nic.hwId sectionId temp
        .ok ⟨st.pos + 4 + sectionSize, st.copies + 1,
          Function.update st.sections ⟨sectionId, known⟩ ⟨sectionSize, some temp⟩⟩
      else .error (.error .einval)

def nvmFileTurn (nic : NvmNic) (file : List UInt8) (memory : Nat → Bool) (st : NvmReader) :
    Turn NvmReader (Stop NvmFileRet × NvmSections) :=
  match nvmFileSection nic file memory st with
  | .ok next => .again next
  | .error stop => .leave (stop, st.sections)

/-- `iwl_read_external_nvm`: what it returns, or its fault, and what is in `nvm_sections` then. `fwEntry` is what
`request_firmware` gives, and `memory` says which copies there is memory for. -/
def iwlReadExternalNvm (fuel : Nat) (nic : NvmNic) (fwEntry : Except Int (List UInt8)) (memory : Nat → Bool)
    (sections : NvmSections) : Option (Stop NvmFileRet × NvmSections) :=
  match fwEntry with
  | .error ret => some (.error (.noFirmware ret), sections)
  | .ok file =>
    if maxNvmFileLen < file.length then some (.error .einval, sections)
    else
      match nvmFileStart nic file with
      | .error stop => some (stop, sections)
      | .ok start => run (nvmFileTurn nic file memory) fuel ⟨start, 0, sections⟩

/-! ### The format of a section -/

/-- A section of a file. -/
structure FileSection (type : IwlNvmType) where
  word1 : Nat
  word2 : Nat
  data : List UInt8
  word1_lt : word1 < 256 ^ 2
  word2_lt : word2 < 256 ^ 2
  /-- It is not the end of the file. -/
  marked : ¬ (word1 = 0 ∧ word2 = 0)
  length_data : data.length = type.sectionSize word1 word2
  fits : type.sectionSize word1 word2 ≤ type.maxSectionSize
  some_data : type.sectionSize word1 word2 ≠ 0
  known : type.sectionId word1 word2 < nvmMaxNumSections

variable {type : IwlNvmType}

def FileSection.id (sec : FileSection type) : Fin nvmMaxNumSections := ⟨type.sectionId sec.word1 sec.word2, sec.known⟩

def FileSection.bytes (sec : FileSection type) : List UInt8 := leBytes 2 sec.word1 ++ leBytes 2 sec.word2 ++ sec.data

/-- A string starts with a section. -/
structure Starts (type : IwlNvmType) (bytes : List UInt8) : Prop where
  words : 4 ≤ bytes.length
  marked : ¬ (leAt bytes 0 2 = 0 ∧ leAt bytes 2 2 = 0)
  fits : type.sectionSize (leAt bytes 0 2) (leAt bytes 2 2) ≤ type.maxSectionSize
  some_data : type.sectionSize (leAt bytes 0 2) (leAt bytes 2 2) ≠ 0
  inside : 4 + type.sectionSize (leAt bytes 0 2) (leAt bytes 2 2) ≤ bytes.length
  known : type.sectionId (leAt bytes 0 2) (leAt bytes 2 2) < nvmMaxNumSections

theorem starts_iff {bytes : List UInt8} : Starts type bytes ↔
    4 ≤ bytes.length ∧ ¬ (leAt bytes 0 2 = 0 ∧ leAt bytes 2 2 = 0) ∧
      type.sectionSize (leAt bytes 0 2) (leAt bytes 2 2) ≤ type.maxSectionSize ∧
      type.sectionSize (leAt bytes 0 2) (leAt bytes 2 2) ≠ 0 ∧
      4 + type.sectionSize (leAt bytes 0 2) (leAt bytes 2 2) ≤ bytes.length ∧
      type.sectionId (leAt bytes 0 2) (leAt bytes 2 2) < nvmMaxNumSections :=
  ⟨fun ⟨a, b, c, d, e, f⟩ => ⟨a, b, c, d, e, f⟩, fun ⟨a, b, c, d, e, f⟩ => ⟨a, b, c, d, e, f⟩⟩

instance (bytes : List UInt8) : Decidable (Starts type bytes) := decidable_of_iff' _ starts_iff

/-- The section that a string starts with. -/
def Starts.section {bytes : List UInt8} (starts : Starts type bytes) : FileSection type where
  word1 := leAt bytes 0 2
  word2 := leAt bytes 2 2
  data := slice bytes 4 (type.sectionSize (leAt bytes 0 2) (leAt bytes 2 2))
  word1_lt := leAt_lt bytes 0 2
  word2_lt := leAt_lt bytes 2 2
  marked := starts.marked
  length_data := length_slice starts.inside
  fits := starts.fits
  some_data := starts.some_data
  known := starts.known

def nextSection (bytes : List UInt8) : Option (FileSection type × List UInt8) :=
  if starts : Starts type bytes then
    some (starts.section, bytes.drop (4 + type.sectionSize (leAt bytes 0 2) (leAt bytes 2 2)))
  else none

/-! ### Written sections are read -/

section Written

variable (sec : FileSection type) (rest : List UInt8)

theorem length_bytes : sec.bytes.length = 4 + type.sectionSize sec.word1 sec.word2 := by
  unfold FileSection.bytes
  rw [List.length_append, List.length_append, length_leBytes, length_leBytes, sec.length_data]

theorem word1_written : leAt (sec.bytes ++ rest) 0 2 = sec.word1 := by
  unfold FileSection.bytes
  rw [List.append_assoc, List.append_assoc]
  exact leAt_leBytes sec.word1_lt _

theorem word2_written : leAt (sec.bytes ++ rest) 2 2 = sec.word2 := by
  unfold FileSection.bytes
  rw [List.append_assoc, List.append_assoc]
  have past := leAt_append_right (leBytes 2 sec.word1) (leBytes 2 sec.word2 ++ (sec.data ++ rest)) 0 2
  rw [length_leBytes, Nat.add_zero] at past
  rw [past]
  exact leAt_leBytes sec.word2_lt _

theorem starts_written : Starts type (sec.bytes ++ rest) := by
  rw [starts_iff, word1_written, word2_written, List.length_append, length_bytes]
  exact ⟨by omega, sec.marked, sec.fits, sec.some_data, by omega, sec.known⟩

theorem nextSection_written : nextSection (sec.bytes ++ rest) = some (sec, rest) := by
  have past : (sec.bytes ++ rest).drop (4 + type.sectionSize sec.word1 sec.word2) = rest :=
    List.drop_left' (length_bytes sec)
  have data : slice (sec.bytes ++ rest) 4 (type.sectionSize sec.word1 sec.word2) = sec.data := by
    unfold slice FileSection.bytes
    rw [List.append_assoc, List.drop_left' (by rw [List.length_append, length_leBytes, length_leBytes])]
    exact List.take_left' sec.length_data
  unfold nextSection
  rw [dif_pos (starts_written sec rest), word1_written, word2_written, past]
  have same : (starts_written sec rest).section = sec := by
    unfold Starts.section
    simp only [word1_written, word2_written, data]
  rw [same]

end Written

/-- What was read is what is there. -/
theorem bytes_section {bytes : List UInt8} (starts : Starts type bytes) :
    starts.section.bytes ++ bytes.drop (4 + type.sectionSize (leAt bytes 0 2) (leAt bytes 2 2)) = bytes := by
  have words : leBytes 2 (leAt bytes 0 2) ++ leBytes 2 (leAt bytes 2 2) = bytes.take 4 := by
    rw [leBytes_leAt (show Inside bytes 0 2 from by have := starts.words; unfold Inside; omega),
      leBytes_leAt (show Inside bytes 2 2 from by have := starts.words; unfold Inside; omega)]
    unfold slice
    rw [List.drop_zero, ← List.take_add]
  unfold FileSection.bytes Starts.section slice
  dsimp only
  rw [words, List.append_assoc, ← List.drop_drop, List.take_append_drop, List.take_append_drop]

/-- **The format of sections.** -/
def sectionFormat (type : IwlNvmType) : Format UInt8 (FileSection type) where
  encode := FileSection.bytes
  next := nextSection
  next_eq_some_iff := by
    intro bytes sec rest
    constructor
    · intro first
      unfold nextSection at first
      split at first
      · next starts =>
        obtain ⟨rfl, rfl⟩ := Prod.mk.inj (Option.some.inj first)
        exact (bytes_section starts).symm
      · cases first
    · rintro rfl
      exact nextSection_written sec rest
  encode_ne_nil := by
    intro sec none
    have length := length_bytes sec
    rw [none, List.length_nil] at length
    omega

/-! ### The loop goes over the sections -/

section Reader

variable {nic : NvmNic} {file : List UInt8} {memory : Nat → Bool} {st : NvmReader}

/-- A section goes to its place in the table. -/
def store (hwId : Nat) (sections : NvmSections) (sec : FileSection type) : NvmSections :=
  Function.update sections sec.id ⟨sec.data.length, some (iwlNvmFixups hwId sec.id sec.data)⟩

/-- What a turn makes of a section. -/
def absorb (nic : NvmNic) (memory : Nat → Bool) (st : NvmReader) (sec : FileSection nic.nvmType) :
    Except (Stop NvmFileRet × NvmSections) NvmReader :=
  if memory st.copies then .ok ⟨st.pos + 4 + sec.data.length, st.copies + 1, store nic.hwId st.sections sec⟩
  else .error (.error .enomem, st.sections)

/-- What the function returns at a rest that no section starts. -/
def restRet (rest : List UInt8) : NvmFileRet :=
  if 4 ≤ rest.length ∧ leAt rest 0 2 = 0 ∧ leAt rest 2 2 = 0 then .zero else .einval

theorem field_ok {offset n : Nat} (inside : offset + n ≤ file.length) : field file offset n = .ok (leAt file offset n) :=
  if_pos inside

theorem words_drop (file : List UInt8) (pos : Nat) :
    leAt (file.drop pos) 0 2 = leAt file pos 2 ∧ leAt (file.drop pos) 2 2 = leAt file (pos + 2) 2 :=
  ⟨leAt_drop file pos 0 2, leAt_drop file pos 2 2⟩

/-- The next section is taken. -/
theorem nvmFileTurn_starts (starts : Starts nic.nvmType (file.drop st.pos)) :
    (∃ result, absorb nic memory st starts.section = .error result ∧ nvmFileTurn nic file memory st = .leave result) ∨
    ∃ st', absorb nic memory st starts.section = .ok st' ∧ nvmFileTurn nic file memory st = .again st' ∧
      st'.pos ≤ file.length ∧ st'.pos = st.pos + (4 + nic.nvmType.sectionSize (leAt (file.drop st.pos) 0 2)
        (leAt (file.drop st.pos) 2 2)) := by
  obtain ⟨first, second⟩ := words_drop file st.pos
  obtain ⟨words, marked, fits, some_data, inside, known⟩ := starts_iff.mp starts
  have length : starts.section.data.length = nic.nvmType.sectionSize (leAt file st.pos 2) (leAt file (st.pos + 2) 2) := by
    rw [starts.section.length_data, ← first, ← second]
    rfl
  have data : slice file (st.pos + 4) (nic.nvmType.sectionSize (leAt file st.pos 2) (leAt file (st.pos + 2) 2)) =
      starts.section.data := by
    have is : starts.section.data = slice (file.drop st.pos) 4
        (nic.nvmType.sectionSize (leAt (file.drop st.pos) 0 2) (leAt (file.drop st.pos) 2 2)) := rfl
    rw [is, first, second]
    unfold slice
    rw [List.drop_drop]
  have id : starts.section.id.val = nic.nvmType.sectionId (leAt file st.pos 2) (leAt file (st.pos + 2) 2) := by
    rw [← first, ← second]
    rfl
  rw [List.length_drop] at words inside
  rw [first, second] at marked fits some_data inside known ⊢
  have here : nvmFileSection nic file memory st =
      if memory st.copies then .ok ⟨st.pos + 4 + starts.section.data.length, st.copies + 1,
        store nic.hwId st.sections starts.section⟩
      else .error (.error .enomem) := by
    unfold nvmFileSection
    rw [if_neg (by omega), field_ok (by omega), ok_bind, field_ok (by omega), ok_bind, if_neg marked]
    dsimp only
    rw [if_neg (by omega), if_neg some_data, if_neg (by omega), dif_pos known]
    unfold kmemdup store
    cases memory st.copies with
    | false => rfl
    | true =>
      have bytes : Inside file (st.pos + 4) (nic.nvmType.sectionSize (leAt file st.pos 2) (leAt file (st.pos + 2) 2)) := by
        unfold Inside
        omega
      rw [Bool.not_true, if_neg Bool.false_ne_true, if_pos bytes, ok_bind, if_pos rfl, data, length]
      have place : (⟨_, known⟩ : Fin nvmMaxNumSections) = starts.section.id := Fin.ext id.symm
      rw [place, ← id]
  unfold nvmFileTurn absorb
  rw [here]
  cases memory st.copies with
  | false => exact .inl ⟨_, rfl, rfl⟩
  | true => exact .inr ⟨_, rfl, rfl, by dsimp only; omega, by dsimp only; omega⟩

/-- Without one the loop is left. -/
theorem nvmFileTurn_ends (inside : st.pos ≤ file.length) (none : ¬ Starts nic.nvmType (file.drop st.pos)) :
    nvmFileTurn nic file memory st = .leave (.error (restRet (file.drop st.pos)), st.sections) := by
  obtain ⟨first, second⟩ := words_drop file st.pos
  rw [starts_iff, first, second, List.length_drop] at none
  have ret : restRet (file.drop st.pos) =
      if 4 ≤ file.length - st.pos ∧ leAt file st.pos 2 = 0 ∧ leAt file (st.pos + 2) 2 = 0 then .zero else .einval := by
    unfold restRet
    rw [first, second, List.length_drop]
  have here : nvmFileSection nic file memory st = .error (.error (restRet (file.drop st.pos))) := by
    unfold nvmFileSection
    by_cases short : file.length < st.pos + 4
    · rw [if_pos short, ret, if_neg (by omega)]
    rw [if_neg short, field_ok (by omega), ok_bind, field_ok (by omega), ok_bind]
    by_cases marker : leAt file st.pos 2 = 0 ∧ leAt file (st.pos + 2) 2 = 0
    · rw [if_pos marker, ret, if_pos ⟨by omega, marker⟩]
    rw [if_neg fun both => marker both.2] at ret
    rw [if_neg marker, ret]
    dsimp only
    by_cases large : nic.nvmType.maxSectionSize < nic.nvmType.sectionSize (leAt file st.pos 2) (leAt file (st.pos + 2) 2)
    · rw [if_pos large]
    by_cases empty : nic.nvmType.sectionSize (leAt file st.pos 2) (leAt file (st.pos + 2) 2) = 0
    · rw [if_neg large, if_pos empty]
    by_cases past : file.length <
        st.pos + 4 + nic.nvmType.sectionSize (leAt file st.pos 2) (leAt file (st.pos + 2) 2)
    · rw [if_neg large, if_neg empty, if_pos past]
    · rw [if_neg large, if_neg empty, if_neg past, dif_neg]
      intro known
      exact none ⟨by omega, marker, by omega, empty, by omega, known⟩
  unfold nvmFileTurn
  rw [here]

/-- **The loop is a fold over the sections**: it reads inside the file, and it ends. -/
theorem run_nvmFileTurn {secs : List (FileSection nic.nvmType)} {rest : List UInt8} (inside : st.pos ≤ file.length)
    (reads : Reads (sectionFormat nic.nvmType) (file.drop st.pos) secs rest) {fuel : Nat} (enough : secs.length < fuel) :
    run (nvmFileTurn nic file memory) fuel st = some
      (result (fun st' => (Stop.error (restRet (file.drop st'.pos)), st'.sections))
        (secs.foldlM (absorb nic memory) st)) := by
  refine run_reads (fun st : NvmReader => st.pos ≤ file.length) (fun st => file.drop st.pos)
    (fun st => (Stop.error (restRet (file.drop st.pos)), st.sections)) ?_ ?_ inside reads enough
  · intro st sec rest inside first
    have starts : Starts nic.nvmType (file.drop st.pos) := by
      by_contra not
      have none : (nextSection (file.drop st.pos) : Option (FileSection nic.nvmType × List UInt8)) = none := dif_neg not
      exact absurd (first.symm.trans none) (Option.some_ne_none _)
    have taken : nextSection (file.drop st.pos) = some (starts.section, _) := dif_pos starts
    obtain ⟨rfl, rfl⟩ := Prod.mk.inj (Option.some.inj (taken.symm.trans first))
    rcases @nvmFileTurn_starts _ _ memory _ starts with refused | ⟨st', absorbed, again, inside', pos⟩
    · exact .inl refused
    · refine .inr ⟨st', absorbed, again, inside', ?_⟩
      rw [pos, ← List.drop_drop]
  · intro st inside first
    refine nvmFileTurn_ends inside fun starts => ?_
    have taken : nextSection (file.drop st.pos) = some (starts.section, _) := dif_pos starts
    exact absurd (taken.symm.trans first) (Option.some_ne_none _)

/-- With memory for every copy all sections are stored, and the loop stands at the rest. -/
theorem foldlM_granted {secs : List (FileSection nic.nvmType)} (granted : ∀ i < secs.length, memory (st.copies + i) = true) :
    ∃ st', secs.foldlM (absorb nic memory) st = .ok st' ∧
      st'.pos = st.pos + ((sectionFormat nic.nvmType).encodeAll secs).length ∧
      st'.sections = secs.foldl (store nic.hwId) st.sections := by
  induction secs generalizing st with
  | nil => exact ⟨st, rfl, rfl, rfl⟩
  | cons sec secs ih =>
    have first : absorb nic memory st sec =
        .ok ⟨st.pos + 4 + sec.data.length, st.copies + 1, store nic.hwId st.sections sec⟩ :=
      if_pos (granted 0 (Nat.succ_pos _))
    obtain ⟨st', ran, pos, sections⟩ := @ih ⟨st.pos + 4 + sec.data.length, st.copies + 1, store nic.hwId st.sections sec⟩
      fun i inside => by
        have next := granted (i + 1) (Nat.succ_lt_succ inside)
        rwa [Nat.add_comm i, ← Nat.add_assoc] at next
    refine ⟨st', ?_, ?_, sections⟩
    · rw [List.foldlM_cons, first]
      exact ran
    · have length : ((sectionFormat nic.nvmType).encode sec).length = 4 + sec.data.length := by
        rw [sec.length_data]
        exact length_bytes sec
      rw [pos, encodeAll_cons, List.length_append, length]
      dsimp only
      omega

/-- Else it ends with the first copy that there is no memory for. -/
theorem foldlM_refused {secs : List (FileSection nic.nvmType)} {i : Nat} (inside : i < secs.length)
    (granted : ∀ j < i, memory (st.copies + j) = true) (refused : memory (st.copies + i) = false) :
    secs.foldlM (absorb nic memory) st = .error (.error .enomem, (secs.take i).foldl (store nic.hwId) st.sections) := by
  induction i generalizing secs st with
  | zero =>
    obtain ⟨sec, secs, rfl⟩ := List.exists_cons_of_length_pos inside
    have first : absorb nic memory st sec = .error (.error .enomem, st.sections) := if_neg (Bool.eq_false_iff.mp refused)
    rw [List.foldlM_cons, first]
    rfl
  | succ i ih =>
    obtain ⟨sec, secs, rfl⟩ := List.exists_cons_of_length_pos (Nat.zero_lt_of_lt inside)
    have first : absorb nic memory st sec =
        .ok ⟨st.pos + 4 + sec.data.length, st.copies + 1, store nic.hwId st.sections sec⟩ :=
      if_pos (granted 0 (Nat.succ_pos i))
    have shift (j : Nat) : st.copies + 1 + j = st.copies + (j + 1) := by omega
    rw [List.foldlM_cons, first]
    refine @ih ⟨st.pos + 4 + sec.data.length, st.copies + 1, store nic.hwId st.sections sec⟩ _
      (Nat.lt_of_succ_lt_succ inside) (fun j before => ?_) ?_
    · exact shift j ▸ granted (j + 1) (Nat.succ_lt_succ before)
    · exact shift i ▸ refused

end Reader

/-! ### The file -/

section File

variable {nic : NvmNic} {file : List UInt8} {memory : Nat → Bool} {sections : NvmSections} {fuel : Nat}

/-- The file has a header. -/
def HasHeader (file : List UInt8) : Prop :=
  nvmHeaderSize < file.length ∧ leAt file 0 4 = nvmHeader0 ∧ leAt file 4 4 = nvmHeader1

instance (file : List UInt8) : Decidable (HasHeader file) := inferInstanceAs (Decidable (_ ∧ _))

/-- A header of this version is refused. -/
def TooOld (nic : NvmNic) (version : Nat) : Prop :=
  nic.family8000 ∧ (nic.hwRev &&& 0x000000C) >>> 2 = 2 ∧ version < 0xE4A

instance (nic : NvmNic) (version : Nat) : Decidable (TooOld nic version) := inferInstanceAs (Decidable (_ ∧ _))

/-- What follows the header, if there is one. -/
def contents (file : List UInt8) : List UInt8 := if HasHeader file then file.drop nvmHeaderSize else file

theorem nvmFileStart_eq (nic : NvmNic) (file : List UInt8) : nvmFileStart nic file =
    if HasHeader file then if TooOld nic (leAt file 8 4) then .error (.error .efault) else .ok nvmHeaderSize
    else .ok 0 := by
  unfold nvmFileStart
  by_cases long : nvmHeaderSize < file.length
  · have size : 16 < file.length := long
    rw [if_pos long, field_ok (by omega), ok_bind, field_ok (by omega), ok_bind]
    by_cases magic : leAt file 0 4 = nvmHeader0 ∧ leAt file 4 4 = nvmHeader1
    · have header : HasHeader file := ⟨long, magic⟩
      rw [if_pos magic, if_pos header, field_ok (by omega), ok_bind]
      rfl
    · have plain : ¬ HasHeader file := fun header => magic header.2
      rw [if_neg magic, if_neg plain]
  · have plain : ¬ HasHeader file := fun header => long header.1
    rw [if_neg long, if_neg plain]

section Contents

variable {secs : List (FileSection nic.nvmType)} {rest : List UInt8} (small : ¬ maxNvmFileLen < file.length)
  (new : ¬ (HasHeader file ∧ TooOld nic (leAt file 8 4)))
  (reads : Reads (sectionFormat nic.nvmType) (contents file) secs rest) (enough : file.length < fuel)
include small new reads enough

/-- The function is a fold over the sections of the contents. -/
theorem read_fold : ∃ start, file.drop start = contents file ∧
    iwlReadExternalNvm fuel nic (.ok file) memory sections = some
      (result (fun st' => (Stop.error (restRet (file.drop st'.pos)), st'.sections))
        (secs.foldlM (absorb nic memory) ⟨start, 0, sections⟩)) := by
  obtain ⟨start, begin, here, inside⟩ : ∃ start, nvmFileStart nic file = .ok start ∧
      file.drop start = contents file ∧ start ≤ file.length := by
    rw [nvmFileStart_eq]
    unfold contents
    by_cases header : HasHeader file
    · rw [if_pos header, if_pos header, if_neg fun old => new ⟨header, old⟩]
      exact ⟨_, rfl, rfl, header.1.le⟩
    · rw [if_neg header, if_neg header]
      exact ⟨0, rfl, rfl, Nat.zero_le _⟩
  have few : secs.length < fuel := by
    have some_bytes := reads.length_le
    rw [← here, List.length_drop] at some_bytes
    omega
  refine ⟨start, here, ?_⟩
  show (if maxNvmFileLen < file.length then _ else _) = _
  rw [if_neg small, begin]
  rw [← here] at reads
  exact @run_nvmFileTurn nic file memory ⟨start, 0, sections⟩ _ _ inside reads _ few

/-- With memory for every copy it stores all sections. -/
theorem read_granted (granted : ∀ i < secs.length, memory i = true) :
    iwlReadExternalNvm fuel nic (.ok file) memory sections =
      some (.error (restRet rest), secs.foldl (store nic.hwId) sections) := by
  obtain ⟨start, here, ran⟩ := read_fold small new reads enough
  obtain ⟨st', folded, pos, stored⟩ := @foldlM_granted nic memory ⟨start, 0, sections⟩ secs
    fun i inside => by rw [Nat.zero_add]; exact granted i inside
  have left : file.drop st'.pos = rest := by
    rw [pos, ← List.drop_drop, here, reads.split, List.drop_left]
  rw [ran, folded, result_ok, left, stored]

/-- It stores what comes before the first copy without memory. -/
theorem read_refused {i : Nat} (inside : i < secs.length) (granted : ∀ j < i, memory j = true)
    (refused : memory i = false) : iwlReadExternalNvm fuel nic (.ok file) memory sections =
      some (.error .enomem, (secs.take i).foldl (store nic.hwId) sections) := by
  obtain ⟨start, here, ran⟩ := read_fold small new reads enough
  have folded := @foldlM_refused nic memory ⟨start, 0, sections⟩ _ _ inside
    (fun j before => by rw [Nat.zero_add]; exact granted j before) (by rw [Nat.zero_add]; exact refused)
  rw [ran, folded, result_error]

end Contents

/-- **What the function makes of a file.** It is a list of sections and a rest, after the header; the sections are
stored in their order, and the rest, or the first copy without memory, gives the return value. -/
theorem iwlReadExternalNvm_meaning (nic : NvmNic) (file : List UInt8) (memory : Nat → Bool) (sections : NvmSections)
    (enough : file.length < fuel) :
    let read := iwlReadExternalNvm fuel nic (.ok file) memory sections
    if maxNvmFileLen < file.length then read = some (.error .einval, sections)
    else if HasHeader file ∧ TooOld nic (leAt file 8 4) then read = some (.error .efault, sections)
    else ∃ secs rest, Reads (sectionFormat nic.nvmType) (contents file) secs rest ∧
      ((∀ i < secs.length, memory i = true) →
        read = some (.error (restRet rest), secs.foldl (store nic.hwId) sections)) ∧
      ∀ i < secs.length, (∀ j < i, memory j = true) → memory i = false →
        read = some (.error .enomem, (secs.take i).foldl (store nic.hwId) sections) := by
  intro read
  by_cases large : maxNvmFileLen < file.length
  · rw [if_pos large]
    exact if_pos large
  rw [if_neg large]
  by_cases old : HasHeader file ∧ TooOld nic (leAt file 8 4)
  · rw [if_pos old]
    have stop : nvmFileStart nic file = .error (.error .efault) := by
      rw [nvmFileStart_eq, if_pos old.1, if_pos old.2]
    show (if maxNvmFileLen < file.length then _ else _) = _
    rw [if_neg large, stop]
  · rw [if_neg old]
    obtain ⟨secs, rest, reads⟩ := exists_reads (sectionFormat nic.nvmType) (contents file)
    exact ⟨secs, rest, reads, fun granted => read_granted large old reads enough granted,
      fun i inside granted refused => read_refused large old reads enough inside granted refused⟩

/-- A PHY SKU section of 16 bytes, with `NVM_SKU_CAP_MIMO_DISABLE`. -/
def phySkuBytes : List UInt8 := [1, 0, 0, 0xC0] ++ [0, 0, 0, 0x33, 0x20] ++ List.replicate 11 7

theorem phySku_lt : nvmSectionTypePhySku < nvmMaxNumSections := by decide

def nic4165 : NvmNic := ⟨.nvm, true, 0x8, iwl4165DeviceId⟩

/-- A file with that section twice. There is memory for the first copy only. -/
theorem iwlReadExternalNvm_secondRefused :
    (let read := iwlReadExternalNvm 60 nic4165 (.ok (phySkuBytes ++ phySkuBytes)) (fun i => i = 0) fun _ => ⟨0, none⟩
    if maxNvmFileLen < (phySkuBytes ++ phySkuBytes).length then read = some (.error .einval, fun _ => ⟨0, none⟩)
    else if HasHeader (phySkuBytes ++ phySkuBytes) ∧ TooOld nic4165 (leAt (phySkuBytes ++ phySkuBytes) 8 4) then
      read = some (.error .efault, fun _ => ⟨0, none⟩)
    else ∃ secs rest, Reads (sectionFormat .nvm) (contents (phySkuBytes ++ phySkuBytes)) secs rest ∧
      ((∀ i < secs.length, decide (i = 0) = true) →
        read = some (.error (restRet rest), secs.foldl (store iwl4165DeviceId) fun _ => ⟨0, none⟩)) ∧
      ∀ i < secs.length, (∀ j < i, decide (j = 0) = true) → decide (i = 0) = false →
        read = some (.error .enomem, (secs.take i).foldl (store iwl4165DeviceId) fun _ => ⟨0, none⟩)) ∧
    ((iwlReadExternalNvm 60 nic4165 (.ok (phySkuBytes ++ phySkuBytes)) (fun i => i = 0) fun _ => ⟨0, none⟩).map
      fun read => (read.1, read.2 ⟨nvmSectionTypePhySku, phySku_lt⟩)) =
        some (.error .enomem, ⟨16, some ([0, 0, 0, 0x22, 0x20] ++ List.replicate 11 7)⟩) :=
  ⟨iwlReadExternalNvm_meaning nic4165 (phySkuBytes ++ phySkuBytes) (fun i => i = 0) (fun _ => ⟨0, none⟩) (by decide),
    by decide +kernel⟩

/-! ### Written files -/

/-- The dwords of a header that the format leaves open. -/
structure NvmHeader where
  version : Nat
  date : Nat
  version_lt : version < 256 ^ 4

def NvmHeader.bytes (header : NvmHeader) : List UInt8 :=
  leBytes 4 nvmHeader0 ++ (leBytes 4 nvmHeader1 ++ (leBytes 4 header.version ++ leBytes 4 header.date))

/-- A file of sections. After its end there may be anything. -/
def nvmFile (header : Option NvmHeader) (secs : List (FileSection nic.nvmType)) (more : List UInt8) : List UInt8 :=
  (header.elim [] NvmHeader.bytes) ++ ((sectionFormat nic.nvmType).encodeAll secs ++ ([0, 0, 0, 0] ++ more))

theorem length_headerBytes (header : NvmHeader) : header.bytes.length = nvmHeaderSize := by
  unfold NvmHeader.bytes
  simp only [List.length_append, length_leBytes]
  rfl

/-- A field of a header. -/
theorem dwords_written (header : NvmHeader) (rest : List UInt8) :
    leAt (header.bytes ++ rest) 0 4 = nvmHeader0 ∧ leAt (header.bytes ++ rest) 4 4 = nvmHeader1 ∧
      leAt (header.bytes ++ rest) 8 4 = header.version := by
  have past (n value offset : Nat) (rest : List UInt8) :
      leAt (leBytes n value ++ rest) (n + offset) 4 = leAt rest offset 4 := by
    have right := leAt_append_right (leBytes n value) rest offset 4
    rwa [length_leBytes] at right
  unfold NvmHeader.bytes
  simp only [List.append_assoc]
  refine ⟨leAt_leBytes (by decide) _, ?_, ?_⟩
  · rw [show (4 : Nat) = 4 + 0 from rfl, past]
    exact leAt_leBytes (by decide) _
  · rw [show (8 : Nat) = 4 + (4 + 0) from rfl, past, past]
    exact leAt_leBytes header.version_lt _

/-- The end of a file is no section. -/
theorem next_end (more : List UInt8) : (sectionFormat type).next ([0, 0, 0, 0] ++ more) = none := by
  have not : ¬ Starts type ([0, 0, 0, 0] ++ more) := fun starts => starts.marked ⟨rfl, rfl⟩
  show nextSection ([0, 0, 0, 0] ++ more) = none
  exact dif_neg not

theorem restRet_end (more : List UInt8) : restRet ([0, 0, 0, 0] ++ more) = .zero :=
  if_pos ⟨by simp, rfl, rfl⟩

/-- What a table holds after sections: the last one of each id. -/
theorem foldl_store (hwId : Nat) (secs : List (FileSection type)) (sections : NvmSections) (id : Fin nvmMaxNumSections) :
    secs.foldl (store hwId) sections id =
      latest (fun sec => if sec.id = id then some ⟨sec.data.length, some (iwlNvmFixups hwId sec.id sec.data)⟩ else none)
        secs (sections id) := by
  refine @foldl_latest _ _ _ _ (fun sections : NvmSections => sections id) _ (fun sections sec => ?_) secs sections
  unfold store
  by_cases here : sec.id = id
  · rw [if_pos here, ← here, Function.update_self]
    rfl
  · rw [if_neg here, Function.update_of_ne fun same => here same.symm]
    rfl

/-- **A written file is read.** Without a header the sections must not look like one. -/
theorem iwlReadExternalNvm_written (nic : NvmNic) (header : Option NvmHeader) (secs : List (FileSection nic.nvmType))
    (more : List UInt8) (sections : NvmSections) (fits : (nvmFile header secs more).length ≤ maxNvmFileLen)
    (plain : header = none → ¬ HasHeader (nvmFile header secs more))
    (accepted : ∀ head, header = some head → ¬ TooOld nic head.version)
    (enough : (nvmFile header secs more).length < fuel) :
    iwlReadExternalNvm fuel nic (.ok (nvmFile header secs more)) (fun _ => true) sections =
      some (.error .zero, fun id => latest
        (fun sec => if sec.id = id then some ⟨sec.data.length, some (iwlNvmFixups nic.hwId sec.id sec.data)⟩ else none)
        secs (sections id)) := by
  have start : ¬ (HasHeader (nvmFile header secs more) ∧ TooOld nic (leAt (nvmFile header secs more) 8 4)) ∧
      contents (nvmFile header secs more) = (sectionFormat nic.nvmType).encodeAll secs ++ ([0, 0, 0, 0] ++ more) := by
    unfold contents
    cases header with
    | none => exact ⟨fun both => plain rfl both.1, if_neg (plain rfl)⟩
    | some head =>
      obtain ⟨dword0, dword1, dword2⟩ :=
        dwords_written head ((sectionFormat nic.nvmType).encodeAll secs ++ ([0, 0, 0, 0] ++ more))
      have long : nvmHeaderSize < (nvmFile (some head) secs more).length := by
        unfold nvmFile
        rw [Option.elim_some, List.length_append, length_headerBytes, List.length_append, List.length_append,
          List.length_cons]
        omega
      refine ⟨fun both => accepted head rfl (dword2 ▸ both.2), ?_⟩
      rw [if_pos ⟨long, dword0, dword1⟩]
      exact List.drop_left' (length_headerBytes head)
  have written : Reads (sectionFormat nic.nvmType) (contents (nvmFile header secs more)) secs ([0, 0, 0, 0] ++ more) :=
    start.2 ▸ reads_encode secs (next_end more)
  rw [read_granted (Nat.not_lt.mpr fits) start.1 written enough fun _ _ => rfl, restRet_end]
  congr 2
  funext id
  exact foldl_store nic.hwId _ sections id

end File

theorem phySkuBytes_starts : Starts .nvm phySkuBytes := by decide +kernel

theorem firstVersion_lt : 0xE4A < 256 ^ 4 := by decide

/-- The first version that a NIC of step C takes. -/
def firstHeader : NvmHeader := ⟨0xE4A, 0, firstVersion_lt⟩

/-- A file with this header, and with that section twice. -/
theorem iwlReadExternalNvm_written_twice :
    iwlReadExternalNvm 100 nic4165 (.ok (@nvmFile nic4165 (some firstHeader)
        [phySkuBytes_starts.section, phySkuBytes_starts.section] [9])) (fun _ => true) (fun _ => ⟨0, none⟩) =
      some (.error .zero, fun id => latest
        (fun sec => if sec.id = id then some ⟨sec.data.length, some (iwlNvmFixups iwl4165DeviceId sec.id sec.data)⟩
          else none)
        [phySkuBytes_starts.section, phySkuBytes_starts.section] ⟨0, none⟩) :=
  iwlReadExternalNvm_written nic4165 (some firstHeader) _ [9] _ (by decide +kernel)
    (fun none => absurd none (Option.some_ne_none _))
    (fun head same => by obtain rfl := Option.some.inj same; decide +kernel) (by decide +kernel)

end IntelWifi.NvmParse
