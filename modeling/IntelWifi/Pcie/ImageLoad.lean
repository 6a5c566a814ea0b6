/-
**From the firmware file to the memory of the device.**

An accepted file leaves section records, `iwl_alloc_ucode` copies an image from the file, and
`iwl_pcie_load_given_ucode` or its variant for the 8000 family hands the image over, section by section and chunk by
chunk, before it lets the device run. The memory of the device has two banks, the second one with the extended range;
a chunk goes to the bank that `LMPM_CHICK_EXTENDED_ADDR_SPACE` selects.

* `section_placed`: a section that is loaded with 0 lies in memory as a whole, each byte in its bank.
* `ucodeLoad_delivers`: the device is started exactly when the load returns 0, and then has the sections that it
  needs; at no time is anything else touched.
* `alloc_fileImage`: what is published of an accepted file is the image its TLVs mean.
* `file_delivered`: so the device starts with what the file says.
-/

import IntelWifi.Lib.AddressSpace
import IntelWifi.Pcie.CpuSections
import IntelWifi.Fw.TlvRoundTrip

namespace IntelWifi.Pcie.Image

open IntelWifi.AddressSpace IntelWifi.Bytes IntelWifi.Tiling IntelWifi.Porting

/-! ### The device -/

/-- The SRAM, and `LMPM_CHICK_EXTENDED_ADDR_SPACE`. -/
structure Device where
  sram : Banks Bool 32
  extended : Bool

/-- The bank that has an address. -/
def bankOf (address : BitVec 32) : Bool := extendedAddr address.toNat

/-- The DMA of a chunk, and the bit behind it. -/
def Device.receive (device : Device) (chunk : ChunkLog) : Device where
  sram :=
    if chunk.issued then
      write device.sram chunk.extended (BitVec.ofNat 32 chunk.write.dstAddr) chunk.write.bytes
    else device.sram
  extended := chunk.extendedAfter

/-- The chunks of a load. -/
def Device.receiveAll (device : Device) (chunks : List ChunkLog) : Device := chunks.foldl Device.receive device

/-! ### A section -/

/-- Of `struct fw_desc`, what `iwl_pcie_load_section` is given. -/
def toSection (desc : FwDesc) : FwSection := ⟨desc.data.getD [], desc.offset⟩

/-- `iwl_pcie_load_section` with the bit as it is, when its buffers are allocated. -/
def loadSection (env : SectionEnv) (sec : FwSection) (extended : Bool) : LoadEnd × List ChunkLog :=
  if env.mapped then chunkLoop env sec (sec.len + 1) 0 0 ⟨List.replicate sec.len 0, extended⟩
  else (.returned (some .unmapped), [])

/-- With the bit clear it is the load of a first section. -/
theorem loadSection_clear (env : SectionEnv) (sec : FwSection) (allocated : env.allocated = true) :
    iwlPcieLoadSection env (sec.len + 1) sec = .ok (loadSection env sec false) := by
  unfold iwlPcieLoadSection loadSection
  rw [allocated, if_neg (by decide)]
  cases env.mapped <;> rfl

/-- `ret`; the loop is out of turns only when its `u32` offset wraps. -/
def retOf : LoadEnd → Option LoadError
  | .running => none
  | .returned ret => ret

/-- What the loads of the sections of an image meet, by index. -/
abbrev ImageEnv := Nat → SectionEnv

/-- What the load of `image->sec[i]` returns. -/
def loadRet (env : ImageEnv) (i : Nat) (desc : FwDesc) : Option LoadError :=
  retOf (loadSection (env i) (toSection desc) false).1

/-! ### The image -/

/-- Of `struct fw_img`. -/
structure FwImage where
  sec : List FwDesc
  isDualCpus : Bool

/-- Whether the debug destination of the file is applied: `iwlwifi_mod_params.fw_monitor`, a device of the 7000
family, and `trans->dbg_dest_tlv`. -/
structure DebugSetup where
  fwMonitor : Bool
  family7000 : Bool
  dbgDestTlv : Bool

/-- What a load of an image does. -/
inductive UcodeEvent where
  | cpu (event : LoadEvent)
  /-- `LMPM_SECURE_UCODE_LOAD_CPU2_HDR_ADDR` is written. -/
  | cpu2Header
  | applyDestination
  /-- `WFPM_GP2` is written. -/
  | wfpmGp2
  | enableInterrupts
  /-- `CSR_RESET` or `RELEASE_CPU_RESET`. -/
  | releaseCpu
  deriving DecidableEq

/-- What it returns and does. -/
structure UcodeLoad where
  ret : Option LoadError
  events : List UcodeEvent

/-- `if (ret) return ret;` between two steps. -/
def UcodeLoad.andThen (one two : UcodeLoad) : UcodeLoad :=
  if one.ret.isSome then one else ⟨two.ret, one.events ++ two.events⟩

/-- A step that does not fail. -/
def always (events : List UcodeEvent) : UcodeLoad := ⟨none, events⟩

/-- `iwl_pcie_apply_destination`, if it is called. -/
def debugStep (applied : Bool) : UcodeLoad := always (if applied then [.applyDestination] else [])

/-- A call of `iwl_pcie_load_cpu_sections`. -/
def ofCpu (cpuLoad : CpuLoad) : UcodeLoad := ⟨cpuLoad.ret, cpuLoad.events.map .cpu⟩

section Model

variable (load : Nat → FwDesc → Option LoadError) (debug : DebugSetup) (image : FwImage)

/-- `iwl_pcie_load_given_ucode`. No monitor buffer is ever allocated, so its registers are not written. -/
def iwlPcieLoadGivenUcode : UcodeLoad :=
  let one := iwlPcieLoadCpuSections load image.sec 1 0
  let two := iwlPcieLoadCpuSections load image.sec 2 one.first
  let monitored := debug.fwMonitor && debug.family7000
  (ofCpu one).andThen <|
    (if image.isDualCpus then (always [.cpu2Header]).andThen (ofCpu two) else always []).andThen <|
      (debugStep (!monitored && debug.dbgDestTlv)).andThen <| always [.enableInterrupts, .releaseCpu]

/-- `iwl_pcie_load_given_ucode_8000`. -/
def iwlPcieLoadGivenUcode8000 (useTfh : Bool) : UcodeLoad :=
  let one := iwlPcieLoadCpuSections8000 load useTfh image.sec 1 0
  let two := iwlPcieLoadCpuSections8000 load useTfh image.sec 2 one.first
  (debugStep debug.dbgDestTlv).andThen <|
    (always [.wfpmGp2, .releaseCpu]).andThen <| (ofCpu one).andThen (ofCpu two)

end Model

/-- The call of a variant. -/
def ucodeLoad (variant : CpuVariant) (load : Nat → FwDesc → Option LoadError) (debug : DebugSetup) (image : FwImage) :
    UcodeLoad :=
  match variant with
  | .plain => iwlPcieLoadGivenUcode load debug image
  | .family8000 useTfh => iwlPcieLoadGivenUcode8000 load debug image useTfh

/-- The device is told to run what it has: its reset is released, or the last status of CPU 2 is written. -/
def starts (variant : CpuVariant) (event : UcodeEvent) : Bool :=
  match variant, event with
  | .plain, .releaseCpu => true
  | .family8000 _, .cpu (.finish _ value) => value == 0xFFFFFFFF
  | _, _ => false

/-- What an event does to the memory. -/
def Device.step (env : ImageEnv) (device : Device) (event : UcodeEvent) : Device :=
  match event with
  | .cpu (.load desc i) => device.receiveAll (loadSection (env i) (toSection desc) device.extended).2
  | _ => device

def Device.run (env : ImageEnv) (device : Device) (events : List UcodeEvent) : Device :=
  events.foldl (Device.step env) device

/-! ### What is needed -/

/-- The sections that a variant hands over. -/
def needed (variant : CpuVariant) (image : FwImage) : List (FwDesc × Nat) :=
  match variant with
  | .plain => cpu1Sections image.sec ++ if image.isDualCpus then cpu2Sections image.sec else []
  | .family8000 _ => cpu1Sections image.sec ++ cpu2Sections image.sec

/-- Where a section belongs. -/
def rangeOf (desc : FwDesc) : BitVec 32 × List UInt8 := (BitVec.ofNat 32 desc.offset, desc.data.getD [])

def ranges (sections : List (FwDesc × Nat)) : List (BitVec 32 × List UInt8) := sections.map fun sec => rangeOf sec.1

/-- The section is mapped, and the device reports the end of each of its chunks. -/
def Complete (env : ImageEnv) (sec : FwDesc × Nat) : Prop :=
  (env sec.2).mapped = true ∧ ∀ k < (toSection sec.1).parts.length, (env sec.2).outcome k = .complete

/-- Each chunk that is reached lies on one side of the border of the extended range, and there is access to set the
bit and to clear it. -/
def Calm (env : ImageEnv) (sec : FwDesc × Nat) : Prop :=
  ∀ k, Reaches (env sec.2) (toSection sec.1) 0 k → ChunkCalm (env sec.2) (toSection sec.1) k

/-- The loop's offset does not wrap. -/
def Short (sec : FwDesc × Nat) : Prop := (toSection sec.1).len < 2 ^ 32 - fhMemTbMaxLength

/-! ### One section -/

section Section

variable {env : SectionEnv} {sec : FwSection} {device : Device} {chunk : ChunkLog} {chunks : List ChunkLog}

/-- A chunk that follows the range goes where it belongs. -/
theorem receive_follows (follows : chunk.Follows) :
    device.receive chunk =
      ⟨placeAll bankOf device.sram
        ((issuedWrites [chunk]).map fun write => (BitVec.ofNat 32 write.dstAddr, write.bytes)), false⟩ := by
  unfold Device.receive
  rw [issuedWrites_cons, follows.2]
  cases issued : chunk.issued with
  | false => rfl
  | true =>
    rw [if_pos rfl, if_pos rfl, write_eq_place]
    · rfl
    · intro address inside
      have byte := follows.1 issued _ inside
      rw [← byte]
      unfold bankOf
      congr 1
      conv_lhs => rw [← add_position (BitVec.ofNat 32 chunk.write.dstAddr) address]
      rw [BitVec.toNat_add, BitVec.toNat_ofNat, BitVec.toNat_ofNat, ← Nat.add_mod]

theorem receiveAll_follows (follows : ∀ chunk ∈ chunks, chunk.Follows) (clear : device.extended = false) :
    device.receiveAll chunks =
      ⟨placeAll bankOf device.sram
        ((issuedWrites chunks).map fun write => (BitVec.ofNat 32 write.dstAddr, write.bytes)), false⟩ := by
  induction chunks generalizing device with
  | nil =>
    rw [← clear]
    rfl
  | cons chunk later ih =>
    obtain ⟨first, rest⟩ := List.forall_mem_cons.mp follows
    have split : issuedWrites (chunk :: later) = issuedWrites [chunk] ++ issuedWrites later := by
      rw [issuedWrites_cons, issuedWrites_cons]
      exact congrArg (· ++ _) (List.append_nil _).symm
    have next := @receive_follows device chunk first
    show (device.receive chunk).receiveAll later = _
    rw [ih rest (congrArg Device.extended next), next, split, List.map_append, placeAll_append]

/-- An address that no write reaches keeps its byte, in either bank. -/
theorem receiveAll_outside {address : BitVec 32} (bank : Bool)
    (outside : ∀ write ∈ issuedWrites chunks, byteFor (BitVec.ofNat 32 write.dstAddr) write.bytes address = none) :
    (device.receiveAll chunks).sram bank address = device.sram bank address := by
  induction chunks generalizing device with
  | nil => rfl
  | cons chunk later ih =>
    rw [issuedWrites_cons] at outside
    have rest := @ih (device.receive chunk) fun write member => outside write (List.mem_append_right _ member)
    have first : (device.receive chunk).sram bank address = device.sram bank address := by
      unfold Device.receive
      dsimp only
      split
      · next issued =>
        rw [if_pos issued] at outside
        exact write_outside (outside chunk.write List.mem_cons_self)
      · rfl
    exact rest.trans first

theorem part_inside (short : sec.len < 2 ^ 32 - fhMemTbMaxLength) {part : Part} (member : part ∈ sec.parts) :
    part.start + part.length ≤ sec.len := by
  have some : sec.len ≠ 0 := by
    intro empty
    unfold FwSection.parts cut at member
    rw [empty, if_neg (Nat.lt_irrefl 0)] at member
    cases member
  exact (length_of_mem_cut (chunkSz_bounds short some).1 member).2.2

theorem ofNat_dstAddr (sec : FwSection) (offset : Nat) :
    BitVec.ofNat 32 (sec.dstAddr offset) = BitVec.ofNat 32 sec.offset + BitVec.ofNat 32 offset := by
  unfold FwSection.dstAddr
  rw [← BitVec.ofNat_add, ← BitVec.toNat_inj, BitVec.toNat_ofNat, BitVec.toNat_ofNat, Nat.mod_mod]

/-- The writes of a load are the first of the section's parts; all of them, when it returns 0. -/
theorem loadSection_writes (env : SectionEnv) (short : sec.len < 2 ^ 32 - fhMemTbMaxLength) (extended : Bool) :
    issuedWrites (loadSection env sec extended).2 <+: sec.parts.map sec.writeOf ∧
      (retOf (loadSection env sec extended).1 = none →
        issuedWrites (loadSection env sec extended).2 = sec.parts.map sec.writeOf) ∧
      (retOf (loadSection env sec extended).1 = none ↔
        env.mapped = true ∧ ∀ k < sec.parts.length, env.outcome k = .complete) := by
  unfold loadSection
  cases mapped : env.mapped with
  | false => exact ⟨List.nil_prefix, (nomatch ·), (nomatch ·), fun both => nomatch both.1⟩
  | true =>
    obtain ⟨ret, chunks, left, isPrefix, whole, iff⟩ := chunkLoop_writes env short (sec.len + 1) 0 0
      (Nat.lt_succ_self sec.len) ⟨List.replicate sec.len 0, extended⟩
    simp only [Nat.zero_add] at iff
    rw [if_pos rfl, left]
    exact ⟨isPrefix, whole, fun none => ⟨rfl, iff.mp none⟩, fun both => iff.mpr both.2⟩

/-- **A section that is loaded** lies in memory as a whole. -/
theorem section_placed (short : sec.len < 2 ^ 32 - fhMemTbMaxLength)
    (calm : ∀ k, Reaches env sec 0 k → ChunkCalm env sec k) (clear : device.extended = false)
    (done : retOf (loadSection env sec false).1 = none) :
    device.receiveAll (loadSection env sec false).2 =
      ⟨place bankOf device.sram (BitVec.ofNat 32 sec.offset) sec.data, false⟩ := by
  obtain ⟨_, whole, _⟩ := loadSection_writes env short false
  have follows : ∀ chunk ∈ (loadSection env sec false).2, chunk.Follows := by
    unfold loadSection
    split
    · have start : sec.chunkOffset 0 = 0 := by simp [FwSection.chunkOffset]
      have loop := (@chunkLoop_follows env sec ⟨List.replicate sec.len 0, false⟩ (sec.len + 1) 0 rfl).mpr
        fun k _ _ reached => calm k reached
      rwa [start] at loop
    · exact fun chunk none => absurd none List.not_mem_nil
  have fits : sec.data.length ≤ 2 ^ 32 := Nat.le_of_lt (Nat.lt_of_lt_of_le short (Nat.sub_le _ _))
  rw [receiveAll_follows follows clear, whole done, List.map_map,
    ← place_tiles (parts_tile short).1 fits]
  unfold placeAll
  rw [List.foldl_map]
  congr 2
  funext mem part
  rw [← ofNat_dstAddr]
  rfl

/-- Whatever a load meets, it writes inside the section only. -/
theorem loadSection_outside (env : SectionEnv) (short : sec.len < 2 ^ 32 - fhMemTbMaxLength) (extended bank : Bool)
    {address : BitVec 32} (outside : byteFor (BitVec.ofNat 32 sec.offset) sec.data address = none) :
    (device.receiveAll (loadSection env sec extended).2).sram bank address = device.sram bank address := by
  refine receiveAll_outside bank fun write member => ?_
  obtain ⟨part, own, rfl⟩ := List.mem_map.mp ((loadSection_writes env short extended).1.subset member)
  have inside := part_inside short own
  have fits : sec.data.length ≤ 2 ^ 32 := Nat.le_of_lt (Nat.lt_of_lt_of_le short (Nat.sub_le _ _))
  have past := byteFor_eq_none.mp outside
  show byteFor (BitVec.ofNat 32 (sec.dstAddr part.start)) (slice sec.data part.start part.length) address = none
  rw [byteFor_eq_none, ofNat_dstAddr, length_slice inside]
  by_contra reaches
  exact absurd (position_part inside fits (Nat.not_le.mp reaches)) (Nat.not_lt.mpr past)

end Section

/-! ### The sections of an image -/

/-- The loads among the events. -/
def loadsIn (events : List UcodeEvent) : List (FwDesc × Nat) :=
  events.filterMap fun
    | .cpu (.load desc i) => some (desc, i)
    | _ => none

section Sections

variable {env : ImageEnv} {device : Device} {sections : List (FwDesc × Nat)} {events : List UcodeEvent}

@[simp] theorem loadsIn_append (events more : List UcodeEvent) :
    loadsIn (events ++ more) = loadsIn events ++ loadsIn more := List.filterMap_append

@[simp] theorem loadsIn_cpu (events : List LoadEvent) : loadsIn (events.map .cpu) = loadsOf events := by
  unfold loadsIn loadsOf
  rw [List.filterMap_map]
  refine List.filterMap_congr fun event _ => ?_
  cases event <;> rfl

/-- Only loads count. -/
theorem run_loads (env : ImageEnv) (device : Device) (events : List UcodeEvent) :
    device.run env events = device.run env ((loadsIn events).map fun sec => .cpu (.load sec.1 sec.2)) := by
  induction events generalizing device with
  | nil => rfl
  | cons event later ih =>
    have next : ∀ kept : List UcodeEvent, device.run env (event :: kept) = (device.step env event).run env kept :=
      fun _ => rfl
    rw [next, ih]
    cases event with
    | cpu event => cases event <;> rfl
    | cpu2Header | applyDestination | wfpmGp2 | enableInterrupts | releaseCpu => rfl

/-- A section is loaded with 0 when it is mapped and all its chunks are done. -/
theorem loadRet_eq_none {sec : FwDesc × Nat} (short : Short sec) :
    loadRet env sec.2 sec.1 = none ↔ Complete env sec :=
  (loadSection_writes (env sec.2) short false).2.2

/-- **Complete sections** lie in memory one over the other. -/
theorem run_placed (short : ∀ sec ∈ sections, Short sec) (calm : ∀ sec ∈ sections, Calm env sec)
    (complete : ∀ sec ∈ sections, Complete env sec) (clear : device.extended = false) :
    device.run env (sections.map fun sec => .cpu (.load sec.1 sec.2)) =
      ⟨placeAll bankOf device.sram (ranges sections), false⟩ := by
  induction sections generalizing device with
  | nil =>
    rw [← clear]
    rfl
  | cons sec later ih =>
    rw [List.forall_mem_cons] at short calm complete
    have first : device.step env (.cpu (.load sec.1 sec.2)) =
        ⟨place bankOf device.sram (rangeOf sec.1).1 (rangeOf sec.1).2, false⟩ := by
      show device.receiveAll (loadSection (env sec.2) (toSection sec.1) device.extended).2 = _
      rw [clear]
      exact section_placed short.1 calm.1 clear ((loadRet_eq_none short.1).mpr complete.1)
    show (device.step env (.cpu (.load sec.1 sec.2))).run env _ = _
    rw [first, ih short.2 calm.2 complete.2 rfl]
    rfl

/-- **Nothing else** is touched, whatever the loads meet. -/
theorem run_outside (short : ∀ sec ∈ loadsIn events, Short sec) (bank : Bool) {address : BitVec 32}
    (outside : ∀ sec ∈ loadsIn events, byteFor (rangeOf sec.1).1 (rangeOf sec.1).2 address = none) :
    (device.run env events).sram bank address = device.sram bank address := by
  rw [run_loads]
  generalize loadsIn events = sections at short outside
  induction sections generalizing device with
  | nil => rfl
  | cons sec later ih =>
    rw [List.forall_mem_cons] at short outside
    exact (ih short.2 outside.2).trans
      (loadSection_outside (env sec.2) short.1 device.extended bank outside.1)

end Sections

/-! ### The calls -/

section Calls

variable (load : Nat → FwDesc → Option LoadError) (image : List FwDesc)

/-- The call for CPU 1. -/
theorem cpu1_loads (variant : CpuVariant) (first : Nat) :
    Loads load (variant.call load image 1 first) (cpu1Sections image) := by
  obtain ⟨loaded, shift, rfl, ret, events, _⟩ := call_loop variant load image 1 first
  rw [show firstSection 1 first = 0 from rfl, List.drop_zero] at ret events
  exact (cpuLoop_loads load shift image 0 1 0).of_eq ret events

/-- The call for CPU 2, behind it. -/
theorem cpu2_loads (variant : CpuVariant) (first : Nat) (done : (variant.call load image 1 first).ret = none) :
    Loads load (variant.call load image 2 (variant.call load image 1 first).first) (cpu2Sections image) := by
  obtain ⟨loaded1, shift1, rfl, ret1, _, first1⟩ := call_loop variant load image 1 first
  obtain ⟨loaded2, shift2, loop, ret2, events2, _⟩ :=
    call_loop variant load image 2 (variant.call load image 1 first).first
  rw [show firstSection 1 first = 0 from rfl, List.drop_zero] at ret1 first1
  rw [ret1] at done
  obtain ⟨stops, ends⟩ := cpuLoop_first load shift1 image 0 1 0 (Nat.zero_le _) done
  rw [← first1 done, Nat.zero_add] at stops ends
  have loads := cpuLoop_loads load shift2 (image.drop ((variant.call load image 1 first).first + 1))
    ((variant.call load image 1 first).first + 1) 1 0
  rw [drop_first stops ends] at loads
  exact Loads.of_eq (loop ▸ loads) ret2 events2

/-- The loop only loads, and tells of what it loaded. -/
theorem cpuLoop_events (shiftParam : Option Nat) (descs : List FwDesc) (i : Nat) (secNum : BitVec 32)
    (lastReadIdx : Nat) (variant : CpuVariant) :
    ∀ event ∈ (cpuLoop load shiftParam descs i secNum lastReadIdx).events, starts variant (.cpu event) = false := by
  have loaded (desc : FwDesc) (i : Nat) : starts variant (.cpu (.load desc i)) = false := by cases variant <;> rfl
  have told (bits : BitVec 32) : starts variant (.cpu (.status bits)) = false := by cases variant <;> rfl
  induction descs generalizing i secNum lastReadIdx with
  | nil => exact fun event none => absurd none List.not_mem_nil
  | cons desc later ih =>
    unfold cpuLoop
    split
    · split
      · exact List.forall_mem_singleton.mpr (loaded desc i)
      · refine List.forall_mem_cons.mpr ⟨loaded desc i, fun event member => ?_⟩
        rcases List.mem_append.mp member with status | later
        · cases shiftParam with
          | none => cases status
          | some shift =>
            obtain rfl := List.mem_singleton.mp status
            exact told (secNum <<< shift)
        · exact ih (i + 1) ((secNum <<< 1) ||| 1) i event later
    · exact fun event none => absurd none List.not_mem_nil

end Calls

/-! ### The load of an image -/

/-- It hands over the sections in order, up to one that fails; all of them when it returns 0. -/
structure HandsOver (load : Nat → FwDesc → Option LoadError) (loaded : UcodeLoad) (sections : List (FwDesc × Nat)) :
    Prop where
  isPrefix : loadsIn loaded.events <+: sections
  whole : loaded.ret = none → loadsIn loaded.events = sections
  ret : loaded.ret = none ↔ ∀ sec ∈ sections, load sec.2 sec.1 = none

/-- None of the events starts the device. -/
def Quiet (variant : CpuVariant) (events : List UcodeEvent) : Prop := ∀ event ∈ events, starts variant event = false

/-- The device is started by the last event, and only if 0 is returned. -/
structure StartsLast (variant : CpuVariant) (loaded : UcodeLoad) : Prop where
  last : loaded.ret = none → ∃ before event, loaded.events = before ++ [event] ∧ Quiet variant before ∧
    starts variant event = true
  never : loaded.ret ≠ none → Quiet variant loaded.events

section Hands

variable {load : Nat → FwDesc → Option LoadError} {variant : CpuVariant} {one two : UcodeLoad}
  {sections more : List (FwDesc × Nat)}

theorem andThen_of_some {error : LoadError} (failed : one.ret = some error) : one.andThen two = one := by
  unfold UcodeLoad.andThen
  rw [failed]
  exact if_pos rfl

theorem andThen_of_none (done : one.ret = none) : one.andThen two = ⟨two.ret, one.events ++ two.events⟩ := by
  unfold UcodeLoad.andThen
  rw [done]
  exact if_neg Bool.false_ne_true

theorem HandsOver.always {events : List UcodeEvent} (none : loadsIn events = []) :
    HandsOver load (always events) [] :=
  ⟨none ▸ List.prefix_refl _, fun _ => none, fun _ _ member => absurd member List.not_mem_nil, fun _ => rfl⟩

theorem HandsOver.ofLoads {cpuLoad : CpuLoad} (loads : Loads load cpuLoad sections) :
    HandsOver load (ofCpu cpuLoad) sections := by
  have same : loadsIn (ofCpu cpuLoad).events = loadsOf cpuLoad.events := loadsIn_cpu cpuLoad.events
  constructor
  · rw [same]
    exact loads.isPrefix
  · rw [same]
    exact loads.whole
  · exact loads.ret

/-- **One step after another** hands over what the two do; a step that fails is the last one. -/
theorem HandsOver.andThen (first : HandsOver load one sections)
    (second : one.ret = none → HandsOver load two more) : HandsOver load (one.andThen two) (sections ++ more) := by
  cases done : one.ret with
  | some error =>
    rw [andThen_of_some done]
    have failed : one.ret ≠ none := done ▸ Option.some_ne_none error
    refine ⟨first.isPrefix.trans (List.prefix_append sections more), fun none => absurd none failed,
      fun none => absurd none failed, fun all => ?_⟩
    exact first.ret.mpr fun sec member => all sec (List.mem_append_left more member)
  | none =>
    have later := second done
    have same : loadsIn (one.events ++ two.events) = sections ++ loadsIn two.events := by
      rw [loadsIn_append, first.whole done]
    rw [andThen_of_none done]
    constructor
    · rw [same]
      exact (List.prefix_append_right_inj sections).mpr later.isPrefix
    · intro both
      rw [same, later.whole both]
    · refine later.ret.trans ⟨fun all sec member => ?_, fun all sec member => all sec (List.mem_append_right _ member)⟩
      rcases List.mem_append.mp member with early | late
      · exact first.ret.mp done sec early
      · exact all sec late

/-- The device is started last when it is in the second step. -/
theorem StartsLast.andThen (first : Quiet variant one.events) (second : one.ret = none → StartsLast variant two) :
    StartsLast variant (one.andThen two) := by
  cases done : one.ret with
  | some error =>
    rw [andThen_of_some done]
    exact ⟨fun none => absurd (done.symm.trans none) (Option.some_ne_none error), fun _ => first⟩
  | none =>
    have later := second done
    rw [andThen_of_none done]
    refine ⟨fun both => ?_, fun failed => List.forall_mem_append.mpr ⟨first, later.never failed⟩⟩
    obtain ⟨before, event, split, quiet, start⟩ := later.last both
    refine ⟨one.events ++ before, event, ?_, List.forall_mem_append.mpr ⟨first, quiet⟩, start⟩
    dsimp only
    rw [split, List.append_assoc]

theorem debugStep_silent (applied : Bool) :
    HandsOver load (debugStep applied) [] ∧ Quiet variant (debugStep applied).events := by
  have quiet : starts variant .applyDestination = false := by cases variant <;> rfl
  cases applied with
  | false => exact ⟨.always rfl, fun event none => absurd none List.not_mem_nil⟩
  | true => exact ⟨.always rfl, List.forall_mem_singleton.mpr quiet⟩

/-- Quiet steps stay quiet together. -/
theorem quiet_andThen (first : Quiet variant one.events) (second : Quiet variant two.events) :
    Quiet variant (one.andThen two).events := by
  cases done : one.ret with
  | some error =>
    rw [andThen_of_some done]
    exact first
  | none =>
    rw [andThen_of_none done]
    exact List.forall_mem_append.mpr ⟨first, second⟩

/-- No call of `iwl_pcie_load_cpu_sections` starts a device of an earlier family. -/
theorem quiet_plain (cpuLoad : CpuLoad) : Quiet .plain (ofCpu cpuLoad).events := by
  intro event member
  obtain ⟨event, _, rfl⟩ := List.mem_map.mp member
  rfl

/-- **An image for a device of an earlier family.** -/
theorem plain_hands (load : Nat → FwDesc → Option LoadError) (debug : DebugSetup) (image : FwImage) :
    HandsOver load (iwlPcieLoadGivenUcode load debug image) (needed .plain image) ∧
      StartsLast .plain (iwlPcieLoadGivenUcode load debug image) := by
  have one : HandsOver load _ _ := .ofLoads (cpu1_loads load image.sec .plain 0)
  have two (done : (iwlPcieLoadCpuSections load image.sec 1 0).ret = none) : HandsOver load _ _ :=
    .ofLoads (cpu2_loads load image.sec .plain 0 done)
  obtain ⟨debugged, silent⟩ :=
    @debugStep_silent load .plain (!(debug.fwMonitor && debug.family7000) && debug.dbgDestTlv)
  have released : HandsOver load (always [.enableInterrupts, .releaseCpu]) [] := .always rfl
  have last : HandsOver load _ _ := debugged.andThen fun _ => released
  have started : StartsLast .plain _ := .andThen silent fun _ => (⟨fun _ => ⟨[.enableInterrupts], .releaseCpu, rfl,
    List.forall_mem_singleton.mpr rfl, rfl⟩, fun failed => absurd rfl failed⟩ :
      StartsLast .plain (always [.enableInterrupts, .releaseCpu]))
  unfold iwlPcieLoadGivenUcode needed
  cases image.isDualCpus with
  | false =>
    constructor
    · exact one.andThen fun _ => (HandsOver.always rfl).andThen fun _ => last
    · exact .andThen (quiet_plain _) fun _ => .andThen (fun event none => absurd none List.not_mem_nil) fun _ => started
  | true =>
    constructor
    · have header : HandsOver load (always [.cpu2Header]) [] := .always rfl
      have all := one.andThen fun done => (header.andThen fun _ => two done).andThen fun _ => last
      rw [List.append_nil, List.append_nil] at all
      exact all
    · have header : Quiet .plain (always [.cpu2Header]).events := List.forall_mem_singleton.mpr rfl
      exact .andThen (quiet_plain _) fun _ => .andThen (quiet_andThen header (quiet_plain _)) fun _ => started

/-- The calls for the 8000 family end with a last status, and only that for CPU 2 starts the device. -/
theorem family8000_events (load : Nat → FwDesc → Option LoadError) (useTfh : Bool) (image : List FwDesc)
    (cpu first : Nat) :
    let called := iwlPcieLoadCpuSections8000 load useTfh image cpu first
    ∃ quiet, Quiet (.family8000 useTfh) (quiet.map .cpu) ∧ called.events = quiet ++
      if called.ret = none then [.enableInterrupts, .finish useTfh (if cpu = 1 then 0xFFFF else 0xFFFFFFFF)] else [] := by
  intro called
  have events := cpuLoop_events load (some (if cpu = 1 then 0 else 16)) (image.drop (firstSection cpu first))
    (firstSection cpu first) 1 0 (.family8000 useTfh)
  refine ⟨_, List.forall_mem_map.mpr events, ?_⟩
  show (iwlPcieLoadCpuSections8000 load useTfh image cpu first).events = _ ++
    if (iwlPcieLoadCpuSections8000 load useTfh image cpu first).ret = none then _ else _
  unfold iwlPcieLoadCpuSections8000
  by_cases done : (cpuLoop load (some (if cpu = 1 then 0 else 16)) (image.drop (firstSection cpu first))
      (firstSection cpu first) 1 0).ret = none
  · simp only [done, if_true]
  · simp only [done, if_false, List.append_nil]

/-- **An image for a device of the 8000 family.** -/
theorem family8000_hands (load : Nat → FwDesc → Option LoadError) (debug : DebugSetup) (image : FwImage)
    (useTfh : Bool) :
    HandsOver load (iwlPcieLoadGivenUcode8000 load debug image useTfh) (needed (.family8000 useTfh) image) ∧
      StartsLast (.family8000 useTfh) (iwlPcieLoadGivenUcode8000 load debug image useTfh) := by
  have one : HandsOver load _ _ := .ofLoads (cpu1_loads load image.sec (.family8000 useTfh) 0)
  have two (done : (iwlPcieLoadCpuSections8000 load useTfh image.sec 1 0).ret = none) : HandsOver load _ _ :=
    .ofLoads (cpu2_loads load image.sec (.family8000 useTfh) 0 done)
  obtain ⟨debugged, silent⟩ := @debugStep_silent load (.family8000 useTfh) debug.dbgDestTlv
  constructor
  · exact debugged.andThen fun _ => (HandsOver.always rfl).andThen fun _ => one.andThen two
  · refine .andThen silent fun _ => .andThen ?_ fun _ => .andThen ?_ fun _ => ?_
    · exact List.forall_mem_cons.mpr ⟨rfl, List.forall_mem_singleton.mpr rfl⟩
    · -- The status behind CPU 1 is not the last one.
      obtain ⟨quiet, none, split⟩ := family8000_events load useTfh image.sec 1 0
      unfold Quiet ofCpu
      rw [split, List.map_append]
      refine List.forall_mem_append.mpr ⟨none, ?_⟩
      split <;> cases useTfh <;> decide
    · obtain ⟨quiet, none, split⟩ := family8000_events load useTfh image.sec 2
        (iwlPcieLoadCpuSections8000 load useTfh image.sec 1 0).first
      unfold ofCpu
      rw [split]
      constructor
      · intro done
        dsimp only at done
        refine ⟨quiet.map UcodeEvent.cpu ++ [.cpu .enableInterrupts], .cpu (.finish useTfh 0xFFFFFFFF), ?_,
          List.forall_mem_append.mpr ⟨none, List.forall_mem_singleton.mpr rfl⟩, rfl⟩
        dsimp only
        rw [if_pos done, List.map_append, List.append_assoc]
        rfl
      · intro failed
        dsimp only at failed
        rw [if_neg failed, List.append_nil]
        exact none

end Hands

/-- **What a load of an image comes to.** -/
structure Delivered (variant : CpuVariant) (env : ImageEnv) (debug : DebugSetup) (image : FwImage)
    (device : Device) : Prop where
  /-- It returns 0 exactly when every section it needs is complete. -/
  ret : (ucodeLoad variant (loadRet env) debug image).ret = none ↔ ∀ sec ∈ needed variant image, Complete env sec
  /-- Then, and only then, the device is started. -/
  started : (ucodeLoad variant (loadRet env) debug image).ret = none ↔
    ∃ event ∈ (ucodeLoad variant (loadRet env) debug image).events, starts variant event = true
  /-- Whenever it is started, it has the sections, one over the other, and nothing else has changed. -/
  memory : ∀ before event after, (ucodeLoad variant (loadRet env) debug image).events = before ++ event :: after →
    starts variant event = true →
      device.run env before = ⟨placeAll bankOf device.sram (ranges (needed variant image)), false⟩
  /-- At any time, complete or not, an address that no section has is as it was. -/
  outside : ∀ before after, (ucodeLoad variant (loadRet env) debug image).events = before ++ after →
    ∀ bank address, (∀ range ∈ ranges (needed variant image), byteFor range.1 range.2 address = none) →
      (device.run env before).sram bank address = device.sram bank address

/-- The two variants hand over what is needed, and start the device last. -/
theorem ucodeLoad_hands (variant : CpuVariant) (load : Nat → FwDesc → Option LoadError) (debug : DebugSetup)
    (image : FwImage) : HandsOver load (ucodeLoad variant load debug image) (needed variant image) ∧
      StartsLast variant (ucodeLoad variant load debug image) := by
  cases variant with
  | plain => exact plain_hands load debug image
  | family8000 useTfh => exact family8000_hands load debug image useTfh

/-- A list with one event of a kind, the last one, is split at it. -/
theorem split_last {variant : CpuVariant} {init before after : List UcodeEvent} {last event : UcodeEvent}
    (quiet : Quiet variant init) (split : init ++ [last] = before ++ event :: after)
    (start : starts variant event = true) : before = init := by
  rcases List.append_eq_append_iff.mp split with ⟨more, rfl, rest⟩ | ⟨more, rfl, rest⟩
  · cases more with
    | nil => exact List.append_nil _
    | cons first more =>
      have none := congrArg List.length rest
      simp at none
  · cases more with
    | nil => exact (List.append_nil _).symm
    | cons first more =>
      obtain ⟨rfl, _⟩ := List.cons.inj rest
      have silent := quiet event (List.mem_append_right _ List.mem_cons_self)
      exact absurd (start.symm.trans silent) Bool.noConfusion

/-- **A load of an image**: the device is started exactly when all that it needs is complete, and runs with just that
in its memory. -/
theorem ucodeLoad_delivers (variant : CpuVariant) (env : ImageEnv) (debug : DebugSetup) (image : FwImage)
    (device : Device) (short : ∀ sec ∈ needed variant image, Short sec)
    (calm : ∀ sec ∈ needed variant image, Calm env sec) (clear : device.extended = false) :
    Delivered variant env debug image device := by
  obtain ⟨hands, last⟩ := ucodeLoad_hands variant (loadRet env) debug image
  have ret : (ucodeLoad variant (loadRet env) debug image).ret = none ↔
      ∀ sec ∈ needed variant image, Complete env sec :=
    hands.ret.trans (forall₂_congr fun sec member => loadRet_eq_none (short sec member))
  have done {event : UcodeEvent} (member : event ∈ (ucodeLoad variant (loadRet env) debug image).events)
      (start : starts variant event = true) : (ucodeLoad variant (loadRet env) debug image).ret = none := by
    by_contra failed
    exact absurd (start.symm.trans (last.never failed event member)) Bool.noConfusion
  refine ⟨ret, ⟨fun none => ?_, fun ⟨event, member, start⟩ => done member start⟩, ?_, ?_⟩
  · obtain ⟨before, event, split, _, start⟩ := last.last none
    exact ⟨event, split ▸ List.mem_append_right _ (List.mem_singleton.mpr rfl), start⟩
  · intro before event after split start
    have none := done (split ▸ List.mem_append_right _ List.mem_cons_self) start
    obtain ⟨init, final, whole, quiet, own⟩ := last.last none
    rw [split_last quiet (whole.symm.trans split) start]
    have loads : loadsIn init = needed variant image := by
      have all := hands.whole none
      rw [whole, loadsIn_append] at all
      have silent : loadsIn [final] = [] := by
        cases final with
        | cpu event =>
          cases event with
          | load desc i => cases variant <;> cases own
          | status _ | enableInterrupts | finish _ _ => rfl
        | cpu2Header | applyDestination | wfpmGp2 | enableInterrupts | releaseCpu => rfl
      rwa [silent, List.append_nil] at all
    rw [run_loads, loads]
    exact run_placed short calm (ret.mp none) clear
  · intro before after split bank address outside
    have isPrefix : loadsIn before <+: needed variant image := by
      have all := hands.isPrefix
      rw [split, loadsIn_append] at all
      exact (List.prefix_append _ _).trans all
    refine run_outside (fun sec member => short sec (isPrefix.subset member)) bank fun sec member => ?_
    exact outside _ (List.mem_map_of_mem (isPrefix.subset member))

/-- So a byte that the started device reads is that of the last section that has its address. -/
theorem Delivered.byte {variant : CpuVariant} {env : ImageEnv} {debug : DebugSetup} {image : FwImage} {device : Device}
    (delivered : Delivered variant env debug image device) {before after : List UcodeEvent} {event : UcodeEvent}
    (split : (ucodeLoad variant (loadRet env) debug image).events = before ++ event :: after)
    (start : starts variant event = true) (address : BitVec 32) :
    (device.run env before).sram (bankOf address) address =
      ((ranges (needed variant image)).reverse.findSome? fun range => byteFor range.1 range.2 address).getD
        (device.sram (bankOf address) address) := by
  rw [delivered.memory before event after split start]
  exact (placeAll_latest _).trans (if_pos rfl)

/-! ### The file -/

section File

open IntelWifi.Fw (Firmware IwlUcodeType IwlFw IwlUcodeCapabilities Tlv TlvContent TlvState FwSec GoodLength
  SectionsMended iwlAllocFwDesc iwlAllocUcode iwlParseTlvFirmware sectionWrites slotRecord tlvRecord visitedTlvs)
open TransLocks (cpu1Cpu2SeparatorSection pagingSeparatorSection)

/-- Where a section TLV says its bytes go, and the bytes. -/
def tlvSection (content : TlvContent) : Nat × List UInt8 :=
  match content.type with
  | .inst | .init | .wowlanInst => (Fw.rtcInstLowerBound, content.payload)
  | .data | .initData | .wowlanData => (Fw.rtcDataLowerBound, content.payload)
  | _ => (leAt content.payload 0 4, content.payload.drop 4)

/-- The sections of an image, as the TLVs of a file put and append them. -/
def fileImage (file : Firmware) (type : IwlUcodeType) : List (Nat × List UInt8) :=
  (Slots.fill (sectionWrites type (visitedTlvs file)) []).filterMap
    (Option.map fun tlv => tlvSection (file.content tlv))

/-- The sections before a separator. -/
def beforeSeparator (image : List (Nat × List UInt8)) : List (Nat × List UInt8) :=
  image.takeWhile fun sec => !(sec.1 == cpu1Cpu2SeparatorSection || sec.1 == pagingSeparatorSection)

/-- What a variant is to put into memory of them: up to the first separator, and for a second CPU from there up to the
next one. -/
def fileRanges (variant : CpuVariant) (dualCpus : Bool) (image : List (Nat × List UInt8)) :
    List (BitVec 32 × List UInt8) :=
  let cpu2 := beforeSeparator (image.drop ((beforeSeparator image).length + 1))
  let second := match variant with
    | .plain => if dualCpus then cpu2 else []
    | .family8000 _ => cpu2
  (beforeSeparator image ++ second).map fun sec => (BitVec.ofNat 32 sec.1, sec.2)

/-- A section of the file as a descriptor. -/
def descOf (sec : Nat × List UInt8) : FwDesc := ⟨some sec.2, sec.1⟩

/-- The image that `iwl_alloc_ucode` publishes. -/
def published (file : Firmware) (st : TlvState) (type : IwlUcodeType) : FwImage where
  sec := (iwlAllocUcode file st.pieces type).1.map fun desc => ⟨some desc.data, desc.offset⟩
  isDualCpus := st.fw.isDualCpus type

variable {file : Firmware} {fw : IwlFw} {capa : IwlUcodeCapabilities} {st : TlvState} {type : IwlUcodeType}

/-- A record inside the file that is not empty is copied. -/
theorem allocFwDesc_assigned {data size offset : Nat} (inside : data + size ≤ file.size)
    (some : slice file.data data size ≠ []) :
    iwlAllocFwDesc file (.assigned data size offset) = .ok ⟨slice file.data data size, offset⟩ := by
  have filled : size ≠ 0 := by
    rintro rfl
    exact some List.take_zero
  unfold iwlAllocFwDesc FwSec.assigned
  dsimp only
  rw [if_neg filled]
  exact if_pos inside

/-- A section TLV of good length is copied as it says. -/
theorem allocFwDesc_tlv {tlv : Tlv} (payload : tlv.data + tlv.length ≤ file.size) (good : GoodLength tlv)
    (some : (tlvSection (file.content tlv)).2 ≠ []) :
    iwlAllocFwDesc file (tlvRecord file tlv) =
      .ok ⟨(tlvSection (file.content tlv)).2, (tlvSection (file.content tlv)).1⟩ := by
  obtain ⟨tlvType, data, size⟩ := tlv
  have stored (good : 4 ≤ size ∧ size < 2 ^ 31) (some : (file.payload ⟨tlvType, data, size⟩).drop 4 ≠ []) :
      iwlAllocFwDesc file (.assigned (data + 4) (Fw.secSize size) (leAt file.data data 4)) =
        .ok ⟨(file.payload ⟨tlvType, data, size⟩).drop 4, leAt (file.payload ⟨tlvType, data, size⟩) 0 4⟩ := by
    have same := Option.some.inj (@Fw.section_stored file ⟨tlvType, data, size⟩ payload good.1 good.2)
    obtain ⟨offset, bytes⟩ := Prod.mk.inj same
    rw [← bytes] at some ⊢
    rw [← offset]
    refine allocFwDesc_assigned ?_ some
    rw [Fw.secSize_of_mem good.1 good.2]
    dsimp only at payload
    omega
  cases tlvType with
  | inst | init | wowlanInst | data | initData | wowlanData => exact allocFwDesc_assigned payload some
  | _ => exact stored good some

/-- Every slot filled with a good TLV is published. -/
theorem allocDescs_table {table : List (Option Tlv)}
    (good : ∀ entry ∈ table, ∃ tlv, entry = some tlv ∧ GoodLength tlv ∧ tlv.data + tlv.length ≤ file.size)
    (filled : ∀ sec ∈ table.filterMap (Option.map fun tlv => tlvSection (file.content tlv)), sec.2 ≠ []) :
    Fw.allocDescs file (table.map (slotRecord file)) =
      ((table.filterMap (Option.map fun tlv => tlvSection (file.content tlv))).map fun sec => ⟨sec.2, sec.1⟩, none) := by
  induction table with
  | nil => rfl
  | cons entry later ih =>
    obtain ⟨⟨tlv, rfl, length, payload⟩, rest⟩ := List.forall_mem_cons.mp good
    have first : (some tlv :: later).filterMap (Option.map fun tlv => tlvSection (file.content tlv)) =
        tlvSection (file.content tlv) :: later.filterMap (Option.map fun tlv => tlvSection (file.content tlv)) :=
      List.filterMap_cons_some rfl
    rw [first, List.forall_mem_cons] at filled
    rw [first, List.map_cons, List.map_cons]
    unfold Fw.allocDescs
    rw [show slotRecord file (some tlv) = tlvRecord file tlv from rfl, allocFwDesc_tlv payload length filled.1,
      ih rest filled.2]

/-- **What is published of an accepted file** is its image, when its section TLVs are mended and none is empty. -/
theorem alloc_fileImage [WideShift] (accepted : iwlParseTlvFirmware file (.start fw capa) = some (.ok st))
    (mended : SectionsMended file) (filled : ∀ sec ∈ fileImage file type, sec.2 ≠ []) :
    iwlAllocUcode file st.pieces type = ((fileImage file type).map fun sec => ⟨sec.2, sec.1⟩, none) := by
  unfold iwlAllocUcode
  rw [Fw.records_eq_fill accepted type]
  refine allocDescs_table (fun entry slot => ?_) filled
  obtain ⟨tlv, rfl, length⟩ :=
    (Slots.allGood_iff_mem _).mp ((Slots.fill_all_iff _).mpr (mended type)) entry slot
  exact ⟨tlv, rfl, length, (Fw.mem_visitedTlvs (Fw.mem_sectionTable slot)).1⟩

theorem published_eq [WideShift] (accepted : iwlParseTlvFirmware file (.start fw capa) = some (.ok st))
    (mended : SectionsMended file) (filled : ∀ sec ∈ fileImage file type, sec.2 ≠ []) :
    published file st type = ⟨(fileImage file type).map descOf, st.fw.isDualCpus type⟩ := by
  unfold published
  rw [alloc_fileImage accepted mended filled, List.map_map]
  rfl

/-- Descriptors with data are sections up to a separator. -/
theorem takeWhile_descOf (image : List (Nat × List UInt8)) :
    (image.map descOf).takeWhile FwDesc.isSection = (beforeSeparator image).map descOf := by
  unfold beforeSeparator
  rw [List.takeWhile_map]
  rfl

theorem ranges_zipIdx (image : List (Nat × List UInt8)) (i : Nat) :
    ranges ((image.map descOf).zipIdx i) = image.map fun sec => (BitVec.ofNat 32 sec.1, sec.2) := by
  have same : ranges ((image.map descOf).zipIdx i) = (((image.map descOf).zipIdx i).map Prod.fst).map rangeOf := by
    rw [List.map_map]
    rfl
  rw [same, List.zipIdx_map_fst, List.map_map]
  rfl

/-- What is needed of a published image, in the file's terms. -/
theorem ranges_needed (variant : CpuVariant) (dualCpus : Bool) (image : List (Nat × List UInt8)) :
    ranges (needed variant ⟨image.map descOf, dualCpus⟩) = fileRanges variant dualCpus image := by
  have one : ranges (cpu1Sections (image.map descOf)) =
      (beforeSeparator image).map fun sec => (BitVec.ofNat 32 sec.1, sec.2) := by
    unfold cpu1Sections
    rw [takeWhile_descOf, ranges_zipIdx]
  have two : ranges (cpu2Sections (image.map descOf)) =
      (beforeSeparator (image.drop ((beforeSeparator image).length + 1))).map
        fun sec => (BitVec.ofNat 32 sec.1, sec.2) := by
    unfold cpu2Sections separatorAt
    rw [← List.map_drop, takeWhile_descOf, ranges_zipIdx, takeWhile_descOf, List.length_map]
  have join {sections : List (FwDesc × Nat)} {second : List (Nat × List UInt8)}
      (same : ranges sections = second.map fun sec => (BitVec.ofNat 32 sec.1, sec.2)) :
      ranges (cpu1Sections (image.map descOf) ++ sections) =
        (beforeSeparator image ++ second).map fun sec => (BitVec.ofNat 32 sec.1, sec.2) := by
    rw [List.map_append, ← one, ← same]
    exact List.map_append
  cases variant with
  | plain =>
    cases dualCpus with
    | false => exact @join [] [] rfl
    | true => exact join two
  | family8000 useTfh => exact join two

/-- The sections that are needed are descriptors of the image. -/
theorem needed_mem {variant : CpuVariant} {image : FwImage} {sec : FwDesc × Nat} (member : sec ∈ needed variant image) :
    sec.1 ∈ image.sec := by
  have parts : sec ∈ cpu1Sections image.sec ∨ sec ∈ cpu2Sections image.sec := by
    unfold needed at member
    cases variant with
    | plain =>
      refine (List.mem_append.mp member).imp_right fun second => ?_
      split at second
      · exact second
      · cases second
    | family8000 useTfh => exact List.mem_append.mp member
  rcases parts with one | two
  · have here : sec ∈ ((image.sec.drop 0).takeWhile FwDesc.isSection).zipIdx 0 := one
    exact List.mem_of_getElem? (mem_part here).1
  · exact List.mem_of_getElem? (mem_part two).1

/-- **From the file to the memory of the device.** An accepted file with mended section TLVs, none of them empty, has
its image published, and a load of it is started with the file's sections up to the separators in memory, one over
the other, where they say. -/
theorem file_delivered [WideShift] (accepted : iwlParseTlvFirmware file (.start fw capa) = some (.ok st))
    (mended : SectionsMended file) (filled : ∀ sec ∈ fileImage file type, sec.2 ≠ [])
    (short : ∀ sec ∈ fileImage file type, sec.2.length < 2 ^ 32 - fhMemTbMaxLength) (variant : CpuVariant)
    (env : ImageEnv) (debug : DebugSetup) (device : Device)
    (calm : ∀ sec ∈ needed variant (published file st type), Calm env sec) (clear : device.extended = false) :
    (iwlAllocUcode file st.pieces type).2 = none ∧
      ranges (needed variant (published file st type)) =
        fileRanges variant (st.fw.isDualCpus type) (fileImage file type) ∧
      Delivered variant env debug (published file st type) device := by
  have image := published_eq accepted mended filled
  refine ⟨congrArg Prod.snd (alloc_fileImage accepted mended filled), image ▸ ranges_needed variant _ _, ?_⟩
  refine ucodeLoad_delivers variant env debug _ device (fun sec member => ?_) calm clear
  have own := needed_mem member
  rw [image] at own
  obtain ⟨section', inside, same⟩ := List.mem_map.mp own
  unfold Short toSection
  rw [← same]
  exact short section' inside

set_option maxRecDepth 1000 in
/-- Two CPUs: sections below and in the extended range, a separator, and a section behind it that is put over the
first. -/
def twoCpusFile : Fw.TlvFile where
  header := Fw.smallHeader
  tlvs := [Fw.wordTlv .numOfCpu 2, Fw.pairTlv .secRt 0x800 0x11, Fw.pairTlv .secRt 0x40000 0x22,
    Fw.pairTlv .secRt cpu1Cpu2SeparatorSection 0, Fw.pairTlv .secRt 0x802 0x44]
  size_lt := by
    show 164 < 2 ^ 63
    decide

/-- A section of one chunk is calm when its bytes are on one side. -/
theorem calm_small {sec : FwDesc × Nat} (small : (toSection sec.1).len ≤ fhMemTbMaxLength)
    (side : ∀ j < (toSection sec.1).len, extendedAddr (((toSection sec.1).dstAddr 0 + j) % 2 ^ 32) =
      extendedAddr ((toSection sec.1).dstAddr 0)) : Calm (fun _ => calmEnv) sec := by
  intro k reached
  have one : (toSection sec.1).chunkSz = (toSection sec.1).len := by
    unfold FwSection.chunkSz
    rw [Nat.mod_eq_of_lt (Nat.lt_of_le_of_lt small (by decide)), Nat.min_eq_right small]
  have first : k = 0 := by
    by_contra later
    have second := reached.1 1 (Nat.zero_le 1) (Nat.one_le_iff_ne_zero.mpr later)
    unfold FwSection.chunkOffset at second
    rw [one, Nat.one_mul, Nat.mod_eq_of_lt (Nat.lt_of_le_of_lt small (by decide))] at second
    exact Nat.lt_irrefl _ second
  subst first
  have start : (toSection sec.1).chunkOffset 0 = 0 := by simp [FwSection.chunkOffset]
  refine ⟨fun _ j before => ?_, fun _ _ _ => rfl, fun _ _ => rfl⟩
  rw [start] at before ⊢
  refine side j (Nat.lt_of_lt_of_le before ?_)
  rw [← one]
  exact Nat.min_le_left _ _

section Processor

attribute [local instance] processorShift

set_option maxRecDepth 2000 in
theorem twoCpusFile_delivered :
    ∃ st, iwlParseTlvFirmware twoCpusFile.file (.start .zero Fw.zeroCapabilities) = some (.ok st) ∧
      fileRanges .plain (st.fw.isDualCpus .regular) (fileImage twoCpusFile.file .regular) =
        [(0x800#32, [0x11, 0, 0, 0]), (0x40000#32, [0x22, 0, 0, 0]), (0x802#32, [0x44, 0, 0, 0])] ∧
      (iwlAllocUcode twoCpusFile.file st.pieces .regular).2 = none ∧
      ranges (needed .plain (published twoCpusFile.file st .regular)) =
        fileRanges .plain (st.fw.isDualCpus .regular) (fileImage twoCpusFile.file .regular) ∧
      Delivered .plain (fun _ => calmEnv) ⟨false, false, false⟩ (published twoCpusFile.file st .regular)
        ⟨fun _ _ => 0, false⟩ := by
  have mended : SectionsMended twoCpusFile.file := by
    intro type
    cases type with
    | regular =>
      have good {data : Nat} : GoodLength ⟨.secRt, data, 8⟩ := by
        show 4 ≤ 8 ∧ 8 < 2 ^ 31
        decide
      exact ⟨.inl good, .inl good, .inl good, .inl good, trivial⟩
    | init | wowlan | regularUsniffer => exact trivial
  have image : fileImage twoCpusFile.file .regular = [(0x800, [0x11, 0, 0, 0]), (0x40000, [0x22, 0, 0, 0]),
      (cpu1Cpu2SeparatorSection, [0, 0, 0, 0]), (0x802, [0x44, 0, 0, 0])] := rfl
  have data : ∀ sec ∈ fileImage twoCpusFile.file .regular, sec.2 ≠ [] ∧ sec.2.length < 2 ^ 32 - fhMemTbMaxLength := by
    rw [image]
    decide
  obtain ⟨st, accepted, dual⟩ : ∃ st, iwlParseTlvFirmware twoCpusFile.file (.start .zero Fw.zeroCapabilities) =
      some (.ok st) ∧ st.fw.isDualCpus .regular = true := ⟨_, rfl, rfl⟩
  refine ⟨st, accepted, ?_, file_delivered accepted mended (fun sec member => (data sec member).1)
    (fun sec member => (data sec member).2) .plain _ _ _ (fun sec member => ?_) rfl⟩
  · rw [dual, image]
    decide
  · have own := needed_mem member
    rw [published_eq accepted mended fun sec member => (data sec member).1, image] at own
    obtain ⟨desc, index⟩ := sec
    have sides : ∀ desc ∈ [(0x800, [0x11, 0, 0, 0]), (0x40000, [0x22, 0, 0, 0]),
        (cpu1Cpu2SeparatorSection, [0, 0, 0, 0]), (0x802, [0x44, 0, 0, 0])].map descOf,
        (toSection desc).len ≤ fhMemTbMaxLength ∧
          ∀ j < (toSection desc).len, extendedAddr (((toSection desc).dstAddr 0 + j) % 2 ^ 32) =
            extendedAddr ((toSection desc).dstAddr 0) := by decide
    exact calm_small (sides desc own).1 (sides desc own).2

end Processor

end File

end IntelWifi.Pcie.Image
