/-
**The sections of the two CPUs.**

An image is a list of sections for the first CPU, a separator, and sections for the second one, up to
another separator. Both variants of `iwl_pcie_load_cpu_sections` are called once for each CPU, and what the
first call leaves in `first_ucode_section` tells the second one where to begin: the separator, or the last
section when there was none.

What a load of a section returns is a parameter.

* `cpuSections_loaded`: the two calls load the sections before and behind the first separator.
-/

import IntelWifi.Pcie.LoadSection
import IntelWifi.Pcie.TransLocks
import Mathlib.Data.List.TakeWhile

namespace IntelWifi.Pcie

open TransLocks (cpu1Cpu2SeparatorSection pagingSeparatorSection)

/-- `struct fw_desc`; `data` is none for a null pointer. -/
structure FwDesc where
  data : Option (List UInt8)
  offset : Nat
  deriving DecidableEq, Repr

/-- A section to load: it has data, and no separator's offset. -/
def FwDesc.isSection (desc : FwDesc) : Bool :=
  !(desc.data.isNone || desc.offset == cpu1Cpu2SeparatorSection || desc.offset == pagingSeparatorSection)

/-- What a call does. -/
inductive LoadEvent where
  /-- `iwl_pcie_load_section`. -/
  | load (desc : FwDesc) (i : Nat)
  /-- Bits are added to `FH_UCODE_LOAD_STATUS`. -/
  | status (bits : BitVec 32)
  | enableInterrupts
  /-- The last value for `UREG_UCODE_LOAD_STATUS`, with a TFH, or for `FH_UCODE_LOAD_STATUS`. -/
  | finish (useTfh : Bool) (value : BitVec 32)
  deriving DecidableEq

/-- What a call returns, leaves in `first_ucode_section`, and does. -/
structure CpuLoad where
  ret : Option LoadError
  first : Nat
  events : List LoadEvent

/-- The sections that are loaded, with their indices. -/
def loadsOf (events : List LoadEvent) : List (FwDesc × Nat) :=
  events.filterMap fun
    | .load desc i => some (desc, i)
    | .status _ | .enableInterrupts | .finish _ _ => none

section Model

variable (load : Nat → FwDesc → Option LoadError)

/-- The loop over the sections from index `i` on; `first` is `last_read_idx`. The 8000 family is told of each
section with `sec_num`, shifted. -/
def cpuLoop (shiftParam : Option Nat) : List FwDesc → Nat → BitVec 32 → Nat → CpuLoad
  | [], _, _, lastReadIdx => ⟨none, lastReadIdx, []⟩
  | desc :: later, i, secNum, _ =>
    if desc.isSection then
      match load i desc with
      | some error => ⟨some error, i, [.load desc i]⟩
      | none =>
        let rest := cpuLoop shiftParam later (i + 1) ((secNum <<< 1) ||| 1) i
        { rest with
          events := .load desc i ::
            (((shiftParam.map (secNum <<< ·)).map .status).toList ++ rest.events) }
    else ⟨none, i, []⟩

/-- The index a call begins with. -/
def firstSection (cpu first : Nat) : Nat := if cpu = 1 then 0 else first + 1

/-- `iwl_pcie_load_cpu_sections`. -/
def iwlPcieLoadCpuSections (image : List FwDesc) (cpu first : Nat) : CpuLoad :=
  let first := firstSection cpu first
  let loaded := cpuLoop load none (image.drop first) first 1 0
  if loaded.ret = none then loaded else { loaded with first := first }

/-- `iwl_pcie_load_cpu_sections_8000`. -/
def iwlPcieLoadCpuSections8000 (useTfh : Bool) (image : List FwDesc) (cpu first : Nat) : CpuLoad :=
  let first := firstSection cpu first
  let loaded := cpuLoop load (some (if cpu = 1 then 0 else 16)) (image.drop first) first 1 0
  if loaded.ret = none then
    { loaded with
      events := loaded.events ++ [.enableInterrupts, .finish useTfh (if cpu = 1 then 0xFFFF else 0xFFFFFFFF)] }
  else { loaded with first := first }

/-- The two variants; the second one looks at `use_tfh`. -/
inductive CpuVariant where
  | plain
  | family8000 (useTfh : Bool)

/-- The call of a variant. -/
def CpuVariant.call (variant : CpuVariant) : List FwDesc → Nat → Nat → CpuLoad :=
  match variant with
  | .plain => iwlPcieLoadCpuSections load
  | .family8000 useTfh => iwlPcieLoadCpuSections8000 load useTfh

end Model

/-! ### The parts of an image -/

/-- How many sections are before the first separator. -/
def separatorAt (image : List FwDesc) : Nat := (image.takeWhile FwDesc.isSection).length

/-- The sections before the first separator, with their indices. -/
def cpu1Sections (image : List FwDesc) : List (FwDesc × Nat) := (image.takeWhile FwDesc.isSection).zipIdx

/-- The sections between the first and the second separator. -/
def cpu2Sections (image : List FwDesc) : List (FwDesc × Nat) :=
  ((image.drop (separatorAt image + 1)).takeWhile FwDesc.isSection).zipIdx (separatorAt image + 1)

/-- A call loads the sections, in order, up to one that fails; all of them when it returns 0. -/
structure Loads (load : Nat → FwDesc → Option LoadError) (cpuLoad : CpuLoad) (sections : List (FwDesc × Nat)) :
    Prop where
  isPrefix : loadsOf cpuLoad.events <+: sections
  whole : cpuLoad.ret = none → loadsOf cpuLoad.events = sections
  ret : cpuLoad.ret = none ↔ ∀ sec ∈ sections, load sec.2 sec.1 = none

section Loop

variable (load : Nat → FwDesc → Option LoadError) (shiftParam : Option Nat)

theorem loadsOf_section (desc : FwDesc) (i : Nat) (bits : Option (BitVec 32)) (events : List LoadEvent) :
    loadsOf (.load desc i :: ((bits.map .status).toList ++ events)) = (desc, i) :: loadsOf events := by
  cases bits <;> rfl

/-- The loop loads the run of sections it begins with. -/
theorem cpuLoop_loads (descs : List FwDesc) (i : Nat) (secNum : BitVec 32) (lastReadIdx : Nat) :
    Loads load (cpuLoop load shiftParam descs i secNum lastReadIdx)
      ((descs.takeWhile FwDesc.isSection).zipIdx i) := by
  induction descs generalizing i secNum lastReadIdx with
  | nil => exact ⟨List.prefix_refl _, fun _ => rfl, fun _ _ none => (nomatch none), fun _ => rfl⟩
  | cons desc later ih =>
    unfold cpuLoop
    by_cases isSection : desc.isSection = true
    · rw [if_pos isSection, List.takeWhile_cons_of_pos isSection, List.zipIdx_cons]
      cases failed : load i desc with
      | some error =>
        refine ⟨List.prefix_append [_] _, (nomatch ·), (nomatch ·), fun all => ?_⟩
        have loaded := all _ List.mem_cons_self
        rw [failed] at loaded
        cases loaded
      | none =>
        have rest := ih (i + 1) ((secNum <<< 1) ||| 1) i
        refine ⟨?_, fun none => ?_, fun none sec member => ?_, fun all => ?_⟩
        · rw [loadsOf_section]
          exact (List.prefix_cons_inj _).mpr rest.isPrefix
        · rw [loadsOf_section, rest.whole none]
        · rcases List.mem_cons.mp member with rfl | member
          · exact failed
          · exact rest.ret.mp none sec member
        · exact rest.ret.mpr fun sec member => all sec (List.mem_cons_of_mem _ member)
    · rw [if_neg isSection, List.takeWhile_cons_of_neg isSection]
      exact ⟨List.prefix_refl _, fun _ => rfl, fun _ _ none => (nomatch none), fun _ => rfl⟩

/-- Where the loop stops: at the separator, or behind the last section. -/
theorem cpuLoop_first (descs : List FwDesc) (i : Nat) (secNum : BitVec 32) (lastReadIdx : Nat)
    (before : i ≤ lastReadIdx + 1) (done : (cpuLoop load shiftParam descs i secNum lastReadIdx).ret = none) :
    (separatorAt descs < descs.length →
      (cpuLoop load shiftParam descs i secNum lastReadIdx).first = i + separatorAt descs) ∧
    (separatorAt descs = descs.length →
      i + descs.length ≤ (cpuLoop load shiftParam descs i secNum lastReadIdx).first + 1) := by
  induction descs generalizing i secNum lastReadIdx with
  | nil => exact ⟨fun short => absurd short (Nat.lt_irrefl _), fun _ => before⟩
  | cons desc later ih =>
    unfold cpuLoop at done ⊢
    unfold separatorAt at ih ⊢
    by_cases isSection : desc.isSection = true
    · rw [if_pos isSection] at done ⊢
      rw [List.takeWhile_cons_of_pos isSection, List.length_cons, List.length_cons]
      cases failed : load i desc with
      | some error =>
        rw [failed] at done
        cases done
      | none =>
        rw [failed] at done
        obtain ⟨stops, ends⟩ := ih (i + 1) ((secNum <<< 1) ||| 1) i (Nat.le_refl _) done
        refine ⟨fun short => ?_, fun all => ?_⟩
        · have := stops (by omega)
          dsimp only
          omega
        · have := ends (by omega)
          dsimp only
          omega
    · rw [if_neg isSection, List.takeWhile_cons_of_neg isSection]
      exact ⟨fun _ => rfl, fun none => (nomatch none)⟩

end Loop

theorem Loads.of_eq {load : Nat → FwDesc → Option LoadError} {cpuLoad loaded : CpuLoad}
    {sections : List (FwDesc × Nat)} (loads : Loads load loaded sections) (ret : cpuLoad.ret = loaded.ret)
    (events : loadsOf cpuLoad.events = loadsOf loaded.events) : Loads load cpuLoad sections := by
  constructor
  · rw [events]
    exact loads.isPrefix
  · rw [events, ret]
    exact loads.whole
  · rw [ret]
    exact loads.ret

/-- What a call loads and leaves is what its loop does. -/
theorem call_loop (variant : CpuVariant) (load : Nat → FwDesc → Option LoadError) (image : List FwDesc)
    (cpu first : Nat) : ∃ loaded shiftParam,
      loaded = cpuLoop load shiftParam (image.drop (firstSection cpu first)) (firstSection cpu first) 1 0 ∧
        (variant.call load image cpu first).ret = loaded.ret ∧
        loadsOf (variant.call load image cpu first).events = loadsOf loaded.events ∧
        (loaded.ret = none → (variant.call load image cpu first).first = loaded.first) := by
  cases variant with
  | plain =>
    refine ⟨cpuLoop load none (image.drop (firstSection cpu first)) (firstSection cpu first) 1 0, _, rfl, ?_⟩
    unfold CpuVariant.call iwlPcieLoadCpuSections
    by_cases done :
        (cpuLoop load none (image.drop (firstSection cpu first)) (firstSection cpu first) 1 0).ret = none
    · dsimp only
      rw [if_pos done]
      exact ⟨rfl, rfl, fun _ => rfl⟩
    · dsimp only
      rw [if_neg done]
      exact ⟨rfl, rfl, fun none => absurd none done⟩
  | family8000 useTfh =>
    refine ⟨cpuLoop load (some (if cpu = 1 then 0 else 16)) (image.drop (firstSection cpu first))
      (firstSection cpu first) 1 0, _, rfl, ?_⟩
    unfold CpuVariant.call iwlPcieLoadCpuSections8000
    by_cases done : (cpuLoop load (some (if cpu = 1 then 0 else 16)) (image.drop (firstSection cpu first))
        (firstSection cpu first) 1 0).ret = none
    · dsimp only
      rw [if_pos done]
      refine ⟨rfl, ?_, fun _ => rfl⟩
      unfold loadsOf
      rw [List.filterMap_append]
      exact List.append_nil _
    · dsimp only
      rw [if_neg done]
      exact ⟨rfl, rfl, fun none => absurd none done⟩

/-- The call for CPU 2 begins behind the separator, or behind the image. -/
theorem drop_first {image : List FwDesc} {first : Nat}
    (stops : separatorAt image < image.length → first = separatorAt image)
    (ends : separatorAt image = image.length → image.length ≤ first + 1) :
    ((image.drop (first + 1)).takeWhile FwDesc.isSection).zipIdx (first + 1) = cpu2Sections image := by
  have most : separatorAt image ≤ image.length := (List.takeWhile_sublist _).length_le
  unfold cpu2Sections
  rcases Nat.eq_or_lt_of_le most with all | short
  · rw [List.drop_of_length_le (ends all), List.drop_of_length_le (by omega)]
    rfl
  · rw [stops short]

/-- Each section of a part is the one at its index. -/
theorem mem_part {image : List FwDesc} {start : Nat} {sec : FwDesc × Nat}
    (member : sec ∈ ((image.drop start).takeWhile FwDesc.isSection).zipIdx start) :
    image[sec.2]? = some sec.1 ∧ sec.1.isSection = true := by
  obtain ⟨after, here⟩ := List.mem_zipIdx_iff_le_and_getElem?_sub.mp member
  refine ⟨?_, List.mem_takeWhile_imp (List.mem_of_getElem? here)⟩
  have inside := (List.getElem?_eq_some_iff.mp here).1
  have same : (image.drop start)[sec.2 - start]? = some sec.1 := by
    rw [← @List.takeWhile_append_dropWhile _ FwDesc.isSection (image.drop start), List.getElem?_append_left inside]
    exact here
  rwa [List.getElem?_drop, Nat.add_sub_cancel' after] at same

/-- **The sections of the two CPUs.** In both variants the call for CPU 1 loads the sections before the first
separator, and the call for CPU 2 behind it those up to the next separator, in order, each with its index in the
image; a section that fails ends the call. -/
theorem cpuSections_loaded (variant : CpuVariant) (load : Nat → FwDesc → Option LoadError)
    (image : List FwDesc) (first : Nat) :
    let one := variant.call load image 1 first
    let two := variant.call load image 2 one.first
    Loads load one (cpu1Sections image) ∧ (one.ret = none → Loads load two (cpu2Sections image)) ∧
      ((cpu1Sections image ++ cpu2Sections image).map Prod.snd).Nodup ∧
      ∀ sec ∈ cpu1Sections image ++ cpu2Sections image,
        image[sec.2]? = some sec.1 ∧ sec.1.isSection = true := by
  intro one two
  obtain ⟨loaded1, shift1, loop1, ret1, events1, first1⟩ := call_loop variant load image 1 first
  obtain ⟨loaded2, shift2, loop2, ret2, events2, _⟩ := call_loop variant load image 2 one.first
  rw [show firstSection 1 first = 0 from rfl, List.drop_zero] at loop1
  rw [show firstSection 2 one.first = one.first + 1 from rfl] at loop2
  refine ⟨?_, fun done => ?_, ?_, ?_⟩
  · have loads : Loads load loaded1 (cpu1Sections image) := loop1 ▸ cpuLoop_loads load shift1 image 0 1 0
    exact loads.of_eq ret1 events1
  · have none1 : loaded1.ret = none := ret1.symm.trans done
    have firstEq : one.first = loaded1.first := first1 none1
    rw [loop1] at none1 firstEq
    obtain ⟨stops, ends⟩ := cpuLoop_first load shift1 image 0 1 0 (Nat.zero_le _) none1
    have loads := cpuLoop_loads load shift2 (image.drop (one.first + 1)) (one.first + 1) 1 0
    rw [← loop2, drop_first (fun short => ?_) (fun all => ?_)] at loads
    · exact loads.of_eq ret2 events2
    · rw [firstEq, stops short, Nat.zero_add]
    · rw [firstEq, ← Nat.zero_add image.length]
      exact ends all
  · unfold cpu1Sections cpu2Sections
    rw [List.map_append, List.zipIdx_map_snd, List.zipIdx_map_snd]
    refine List.nodup_append.mpr ⟨List.nodup_range', List.nodup_range', fun i before j behind => ?_⟩
    have first := (List.mem_range'_1.mp before).2
    have second := (List.mem_range'_1.mp behind).1
    unfold separatorAt at second
    omega
  · intro sec member
    rcases List.mem_append.mp member with one | two
    · have here : sec ∈ ((image.drop 0).takeWhile FwDesc.isSection).zipIdx 0 := one
      exact mem_part here
    · exact mem_part two

/-- A section for each CPU, and behind the second separator one for neither. -/
def dualImage : List FwDesc :=
  [⟨some [1], 0⟩, ⟨some [0], cpu1Cpu2SeparatorSection⟩, ⟨some [2], 8⟩, ⟨none, 0⟩, ⟨some [3], 16⟩]

example : cpu1Sections dualImage = [(⟨some [1], 0⟩, 0)] ∧ cpu2Sections dualImage = [(⟨some [2], 8⟩, 2)] := by
  decide

end IntelWifi.Pcie
