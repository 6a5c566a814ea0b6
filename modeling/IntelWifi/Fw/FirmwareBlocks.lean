/-
**The blocks of a firmware, from the callback to `iwl_drv_stop`.**

The parser allocates section arrays and an array of memory segments, `iwl_alloc_ucode` the descriptors and
their data. The parser replaces an array without releasing the old one; `iwl_dealloc_ucode` releases what
`drv->fw` holds and clears no pointer, and runs on the callback's error path and again when the driver stops.

* `parseTlvArrays_fst`: the arrays are recorded along the parser of `IntelWifi.Fw.Allocations`.
* `plan_outFree_iff`: the plan of a callback leaves as `loadFirmware` does.
* `freesOnce_iff`: when a callback and a stop release each block once, and the runs of callbacks that do.
-/

import IntelWifi.Lib.Heap
import IntelWifi.Fw.FirmwareRequest

namespace IntelWifi.Fw

open IntelWifi.Bytes IntelWifi.Checked IntelWifi.Heap IntelWifi.Loop IntelWifi.Slots IntelWifi.Porting

/-- The blocks: an array of section records and one of memory segments, numbered as the parser allocates
them, and the descriptors of an image and their data. -/
inductive FwBlock where
  | sections (type : IwlUcodeType) (k : Nat)
  | memSegs (k : Nat)
  | descs (type : IwlUcodeType)
  | data (type : IwlUcodeType) (sec : Nat)
  deriving DecidableEq

/-- A block, with the number of the callback that allocates it. -/
abbrev BlockName := Nat × FwBlock

/-! ### The parser's arrays -/

/-- How many arrays the parser has allocated for each image, and for the memory segments. It holds the
last ones. -/
structure ParserArrays where
  sections : IwlUcodeType → Nat
  memSegs : Nat

def ParserArrays.zero : ParserArrays := ⟨fun _ => 0, 0⟩

/-- A write to an array of `n` records needs a new one. -/
def needsArray (n : Nat) : Write Tlv → Bool
  | .put slot _ => decide (n < slot + 1)
  | .append _ => true

/-- What a TLV the parser goes on after has allocated. -/
def ParserArrays.after (blocks : Blocks) (st : TlvState) (tlv : Tlv) (arrays : ParserArrays) : ParserArrays :=
  if !blocks.tlv tlv.data then arrays
  else
    match sectionWrite tlv with
    | some (type, write) =>
      if needsArray (st.pieces.img type).length write then
        { arrays with sections := Function.update arrays.sections type (arrays.sections type + 1) }
      else arrays
    | none => if tlv.type = .fwMemSeg then { arrays with memSegs := arrays.memSegs + 1 } else arrays

/-- The same of the TLV at a loop head. -/
def noteArrays (blocks : Blocks) (file : Firmware) (head : Cursor × TlvState) (arrays : ParserArrays) :
    ParserArrays :=
  match nextTlv file head.1 with
  | .ok (tlv, _) => arrays.after blocks head.2 tlv
  | .error _ => arrays

/-- `iwl_parse_tlv_firmware`, and the arrays it has allocated when it ends. -/
def parseTlvArrays [WideShift] (blocks : Blocks) (file : Firmware) (st : TlvState) :
    Outcome Errno TlvState × ParserArrays :=
  match checked (tlvHeader file st) with
  | .error stop => (.error stop, .zero)
  | .ok entry =>
    match run (withRecord (turnIn blocks file) (noteArrays blocks file)) (tlvFuel file) (entry, .zero) with
    | none => (.error .fault, .zero)
    | some (left, arrays) => (left >>= fun (cur, st) => checked (tlvFinish cur st), arrays)

/-- The arrays of `iwl_parse_v1_v2_firmware`: `set_sec_size` writes the INST records first. -/
def v1v2Arrays (file : Firmware) : ParserArrays :=
  if file.size < file.ucodeHeader.size then .zero
  else ⟨fun type => if type = .regular ∨ type = .init then 1 else 0, 0⟩

/-- The parser of a file, and its arrays. -/
def parseArrays [WideShift] (env : LoadEnv) (file : Firmware) : Outcome Errno TlvState × ParserArrays :=
  if leAt file.data 0 4 ≠ 0 then (parseFirmware env file, v1v2Arrays file)
  else parseTlvArrays env.memory.blocks file (.start .zero defaultCapabilities)

theorem parseTlvArrays_fst [WideShift] (blocks : Blocks) (file : Firmware) (st : TlvState) :
    (parseTlvArrays blocks file st).1 = parseTlvFirmware blocks file st := by
  unfold parseTlvArrays parseTlvFirmware
  cases checked (tlvHeader file st) with
  | error stop => rfl
  | ok entry =>
    have same := @run_withRecord _ _ (turnIn blocks file) _ (noteArrays blocks file) (tlvFuel file) entry .zero
    dsimp only
    rw [ok_bind, ← same]
    cases run (withRecord (turnIn blocks file) (noteArrays blocks file)) (tlvFuel file) (entry, .zero) <;> rfl

/-- The recorded parser is that of `loadFirmware`. -/
theorem parseArrays_fst [WideShift] (env : LoadEnv) (file : Firmware) :
    (parseArrays env file).1 = parseFirmware env file := by
  unfold parseArrays
  by_cases old : leAt file.data 0 4 ≠ 0
  · rw [if_pos old]
  · rw [if_neg old, parseTlvArrays_fst]
    unfold parseFirmware
    rw [if_neg old]

/-! ### The plan of a callback -/

/-- An image of `drv->fw`: `num_sec`, and how many of its descriptors have data. -/
structure PublishedImage where
  type : IwlUcodeType
  numSec : Nat
  filled : Nat

/-- `iwl_alloc_fw_desc` does not fail. -/
def descMet (memory : Memory) (type : IwlUcodeType) (sec : Nat) (record : FwSec) : Bool :=
  memory.sizeOf type sec record != 0 && memory.desc type sec

/-- The loop of `iwl_alloc_ucode`, from record `sec` on: how many descriptors it fills. -/
def filledDescs (memory : Memory) (type : IwlUcodeType) : Nat → List FwSec → Nat
  | _, [] => 0
  | sec, record :: rest => if descMet memory type sec record then filledDescs memory type (sec + 1) rest + 1 else 0

/-- The calls of `iwl_alloc_ucode`: the images they publish, and whether none fails. -/
def publishImages (memory : Memory) (pieces : IwlFirmwarePieces) : List IwlUcodeType → List PublishedImage × Bool
  | [] => ([], true)
  | type :: later =>
    if !memory.descs type then ([], false)
    else
      let filled := filledDescs memory type 0 (pieces.img type)
      let image : PublishedImage := ⟨type, (pieces.img type).length, filled⟩
      if filled = (pieces.img type).length then
        (image :: (publishImages memory pieces later).1, (publishImages memory pieces later).2)
      else ([image], false)

/-- The images, in the order of `enum iwl_ucode_type`. -/
def ucodeTypes : List IwlUcodeType := [.regular, .init, .wowlan, .regularUsniffer]

/-- **What a callback does with blocks**: the parser's arrays, the images it publishes, whether it takes the
memory segments over, and whether it leaves through `out_free_fw`. -/
structure CallPlan where
  arrays : ParserArrays
  images : List PublishedImage
  moved : Bool
  outFree : Bool

/-- The debug copies succeed. -/
def debugCopied (st : TlvState) : Bool :=
  match copyDebug st with
  | .ok _ => true
  | .error _ => false

/-- The parsed file passes the checks before `iwl_alloc_ucode`. -/
def passesChecks [WideShift] (env : LoadEnv) (st : TlvState) : Bool :=
  !decide (apiVer st < env.cfg.ucodeApiMin ∨ apiVer st > env.cfg.ucodeApiMax) &&
    match checkSecSizes env st with
    | .ok _ => true
    | .error _ => false

/-- From the parsed file on. -/
def installPlan [WideShift] (env : LoadEnv) (st : TlvState) (arrays : ParserArrays) : CallPlan :=
  if !passesChecks env st then ⟨arrays, [], false, false⟩
  else
    let (images, whole) := publishImages env.memory st.pieces ucodeTypes
    if whole && debugCopied st then ⟨arrays, images, true, false⟩ else ⟨arrays, images, false, true⟩

/-- `iwl_req_fw_callback`. -/
def planOf [WideShift] (env : LoadEnv) (ucodeRaw : Option Firmware) : CallPlan :=
  if !env.memory.pieces then ⟨.zero, [], false, true⟩
  else
    match ucodeRaw with
    | none => ⟨.zero, [], false, false⟩
    | some file =>
      if file.size < 4 then ⟨.zero, [], false, false⟩
      else
        match parseArrays env file with
        | (.error _, arrays) => ⟨arrays, [], false, false⟩
        | (.ok st, arrays) => installPlan env st arrays

/-! ### The plan leaves as `loadFirmware` does -/

theorem descMet_iff {memory : Memory} {type : IwlUcodeType} {sec : Nat} {record : FwSec} :
    descMet memory type sec record = true ↔ DescLoads memory type sec record := by
  unfold descMet DescLoads
  rw [Bool.and_eq_true, bne_iff_ne]

/-- All descriptors are filled when every record is copied. -/
theorem filledDescs_eq_length {memory : Memory} {type : IwlUcodeType} {sec : Nat} {records : List FwSec} :
    filledDescs memory type sec records = records.length ↔
      ∀ i record, records[i]? = some record → DescLoads memory type (sec + i) record := by
  induction records generalizing sec with
  | nil => exact iff_of_true rfl fun i record none => (nomatch none)
  | cons first rest ih =>
    rw [filledDescs, List.length_cons]
    by_cases met : descMet memory type sec first = true
    · rw [if_pos met, Nat.succ_inj, ih]
      constructor
      · rintro later (_ | i) record here
        · exact Option.some.inj here ▸ descMet_iff.mp met
        · have loads := later i record here
          rwa [Nat.add_right_comm, Nat.add_assoc] at loads
      · intro all i record here
        rw [Nat.add_right_comm, Nat.add_assoc]
        exact all (i + 1) record here
    · rw [if_neg met]
      exact iff_of_false (Nat.succ_ne_zero _).symm fun all => met (descMet_iff.mpr (all 0 first rfl))

theorem publishImages_whole_iff (memory : Memory) (pieces : IwlFirmwarePieces) (types : List IwlUcodeType) :
    (publishImages memory pieces types).2 = true ↔ ∀ type ∈ types, ImageLoads memory pieces type := by
  induction types with
  | nil => exact iff_of_true rfl fun _ member => (nomatch member)
  | cons type later ih =>
    rw [publishImages, List.forall_mem_cons, ← ih]
    cases met : memory.descs type with
    | false => exact iff_of_false Bool.false_ne_true fun both => absurd (met ▸ both.1.descs) Bool.false_ne_true
    | true =>
      rw [if_neg (by decide)]
      dsimp only
      have filled := @filledDescs_eq_length memory type 0 (pieces.img type)
      simp only [Nat.zero_add] at filled
      by_cases full : filledDescs memory type 0 (pieces.img type) = (pieces.img type).length
      · rw [if_pos full]
        exact (and_iff_right ⟨met, filled.mp full⟩).symm
      · rw [if_neg full]
        exact iff_of_false Bool.false_ne_true fun both => full (filled.mpr both.1.sections)

/-- The four images are allocated when no call fails. -/
theorem allocImages_ok_iff {env : LoadEnv} {file : Firmware} {st : TlvState}
    (safe : Safe (allocImages env file st)) :
    (publishImages env.memory st.pieces ucodeTypes).2 = true ↔ ∃ img, allocImages env file st = .ok img := by
  rw [publishImages_whole_iff, (allocImages_decides env file st).value_iff safe]
  refine ⟨fun all type => all type ?_, fun all type _ => all type⟩
  cases type <;> decide

/-- A debug copy that stops leaves through `out_free_fw`. -/
theorem each_exit {check : Nat → Outcome Exit Unit} {exit : Exit} {ids : List Nat}
    (one : ∀ i e, check i = .error (.error e) → e = exit) {e : Exit} (stops : each check ids = .error (.error e)) :
    e = exit := by
  induction ids with
  | nil => cases stops
  | cons i later ih =>
    rw [each] at stops
    cases first : check i with
    | ok done =>
      rw [first] at stops
      exact ih stops
    | error stop =>
      rw [first] at stops
      cases stops
      exact one i e first

theorem copyToNull_exit {len : Nat} {e : Exit} (stops : copyToNull len = .error (.error e)) : e = .outFreeFw := by
  unfold copyToNull at stops
  split at stops <;> cases stops
  rfl

theorem copyDebug_exit {st : TlvState} {e : Exit} (stops : copyDebug st = .error (.error e)) : e = .outFreeFw := by
  have conf : ∀ i e, copyDbgConf st i = .error (.error e) → e = .outFreeFw := by
    intro i e stops
    unfold copyDbgConf at stops
    split at stops
    · cases stops
    · exact copyToNull_exit stops
  have trigger : ∀ i e, copyDbgTrigger st i = .error (.error e) → e = .outFreeFw := by
    intro i e stops
    unfold copyDbgTrigger at stops
    split at stops
    · cases stops
    · split at stops
      · cases stops
        rfl
      · exact copyToNull_exit stops
  unfold copyDebug at stops
  cases dest : copyDbgDest st with
  | error stop =>
    rw [dest] at stops
    cases stops
    unfold copyDbgDest at dest
    split at dest
    · cases dest
    · exact copyToNull_exit dest
  | ok done =>
    rw [dest, ok_bind] at stops
    cases confs : each (copyDbgConf st) (List.range fwDbgConfMax) with
    | error stop =>
      rw [confs] at stops
      cases stops
      exact each_exit conf confs
    | ok done =>
      rw [confs] at stops
      exact each_exit trigger stops

theorem sectionFits_exit {memory : Memory} {pieces : IwlFirmwarePieces} {type : IwlUcodeType} {sec limit : Nat}
    {e : Exit} (stops : sectionFits memory pieces type sec limit = .error (.error e)) : e = .tryAgain := by
  unfold sectionFits at stops
  split at stops
  · cases stops
  · split at stops <;> cases stops
    rfl

theorem checkSecSizes_exit {env : LoadEnv} {st : TlvState} {e : Exit}
    (stops : checkSecSizes env st = .error (.error e)) : e = .tryAgain := by
  unfold checkSecSizes at stops
  split at stops
  · unfold validateSecSizes at stops
    cases first : sectionFits env.memory st.pieces .regular sectionInst env.cfg.maxInstSize with
    | error stop =>
      rw [first] at stops
      cases stops
      exact sectionFits_exit first
    | ok done =>
      rw [first, ok_bind] at stops
      cases second : sectionFits env.memory st.pieces .regular sectionData env.cfg.maxDataSize with
      | error stop =>
        rw [second] at stops
        cases stops
        exact sectionFits_exit second
      | ok done =>
        rw [second, ok_bind] at stops
        cases third : sectionFits env.memory st.pieces .init sectionInst env.cfg.maxInstSize with
        | error stop =>
          rw [third] at stops
          cases stops
          exact sectionFits_exit third
        | ok done =>
          rw [third, ok_bind] at stops
          exact sectionFits_exit stops
  · cases stops

/-- From the parsed file on. -/
theorem installPlan_outFree_iff [WideShift] {env : LoadEnv} {file : Firmware} {st : TlvState} (arrays : ParserArrays)
    (returns : Safe (installFirmware env file st)) :
    (installPlan env st arrays).outFree = true ↔ installFirmware env file st = .error (.error .outFreeFw) := by
  unfold installFirmware at returns ⊢
  unfold installPlan passesChecks
  by_cases refused : apiVer st < env.cfg.ucodeApiMin ∨ apiVer st > env.cfg.ucodeApiMax
  · rw [if_pos refused]
    simp [refused]
  · rw [if_neg refused] at returns ⊢
    cases sizes : checkSecSizes env st with
    | error stop =>
      rw [sizes] at returns
      cases stop with
      | fault => exact absurd returns not_safe_fault
      | error e =>
        rw [checkSecSizes_exit sizes]
        simp [refused, bind, Except.bind]
    | ok done =>
      rw [sizes, ok_bind] at returns
      rw [ok_bind]
      simp only [refused, decide_false, Bool.not_false, Bool.and_self, Bool.not_true, Bool.false_eq_true,
        if_false]
      have allocated := fun safe => @allocImages_ok_iff env file st safe
      cases images : allocImages env file st with
      | error stop =>
        rw [images] at returns allocated
        cases stop with
        | fault => exact absurd returns not_safe_fault
        | error e =>
          have fails : (publishImages env.memory st.pieces ucodeTypes).2 ≠ true := fun whole =>
            (nomatch ((allocated (safe_error e)).mp whole).choose_spec)
          simp [fails, orGoto, bind, Except.bind]
      | ok img =>
        rw [images] at allocated
        have whole := (allocated (safe_ok img)).mpr ⟨img, rfl⟩
        have through : orGoto .outFreeFw (.ok img : Outcome Errno (IwlUcodeType → List FwDesc)) = .ok img := rfl
        rw [images, through, ok_bind] at returns
        rw [through, ok_bind, whole, Bool.true_and]
        unfold debugCopied
        cases debug : copyDebug st with
        | error stop =>
          rw [debug] at returns
          cases stop with
          | fault => exact absurd returns not_safe_fault
          | error e =>
            rw [copyDebug_exit debug]
            exact iff_of_true rfl rfl
        | ok done =>
          rw [ok_bind]
          refine iff_of_false Bool.false_ne_true fun stops => ?_
          unfold startOpMode at stops
          split at stops <;> cases stops

/-- **The plan leaves through `out_free_fw` when the callback does.** -/
theorem plan_outFree_iff [WideShift] {env : LoadEnv} {ucodeRaw : Option Firmware}
    (returns : Safe (loadFirmware env ucodeRaw)) :
    (planOf env ucodeRaw).outFree = true ↔ loadFirmware env ucodeRaw = .error (.error .outFreeFw) := by
  unfold loadFirmware at returns ⊢
  unfold planOf
  cases met : env.memory.pieces with
  | false => cases ucodeRaw <;> exact iff_of_true rfl rfl
  | true =>
    cases ucodeRaw with
    | none => exact iff_of_false Bool.false_ne_true fun same => (nomatch same)
    | some file =>
      simp only [met, Bool.not_true, Bool.false_eq_true, if_false] at returns ⊢
      by_cases small : file.size < 4
      · rw [if_pos small, if_pos small]
        exact iff_of_false Bool.false_ne_true fun same => (nomatch same)
      · rw [if_neg small] at returns
        rw [if_neg small, if_neg small]
        have parser := parseArrays_fst env file
        cases parsed : parseArrays env file with
        | mk outcome arrays =>
          rw [parsed] at parser
          rw [← parser] at returns ⊢
          cases outcome with
          | error stop =>
            cases stop with
            | fault => exact absurd returns not_safe_fault
            | error e => exact iff_of_false Bool.false_ne_true fun same => (nomatch same)
          | ok st => exact installPlan_outFree_iff arrays returns

/-! ### The heap -/

/-- The blocks, and the pointers of `drv->fw`: the arrays of its images with `num_sec`, the data pointers in
these arrays, and the memory segments. Its other debug pointers are always NULL. -/
structure FwHeap where
  blocks : Heap.Blocks BlockName
  img : IwlUcodeType → Pointer BlockName × Nat
  descData : BlockName → Nat → Pointer BlockName
  dbgMemTlv : Pointer BlockName

/-- A zeroed driver. -/
def FwHeap.zero : FwHeap where
  blocks := fun _ => .fresh
  img := fun _ => (none, 0)
  descData := fun _ _ => none
  dbgMemTlv := none

/-- The data pointer of a descriptor. -/
def FwHeap.dataOf (h : FwHeap) (type : IwlUcodeType) (sec : Nat) : Pointer BlockName :=
  (h.img type).1.bind fun array => h.descData array sec

/-- `iwl_free_fw_img`. -/
def freeFwImg (h : FwHeap) (type : IwlUcodeType) : List (Op BlockName) :=
  ((List.range (h.img type).2).flatMap fun sec => [.read (h.img type).1, .free (h.dataOf type sec)]) ++
    [.free (h.img type).1]

/-- `iwl_dealloc_ucode`. What it writes, `desc->data` and `desc->len`, is in an array it then releases. -/
def iwlDeallocUcode (h : FwHeap) : Except Fault FwHeap := do
  let blocks ← execute (.free h.dbgMemTlv :: ucodeTypes.flatMap (freeFwImg h)) h.blocks
  .ok { h with blocks }

/-- The parser's arrays. -/
def arrayNames (call : Nat) (arrays : ParserArrays) : List BlockName :=
  (ucodeTypes.flatMap fun type => (List.range (arrays.sections type)).map fun k => (call, .sections type k)) ++
    (List.range arrays.memSegs).map fun k => (call, .memSegs k)

/-- `pieces->img[type].sec`. -/
def heldSections (call : Nat) (arrays : ParserArrays) (type : IwlUcodeType) : Pointer BlockName :=
  if arrays.sections type = 0 then none else some (call, .sections type (arrays.sections type - 1))

/-- `pieces->dbg_mem_tlv`. -/
def heldMemSegs (call : Nat) (arrays : ParserArrays) : Pointer BlockName :=
  if arrays.memSegs = 0 then none else some (call, .memSegs (arrays.memSegs - 1))

/-- The blocks of a published image. -/
def imageNames (call : Nat) (image : PublishedImage) : List BlockName :=
  (call, .descs image.type) :: (List.range image.filled).map fun sec => (call, .data image.type sec)

/-- `iwl_alloc_ucode`. -/
def publish (call : Nat) (h : FwHeap) (image : PublishedImage) : FwHeap :=
  { h with
    blocks := allocateAll (imageNames call image) h.blocks
    img := Function.update h.img image.type (some (call, .descs image.type), image.numSec)
    descData := Function.update h.descData (call, .descs image.type) fun sec =>
      if sec < image.filled then some (call, .data image.type sec) else none }

/-- The label `free`. -/
def freePieces (call : Nat) (plan : CallPlan) : List (Op BlockName) :=
  (ucodeTypes.flatMap fun type => [.free (heldSections call plan.arrays type)]) ++
    [.free (if plan.moved then none else heldMemSegs call plan.arrays)]

/-- The parser's arrays are allocated, and the images published. -/
def allocated (call : Nat) (plan : CallPlan) (h : FwHeap) : FwHeap :=
  plan.images.foldl (publish call) { h with blocks := allocateAll (arrayNames call plan.arrays) h.blocks }

/-- The label `out_free_fw`, if the callback comes to it. -/
def outFreeFw (plan : CallPlan) (h : FwHeap) : Except Fault FwHeap :=
  if plan.outFree then iwlDeallocUcode h else .ok h

/-- The memory segments are taken over, if the callback comes so far, and `free`. -/
def leavePieces (call : Nat) (plan : CallPlan) (h : FwHeap) : Except Fault FwHeap := do
  let blocks ← execute (freePieces call plan) h.blocks
  .ok { h with
    blocks
    dbgMemTlv := if plan.moved then heldMemSegs call plan.arrays else h.dbgMemTlv }

/-- **A callback.** -/
def carryOut (call : Nat) (plan : CallPlan) (h : FwHeap) : Except Fault FwHeap := do
  let h ← outFreeFw plan (allocated call plan h)
  leavePieces call plan h

/-- A callback that returns. -/
structure Callback [WideShift] where
  env : LoadEnv
  ucodeRaw : Option Firmware
  returns : Safe (loadFirmware env ucodeRaw)

def Callback.plan [WideShift] (c : Callback) : CallPlan := planOf c.env c.ucodeRaw

/-- Callbacks in order, numbered from `call`. -/
def runCallbacks : Nat → List CallPlan → FwHeap → Except Fault FwHeap
  | _, [], h => .ok h
  | call, plan :: later, h => do
    let h ← carryOut call plan h
    runCallbacks (call + 1) later h

/-- The callbacks of a driver, and `iwl_drv_stop`. -/
def driverRun [WideShift] (cs : List Callback) : Except Fault FwHeap := do
  let h ← runCallbacks 0 (cs.map Callback.plan) .zero
  iwlDeallocUcode h

/-- **Each block is released once, and used only before**: nothing faults, and nothing is left. -/
def FreesOnce [WideShift] (cs : List Callback) : Prop :=
  ∃ h, driverRun cs = .ok h ∧ ∀ name, h.blocks name ≠ .live

/-! ### Releasing an image -/

section Image

variable {call : Nat} {h : FwHeap} {type : IwlUcodeType} {image : PublishedImage}

/-- `drv->fw.img[type]` is an image that a callback has published. -/
structure ImageAt (h : FwHeap) (call : Nat) (image : PublishedImage) : Prop where
  few : image.filled ≤ image.numSec
  img : h.img image.type = (some (call, .descs image.type), image.numSec)
  data : ∀ sec, h.descData (call, .descs image.type) sec =
    if sec < image.filled then some (call, .data image.type sec) else none

/-- What is done to one descriptor, and to the array. -/
theorem ImageAt.freeFwImg_eq (held : ImageAt h call image) :
    freeFwImg h image.type =
      ((List.range image.numSec).flatMap fun sec => [.read (some (call, .descs image.type)),
        .free (if sec < image.filled then some (call, .data image.type sec) else none)]) ++
        [.free (some (call, .descs image.type))] := by
  unfold freeFwImg FwHeap.dataOf
  rw [held.img]
  dsimp only [Option.bind_some]
  congr 2
  funext sec
  rw [held.data]

theorem mem_imageNames {name : BlockName} :
    name ∈ imageNames call image ↔
      name = (call, .descs image.type) ∨ ∃ sec < image.filled, name = (call, .data image.type sec) := by
  unfold imageNames
  rw [List.mem_cons, List.mem_map]
  simp only [List.mem_range, eq_comm]

/-- **The blocks of an image are those it releases**, and no others are used. -/
theorem ImageAt.mem_freed (held : ImageAt h call image) {name : BlockName} :
    name ∈ freed (freeFwImg h image.type) ↔ name ∈ imageNames call image := by
  rw [held.freeFwImg_eq, freed_append, List.mem_append, mem_freed_flatMap, mem_imageNames, or_comm]
  refine or_congr (by simp [freed]) ⟨?_, ?_⟩
  · rintro ⟨sec, inside, is⟩
    by_cases filled : sec < image.filled
    · refine ⟨sec, filled, ?_⟩
      simpa [freed, filled] using is
    · simp [freed, filled] at is
  · rintro ⟨sec, filled, rfl⟩
    refine ⟨sec, List.mem_range.mpr (Nat.lt_of_lt_of_le filled held.few), ?_⟩
    simp [freed, filled]

theorem ImageAt.mem_touched (held : ImageAt h call image) {name : BlockName} :
    name ∈ touched (freeFwImg h image.type) ↔ name ∈ imageNames call image := by
  refine ⟨fun used => ?_, fun member => freed_subset_touched (held.mem_freed.mpr member)⟩
  rw [held.freeFwImg_eq, touched_append, List.mem_append, mem_touched_flatMap] at used
  rw [mem_imageNames]
  rcases used with ⟨sec, _, used⟩ | last
  · by_cases filled : sec < image.filled
    · have both : name = (call, .descs image.type) ∨ name = (call, .data image.type sec) := by
        simpa [touched, Op.block, filled] using used
      exact both.imp_right fun is => ⟨sec, filled, is⟩
    · refine .inl ?_
      simpa [touched, Op.block, filled] using used
  · refine .inl ?_
    simpa [touched, Op.block] using last

/-- The data are released before the array they are read from. -/
theorem ImageAt.ordered (held : ImageAt h call image) : Ordered (freeFwImg h image.type) := by
  rw [held.freeFwImg_eq, ordered_append]
  refine ⟨ordered_flatMap List.nodup_range (fun sec _ => ?_) fun sec other differ name gone => ?_, ?_, ?_⟩
  · split
    · exact ⟨by simp, by simp [touched], trivial⟩
    · exact ⟨by simp, trivial⟩
  · by_cases filled : sec < image.filled
    · have is : name = (call, .data image.type sec) := by simpa [freed, filled] using gone
      rw [is]
      split <;> simp [touched, Op.block, differ]
    · simp [freed, filled] at gone
  · exact ⟨by simp [touched], trivial⟩
  · intro name gone
    obtain ⟨sec, _, is⟩ := mem_freed_flatMap.mp gone
    by_cases filled : sec < image.filled
    · have is : name = (call, .data image.type sec) := by simpa [freed, filled] using is
      simp [is, touched, Op.block]
    · simp [freed, filled] at is

end Image

/-! ### What the driver holds -/

/-- The images that a callback has published, and the memory segments. -/
structure DrvHolds (h : FwHeap) (call : Nat) (images : List PublishedImage) (mem : Pointer BlockName) : Prop where
  held : ∀ image ∈ images, ImageAt h call image
  others : ∀ type, (∀ image ∈ images, image.type ≠ type) → h.img type = (none, 0)
  memPointer : h.dbgMemTlv = mem
  memSegs : ∀ name ∈ mem, ∃ k, name.2 = .memSegs k

/-- The blocks it holds. -/
def ownedNames (call : Nat) (images : List PublishedImage) (mem : Pointer BlockName) : List BlockName :=
  mem.toList ++ images.flatMap (imageNames call)

theorem mem_ownedNames {call : Nat} {images : List PublishedImage} {mem : Pointer BlockName} {name : BlockName} :
    name ∈ ownedNames call images mem ↔ mem = some name ∨ ∃ image ∈ images, name ∈ imageNames call image := by
  unfold ownedNames
  rw [List.mem_append, Option.mem_toList, List.mem_flatMap]

section Holding

variable {h : FwHeap} {call : Nat} {images : List PublishedImage} {mem : Pointer BlockName}

/-- What a type's image releases, if it is published. -/
theorem DrvHolds.program (holds : DrvHolds h call images mem) (type : IwlUcodeType) :
    (∃ image ∈ images, image.type = type ∧ ImageAt h call image) ∨ freeFwImg h type = [.free none] := by
  by_cases published : ∃ image ∈ images, image.type = type
  · obtain ⟨image, member, is⟩ := published
    exact .inl ⟨image, member, is, holds.held image member⟩
  · have empty := holds.others type fun image member is => published ⟨image, member, is⟩
    refine .inr ?_
    unfold freeFwImg
    rw [empty]
    rfl

theorem DrvHolds.mem_touched (holds : DrvHolds h call images mem) {name : BlockName} :
    name ∈ touched (ucodeTypes.flatMap (freeFwImg h)) ↔ ∃ image ∈ images, name ∈ imageNames call image := by
  rw [mem_touched_flatMap]
  constructor
  · rintro ⟨type, _, used⟩
    rcases holds.program type with ⟨image, member, rfl, held⟩ | empty
    · exact ⟨image, member, held.mem_touched.mp used⟩
    · rw [empty] at used
      cases used
  · rintro ⟨image, member, own⟩
    refine ⟨image.type, ?_, (holds.held image member).mem_touched.mpr own⟩
    cases image.type <;> decide

theorem DrvHolds.mem_freed (holds : DrvHolds h call images mem) {name : BlockName} :
    name ∈ freed (ucodeTypes.flatMap (freeFwImg h)) ↔ ∃ image ∈ images, name ∈ imageNames call image := by
  refine ⟨fun gone => holds.mem_touched.mp (freed_subset_touched gone), ?_⟩
  rintro ⟨image, member, own⟩
  refine mem_freed_flatMap.mpr ⟨image.type, ?_, (holds.held image member).mem_freed.mpr own⟩
  cases image.type <;> decide

theorem DrvHolds.ordered (holds : DrvHolds h call images mem) :
    Ordered (.free h.dbgMemTlv :: ucodeTypes.flatMap (freeFwImg h)) := by
  have program : Ordered (ucodeTypes.flatMap (freeFwImg h)) := by
    refine ordered_flatMap (by decide) (fun type _ => ?_) fun type other differ name gone used => ?_
    · rcases holds.program type with ⟨image, _, rfl, held⟩ | empty
      · exact held.ordered
      · rw [empty]
        exact trivial
    · rcases holds.program type with ⟨image, _, rfl, held⟩ | empty
      · rcases holds.program other with ⟨image', _, rfl, held'⟩ | empty
        · have own := mem_imageNames.mp (held.mem_freed.mp gone)
          have own' := mem_imageNames.mp (held'.mem_touched.mp used)
          rcases own with rfl | ⟨sec, _, rfl⟩
          · rcases own' with same | ⟨_, _, same⟩
            · exact differ (FwBlock.descs.inj (Prod.mk.inj same).2)
            · cases same
          · rcases own' with same | ⟨_, _, same⟩
            · cases same
            · exact differ (FwBlock.data.inj (Prod.mk.inj same).2).1
        · rw [empty] at used
          cases used
      · rw [empty] at gone
        cases gone
  rw [holds.memPointer]
  cases held : mem with
  | none => exact program
  | some name =>
    refine ⟨fun used => ?_, program⟩
    obtain ⟨k, segs⟩ := holds.memSegs name held
    obtain ⟨image, _, own⟩ := holds.mem_touched.mp used
    rcases mem_imageNames.mp own with rfl | ⟨_, _, rfl⟩ <;> cases segs

/-- **Releasing what the driver holds**, while it is all there. -/
theorem DrvHolds.dealloc (holds : DrvHolds h call images mem)
    (live : ∀ name ∈ ownedNames call images mem, h.blocks name = .live) :
    ∃ blocks, iwlDeallocUcode h = .ok { h with blocks } ∧
      ∀ name, blocks name = .live ↔ h.blocks name = .live ∧ name ∉ ownedNames call images mem := by
  have names : ∀ name, (name ∈ touched (.free h.dbgMemTlv :: ucodeTypes.flatMap (freeFwImg h)) ↔
      name ∈ ownedNames call images mem) ∧
      (name ∈ freed (.free h.dbgMemTlv :: ucodeTypes.flatMap (freeFwImg h)) ↔
        name ∈ ownedNames call images mem) := by
    intro name
    rw [holds.memPointer, mem_ownedNames, ← holds.mem_touched]
    have both : name ∈ touched (ucodeTypes.flatMap (freeFwImg h)) ↔
        name ∈ freed (ucodeTypes.flatMap (freeFwImg h)) := holds.mem_touched.trans holds.mem_freed.symm
    cases mem with
    | none =>
      refine ⟨(or_iff_right fun none => (nomatch none)).symm, ?_⟩
      rw [both]
      exact (or_iff_right fun none => (nomatch none)).symm
    | some own =>
      rw [Option.some_inj, eq_comm (a := own)]
      refine ⟨List.mem_cons, ?_⟩
      rw [both]
      exact List.mem_cons
  refine ⟨freeAll (freed (.free h.dbgMemTlv :: ucodeTypes.flatMap (freeFwImg h))) h.blocks, ?_, fun name => ?_⟩
  · unfold iwlDeallocUcode
    rw [execute_ordered holds.ordered fun name used => live name ((names name).1.mp used)]
    rfl
  · unfold freeAll
    rw [← (names name).2]
    by_cases gone : name ∈ freed (.free h.dbgMemTlv :: ucodeTypes.flatMap (freeFwImg h))
    · rw [if_pos gone]
      exact iff_of_false (fun same => (nomatch same)) fun both => both.2 gone
    · rw [if_neg gone, and_iff_left gone]

/-- **Releasing it again faults.** -/
theorem DrvHolds.dealloc_stale (holds : DrvHolds h call images mem) {image : PublishedImage}
    (member : image ∈ images) (gone : h.blocks (call, .descs image.type) ≠ .live) (h' : FwHeap) :
    iwlDeallocUcode h ≠ .ok h' := by
  intro done
  have used : (call, FwBlock.descs image.type) ∈
      touched (.free h.dbgMemTlv :: ucodeTypes.flatMap (freeFwImg h)) := by
    have own := holds.mem_touched.mpr ⟨image, member, mem_imageNames.mpr (.inl rfl)⟩
    cases h.dbgMemTlv with
    | none => exact own
    | some segs => exact List.mem_cons_of_mem _ own
  unfold iwlDeallocUcode at done
  cases ran : execute (.free h.dbgMemTlv :: ucodeTypes.flatMap (freeFwImg h)) h.blocks with
  | error fault =>
    rw [ran] at done
    cases done
  | ok blocks => exact execute_stale gone used ran

end Holding

/-! ### One callback -/

/-- The parser's arrays. -/
def ParserArrays.Made (arrays : ParserArrays) : FwBlock → Prop
  | .sections type k => k < arrays.sections type
  | .memSegs k => k < arrays.memSegs
  | .descs _ | .data _ _ => False

/-- Those it no longer holds. -/
def ParserArrays.Spare (arrays : ParserArrays) : FwBlock → Prop
  | .sections type k => k + 1 < arrays.sections type
  | .memSegs k => k + 1 < arrays.memSegs
  | .descs _ | .data _ _ => False

/-- Those the label `free` releases. -/
def CallPlan.Held (plan : CallPlan) : FwBlock → Prop
  | .sections type k => k + 1 = plan.arrays.sections type
  | .memSegs k => plan.moved = false ∧ k + 1 = plan.arrays.memSegs
  | .descs _ | .data _ _ => False

theorem mem_arrayNames {call c : Nat} {arrays : ParserArrays} {block : FwBlock} :
    (c, block) ∈ arrayNames call arrays ↔ c = call ∧ arrays.Made block := by
  unfold arrayNames
  rw [List.mem_append, List.mem_flatMap]
  constructor
  · rintro (⟨type, _, member⟩ | member)
    · obtain ⟨k, inside, same⟩ := List.mem_map.mp member
      cases same
      exact ⟨rfl, List.mem_range.mp inside⟩
    · obtain ⟨k, inside, same⟩ := List.mem_map.mp member
      cases same
      exact ⟨rfl, List.mem_range.mp inside⟩
  · rintro ⟨rfl, made⟩
    cases block with
    | sections type k =>
      refine .inl ⟨type, ?_, List.mem_map.mpr ⟨k, List.mem_range.mpr made, rfl⟩⟩
      cases type <;> decide
    | memSegs k => exact .inr (List.mem_map.mpr ⟨k, List.mem_range.mpr made, rfl⟩)
    | descs type => cases made
    | data type sec => cases made

/-- The last of the blocks that were made one after another. -/
theorem last_eq_some {n : Nat} {block : Nat → BlockName} {name : BlockName} :
    (if n = 0 then none else some (block (n - 1))) = some name ↔ ∃ k, name = block k ∧ k + 1 = n := by
  split
  · next empty => exact iff_of_false (fun none => (nomatch none)) fun ⟨k, _, last⟩ => by omega
  · next some =>
    rw [Option.some_inj]
    constructor
    · rintro rfl
      exact ⟨_, rfl, by omega⟩
    · rintro ⟨k, rfl, last⟩
      rw [show n - 1 = k by omega]

theorem heldSections_eq_some {call : Nat} {arrays : ParserArrays} {type : IwlUcodeType} {name : BlockName} :
    heldSections call arrays type = some name ↔
      ∃ k, name = (call, .sections type k) ∧ k + 1 = arrays.sections type :=
  @last_eq_some (arrays.sections type) (fun k => (call, .sections type k)) name

theorem heldMemSegs_eq_some {call : Nat} {arrays : ParserArrays} {name : BlockName} :
    heldMemSegs call arrays = some name ↔ ∃ k, name = (call, .memSegs k) ∧ k + 1 = arrays.memSegs :=
  @last_eq_some arrays.memSegs (fun k => (call, .memSegs k)) name

section Pieces

variable {call c : Nat} {plan : CallPlan} {block : FwBlock}

theorem mem_touched_free {pointer : Pointer BlockName} {name : BlockName} :
    name ∈ touched [.free pointer] ↔ pointer = some name := by
  cases pointer with
  | none => exact iff_of_false (fun member => (nomatch member)) fun none => (nomatch none)
  | some own => simp [touched, Op.block, eq_comm]

theorem mem_freed_free {pointer : Pointer BlockName} {name : BlockName} :
    name ∈ freed [.free pointer] ↔ pointer = some name := by
  cases pointer with
  | none => exact iff_of_false (fun member => (nomatch member)) fun none => (nomatch none)
  | some own => simp [freed, eq_comm]

theorem ordered_free (pointer : Pointer BlockName) : Ordered [.free pointer] := by
  cases pointer with
  | none => exact trivial
  | some own => exact ⟨by simp [touched], trivial⟩

theorem mem_touched_freePieces : (c, block) ∈ touched (freePieces call plan) ↔ c = call ∧ plan.Held block := by
  unfold freePieces
  rw [touched_append, List.mem_append, mem_touched_flatMap, mem_touched_free]
  constructor
  · rintro (⟨type, _, used⟩ | used)
    · obtain ⟨k, same, last⟩ := heldSections_eq_some.mp (mem_touched_free.mp used)
      cases same
      exact ⟨rfl, last⟩
    · split at used
      · cases used
      · next stays =>
        obtain ⟨k, same, last⟩ := heldMemSegs_eq_some.mp used
        cases same
        exact ⟨rfl, by simpa using stays, last⟩
  · rintro ⟨rfl, held⟩
    cases block with
    | sections type k =>
      refine .inl ⟨type, ?_, mem_touched_free.mpr (heldSections_eq_some.mpr ⟨k, rfl, held⟩)⟩
      cases type <;> decide
    | memSegs k =>
      obtain ⟨stays, last⟩ := held
      rw [stays, if_neg Bool.false_ne_true]
      exact .inr (heldMemSegs_eq_some.mpr ⟨k, rfl, last⟩)
    | descs type => cases held
    | data type sec => cases held

theorem mem_freed_freePieces : (c, block) ∈ freed (freePieces call plan) ↔ c = call ∧ plan.Held block := by
  rw [← mem_touched_freePieces]
  refine ⟨freed_subset_touched, fun used => ?_⟩
  unfold freePieces at used ⊢
  rw [touched_append, List.mem_append, mem_touched_flatMap, mem_touched_free] at used
  rw [freed_append, List.mem_append, mem_freed_flatMap, mem_freed_free]
  refine used.imp_left fun ⟨type, member, used⟩ => ⟨type, member, ?_⟩
  rwa [mem_freed_free, ← mem_touched_free]

theorem freePieces_ordered : Ordered (freePieces call plan) := by
  unfold freePieces
  rw [ordered_append]
  refine ⟨ordered_flatMap (by decide) (fun type _ => ordered_free _) ?_, ordered_free _, ?_⟩
  · intro type other differ name gone used
    obtain ⟨k, rfl, _⟩ := heldSections_eq_some.mp (mem_freed_free.mp gone)
    obtain ⟨k', same, _⟩ := heldSections_eq_some.mp (mem_touched_free.mp used)
    exact differ (FwBlock.sections.inj (Prod.mk.inj same).2).1
  · intro name gone used
    obtain ⟨type, _, gone⟩ := mem_freed_flatMap.mp gone
    obtain ⟨k, rfl, _⟩ := heldSections_eq_some.mp (mem_freed_free.mp gone)
    have segs := mem_touched_free.mp used
    split at segs
    · cases segs
    · obtain ⟨k', same, _⟩ := heldMemSegs_eq_some.mp segs
      cases same

end Pieces

/-- What a plan always satisfies. -/
structure CallPlan.Proper (plan : CallPlan) : Prop where
  types : (plan.images.map PublishedImage.type).Nodup
  few : ∀ image ∈ plan.images, image.filled ≤ image.numSec
  moved : plan.moved = true → plan.outFree = false ∧ plan.images ≠ []

theorem filledDescs_le (memory : Memory) (type : IwlUcodeType) (sec : Nat) (records : List FwSec) :
    filledDescs memory type sec records ≤ records.length := by
  induction records generalizing sec with
  | nil => exact Nat.le_refl 0
  | cons record rest ih =>
    rw [filledDescs, List.length_cons]
    split
    · exact Nat.succ_le_succ (ih (sec + 1))
    · exact Nat.zero_le _

/-- The images are published in order. -/
theorem publishImages_types (memory : Memory) (pieces : IwlFirmwarePieces) (types : List IwlUcodeType) :
    ((publishImages memory pieces types).1.map PublishedImage.type).Sublist types := by
  induction types with
  | nil => exact List.Sublist.refl []
  | cons type later ih =>
    rw [publishImages]
    split
    · exact List.nil_sublist _
    · dsimp only
      split
      · exact ih.cons_cons type
      · exact (List.nil_sublist later).cons_cons type

theorem publishImages_few (memory : Memory) (pieces : IwlFirmwarePieces) (types : List IwlUcodeType) :
    ∀ image ∈ (publishImages memory pieces types).1, image.filled ≤ image.numSec := by
  induction types with
  | nil => exact fun _ member => (nomatch member)
  | cons type later ih =>
    have first := filledDescs_le memory type 0 (pieces.img type)
    rw [publishImages]
    split
    · exact fun _ member => (nomatch member)
    · dsimp only
      split
      · exact List.forall_mem_cons.mpr ⟨first, ih⟩
      · exact List.forall_mem_singleton.mpr first

theorem publishImages_whole {memory : Memory} {pieces : IwlFirmwarePieces} {type : IwlUcodeType}
    {later : List IwlUcodeType} (whole : (publishImages memory pieces (type :: later)).2 = true) :
    (publishImages memory pieces (type :: later)).1 ≠ [] := by
  intro empty
  rw [publishImages] at whole empty
  split at whole
  · cases whole
  · next met =>
    rw [if_neg met] at empty
    dsimp only at whole empty
    split at whole
    · next full =>
      rw [if_pos full] at empty
      cases empty
    · cases whole

theorem installPlan_proper [WideShift] (env : LoadEnv) (st : TlvState) (arrays : ParserArrays) :
    (installPlan env st arrays).Proper := by
  have types := (publishImages_types env.memory st.pieces ucodeTypes).nodup (by decide)
  have few := publishImages_few env.memory st.pieces ucodeTypes
  unfold installPlan
  split
  · exact ⟨List.nodup_nil, fun _ member => (nomatch member), fun moved => (nomatch moved)⟩
  · dsimp only
    split
    · next whole =>
      rw [Bool.and_eq_true] at whole
      exact ⟨types, few, fun _ => ⟨rfl, publishImages_whole whole.1⟩⟩
    · exact ⟨types, few, fun moved => (nomatch moved)⟩

theorem planOf_proper [WideShift] (env : LoadEnv) (ucodeRaw : Option Firmware) : (planOf env ucodeRaw).Proper := by
  have nothing : ∀ arrays outFree, (⟨arrays, [], false, outFree⟩ : CallPlan).Proper := fun arrays outFree =>
    ⟨List.nodup_nil, fun _ member => (nomatch member), fun moved => (nomatch moved)⟩
  unfold planOf
  split
  · exact nothing _ _
  · split
    · exact nothing _ _
    · split
      · exact nothing _ _
      · split
        · exact nothing _ _
        · exact installPlan_proper env _ _

section Steps

variable {h : FwHeap} {call : Nat} {plan : CallPlan}

theorem allocateAll_live {names : List BlockName} {blocks : Heap.Blocks BlockName} {name : BlockName} :
    allocateAll names blocks name = .live ↔ blocks name = .live ∨ name ∈ names := by
  unfold allocateAll
  split
  · next new => exact iff_of_true rfl (.inr new)
  · next old => exact (or_iff_left old).symm

/-- **One image is published.** -/
theorem DrvHolds.publish {done : List PublishedImage} (holds : DrvHolds h call done none)
    {image : PublishedImage} (few : image.filled ≤ image.numSec)
    (new : ∀ other ∈ done, other.type ≠ image.type) :
    DrvHolds (publish call h image) call (done ++ [image]) none where
  held other member := by
    rcases List.mem_append.mp member with old | last
    · have kept := holds.held other old
      have differ := new other old
      refine ⟨kept.few, ?_, fun sec => ?_⟩
      · show Function.update h.img image.type _ other.type = _
        rw [Function.update_of_ne differ]
        exact kept.img
      · show Function.update h.descData _ _ _ sec = _
        rw [Function.update_of_ne fun same => differ (FwBlock.descs.inj (Prod.mk.inj same).2)]
        exact kept.data sec
    · obtain rfl := List.mem_singleton.mp last
      refine ⟨few, Function.update_self _ _ _, fun sec => ?_⟩
      show Function.update h.descData _ _ _ sec = _
      rw [Function.update_self]
  others type none := by
    have differ := none image (List.mem_append_right _ List.mem_cons_self)
    show Function.update h.img image.type _ type = _
    rw [Function.update_of_ne (Ne.symm differ)]
    exact holds.others type fun other member => none other (List.mem_append_left _ member)
  memPointer := holds.memPointer
  memSegs _ member := nomatch member

/-- **All images are published.** -/
theorem DrvHolds.publishAll {done later : List PublishedImage} (holds : DrvHolds h call done none)
    (few : ∀ image ∈ later, image.filled ≤ image.numSec)
    (types : ((done ++ later).map PublishedImage.type).Nodup) :
    DrvHolds (later.foldl (Fw.publish call) h) call (done ++ later) none ∧
      ∀ name, (later.foldl (Fw.publish call) h).blocks name = .live ↔
        h.blocks name = .live ∨ ∃ image ∈ later, name ∈ imageNames call image := by
  induction later generalizing h done with
  | nil =>
    rw [List.append_nil]
    exact ⟨holds, fun name => (or_iff_left fun ⟨_, member, _⟩ => (nomatch member)).symm⟩
  | cons image later ih =>
    have new : ∀ other ∈ done, other.type ≠ image.type := by
      intro other member same
      rw [List.map_append, List.nodup_append] at types
      exact types.2.2 _ (List.mem_map_of_mem member) _ (List.mem_map_of_mem List.mem_cons_self) same
    have split : done ++ image :: later = done ++ [image] ++ later := by simp
    rw [split] at types ⊢
    obtain ⟨all, live⟩ := ih (holds.publish (few image List.mem_cons_self) new)
      (fun other member => few other (List.mem_cons_of_mem _ member)) types
    refine ⟨all, fun name => (live name).trans ?_⟩
    have first : (Fw.publish call h image).blocks name = .live ↔
        h.blocks name = .live ∨ name ∈ imageNames call image := allocateAll_live
    rw [first, or_assoc]
    refine or_congr Iff.rfl ?_
    simp only [List.mem_cons, exists_eq_or_imp]

/-- What the driver holds are its pointers. -/
theorem DrvHolds.withBlocks {images : List PublishedImage} {mem : Pointer BlockName}
    (holds : DrvHolds h call images mem) (blocks : Heap.Blocks BlockName) :
    DrvHolds { h with blocks } call images mem where
  held image member := ⟨(holds.held image member).few, (holds.held image member).img, (holds.held image member).data⟩
  others := holds.others
  memPointer := holds.memPointer
  memSegs := holds.memSegs

/-- What a driver holds of nothing it holds of any callback. -/
theorem DrvHolds.of_nothing {c : Nat} (holds : DrvHolds h c [] none) (call : Nat) (blocks : Heap.Blocks BlockName) :
    DrvHolds { h with blocks } call [] none where
  held _ member := nomatch member
  others type _ := holds.others type fun _ member => (nomatch member)
  memPointer := holds.memPointer
  memSegs _ member := nomatch member

/-- The label `free`. -/
theorem freePieces_execute {blocks : Heap.Blocks BlockName}
    (live : ∀ block, plan.Held block → blocks (call, block) = .live) :
    ∃ blocks', execute (freePieces call plan) blocks = .ok blocks' ∧
      ∀ c block, blocks' (c, block) = .live ↔ blocks (c, block) = .live ∧ ¬ (c = call ∧ plan.Held block) := by
  refine ⟨_, execute_ordered freePieces_ordered fun ⟨c, block⟩ used => ?_, fun c block => ?_⟩
  · obtain ⟨rfl, held⟩ := mem_touched_freePieces.mp used
    exact live block held
  · unfold freeAll
    rw [← mem_freed_freePieces]
    split
    · next gone => exact iff_of_false (fun same => (nomatch same)) fun both => both.2 gone
    · next kept => exact (and_iff_left kept).symm

/-- The blocks of an image are not the parser's. -/
theorem imageNames_block {image : PublishedImage} {c : Nat} {block : FwBlock}
    (own : (c, block) ∈ imageNames call image) : c = call ∧ ¬ plan.arrays.Made block ∧ ¬ plan.Held block := by
  rcases mem_imageNames.mp own with same | ⟨sec, _, same⟩
  · cases same
    exact ⟨rfl, id, id⟩
  · cases same
    exact ⟨rfl, id, id⟩

theorem held_made {block : FwBlock} (held : plan.Held block) : plan.arrays.Made block := by
  cases block with
  | sections type k => exact Nat.lt_of_succ_le (Nat.le_of_eq held)
  | memSegs k => exact Nat.lt_of_succ_le (Nat.le_of_eq held.2)
  | descs type => cases held
  | data type sec => cases held

/-- The arrays a callback leaves are those it does not hold at its end. -/
theorem made_not_held (block : FwBlock) (stays : plan.moved = false) :
    plan.arrays.Made block ∧ ¬ plan.Held block ↔ plan.arrays.Spare block := by
  cases block with
  | sections type k =>
    show k < _ ∧ ¬ k + 1 = _ ↔ k + 1 < _
    omega
  | memSegs k =>
    show k < _ ∧ ¬ (_ ∧ k + 1 = _) ↔ k + 1 < _
    rw [and_iff_right stays]
    omega
  | descs type => exact iff_of_false (fun both => both.1) id
  | data type sec => exact iff_of_false (fun both => both.1) id

/-- A callback that publishes nothing leaves `drv->fw` as it was. -/
theorem carryOut_skip (nothing : plan.images = []) (keeps : plan.outFree = false) (stays : plan.moved = false)
    (unused : ∀ block, h.blocks (call, block) ≠ .live) :
    ∃ blocks, carryOut call plan h = .ok { h with blocks } ∧
      ∀ c block, blocks (c, block) = .live ↔
        h.blocks (c, block) = .live ∨ c = call ∧ plan.arrays.Spare block := by
  obtain ⟨blocks, released, live⟩ := @freePieces_execute call plan
    (allocateAll (arrayNames call plan.arrays) h.blocks) fun block held =>
      allocateAll_live.mpr (.inr (mem_arrayNames.mpr ⟨rfl, held_made held⟩))
  refine ⟨blocks, ?_, fun c block => ?_⟩
  · unfold carryOut outFreeFw allocated leavePieces
    rw [nothing, keeps, stays]
    show (execute (freePieces call plan) _ >>= _) = _
    rw [List.foldl_nil, released]
    rfl
  · rw [live, allocateAll_live, mem_arrayNames, ← made_not_held block stays]
    constructor
    · rintro ⟨old | ⟨rfl, new⟩, kept⟩
      · exact .inl old
      · exact .inr ⟨rfl, new, fun held => kept ⟨rfl, held⟩⟩
    · rintro (old | ⟨rfl, new, kept⟩)
      · refine ⟨.inl old, ?_⟩
        rintro ⟨rfl, _⟩
        exact unused block old
      · exact ⟨.inr ⟨rfl, new⟩, fun both => kept both.2⟩

/-- The memory segments the driver has after the callback. -/
def CallPlan.mem (call : Nat) (plan : CallPlan) : Pointer BlockName :=
  if plan.moved then heldMemSegs call plan.arrays else none

/-- The arrays the label `free` does not release are left, or taken over. -/
theorem made_not_held_iff (block : FwBlock) :
    plan.arrays.Made block ∧ ¬ plan.Held block ↔
      plan.arrays.Spare block ∨ plan.mem call = some (call, block) := by
  unfold CallPlan.mem
  cases moved : plan.moved with
  | false =>
    rw [made_not_held block moved, if_neg Bool.false_ne_true]
    exact (or_iff_left fun none => (nomatch none)).symm
  | true =>
    rw [if_pos rfl, heldMemSegs_eq_some]
    cases block with
    | sections type k =>
      show k < _ ∧ ¬ k + 1 = _ ↔ k + 1 < _ ∨ _
      rw [or_iff_left (by rintro ⟨_, same, _⟩; cases same)]
      omega
    | memSegs k =>
      show k < _ ∧ ¬ (_ ∧ k + 1 = _) ↔ k + 1 < _ ∨ _
      rw [moved]
      constructor
      · rintro ⟨made, _⟩
        by_cases last : k + 1 = plan.arrays.memSegs
        · exact .inr ⟨k, rfl, last⟩
        · exact .inl (by omega)
      · rintro (spare | ⟨k', same, last⟩)
        · exact ⟨by omega, fun both => (nomatch both.1)⟩
        · cases same
          exact ⟨by omega, fun both => (nomatch both.1)⟩
    | descs type => exact iff_of_false (fun both => both.1) (by rintro (spare | ⟨_, same, _⟩); exact spare; cases same)
    | data type sec =>
      exact iff_of_false (fun both => both.1) (by rintro (spare | ⟨_, same, _⟩); exact spare; cases same)

/-- **The allocations of a callback**: the arrays of the parser and the blocks of the images. -/
theorem allocated_live {c₀ : Nat} (proper : plan.Proper) (empty : DrvHolds h c₀ [] none) :
    DrvHolds (allocated call plan h) call plan.images none ∧
      ∀ c block, (allocated call plan h).blocks (c, block) = .live ↔
        (h.blocks (c, block) = .live ∨ c = call ∧ plan.arrays.Made block) ∨
          ∃ image ∈ plan.images, (c, block) ∈ imageNames call image := by
  obtain ⟨holds, live⟩ := (empty.of_nothing call (allocateAll (arrayNames call plan.arrays)
    h.blocks)).publishAll proper.few proper.types
  refine ⟨holds, fun c block => (live (c, block)).trans (or_congr ?_ Iff.rfl)⟩
  rw [← mem_arrayNames]
  exact allocateAll_live

/-- **What is there when the images are released again**, or not. -/
theorem outFreeFw_live {c₀ : Nat} (proper : plan.Proper) (empty : DrvHolds h c₀ [] none)
    (unused : ∀ block, h.blocks (call, block) ≠ .live) : ∃ blocks,
      outFreeFw plan (allocated call plan h) = .ok { allocated call plan h with blocks } ∧
      ∀ c block, blocks (c, block) = .live ↔ (h.blocks (c, block) = .live ∨ c = call ∧ plan.arrays.Made block) ∨
        plan.outFree = false ∧ ∃ image ∈ plan.images, (c, block) ∈ imageNames call image := by
  obtain ⟨holds, live⟩ := @allocated_live h call plan c₀ proper empty
  unfold outFreeFw
  cases plan.outFree with
  | false =>
    refine ⟨(allocated call plan h).blocks, rfl, fun c block => ?_⟩
    rw [live, and_iff_right rfl]
  | true =>
    obtain ⟨blocks, released, gone⟩ := holds.dealloc fun name own => by
      rcases mem_ownedNames.mp own with none | image
      · cases none
      · exact (live name.1 name.2).mpr (.inr image)
    refine ⟨blocks, released, fun c block => ?_⟩
    rw [gone, live, mem_ownedNames]
    constructor
    · rintro ⟨(old | ⟨image, member, own⟩), out⟩
      · exact .inl old
      · exact absurd (.inr ⟨image, member, own⟩) out
    · rintro (old | ⟨none, _⟩)
      · refine ⟨.inl old, ?_⟩
        rintro (none | ⟨image, _, own⟩)
        · cases none
        · obtain ⟨rfl, apart, _⟩ := @imageNames_block call plan image c block own
          rcases old with old | ⟨_, made⟩
          · exact unused block old
          · exact apart made
      · cases none

/-- **A callback on a driver that holds nothing**: it does not fault, and leaves its spare arrays, and what it
has published unless it has released it again. -/
theorem carryOut_spec {c₀ : Nat} (proper : plan.Proper) (empty : DrvHolds h c₀ [] none)
    (unused : ∀ block, h.blocks (call, block) ≠ .live) :
    ∃ h', carryOut call plan h = .ok h' ∧ DrvHolds h' call plan.images (plan.mem call) ∧
      ∀ c block, h'.blocks (c, block) = .live ↔
        h.blocks (c, block) = .live ∨ c = call ∧ plan.arrays.Spare block ∨
          plan.outFree = false ∧ (c, block) ∈ ownedNames call plan.images (plan.mem call) := by
  obtain ⟨holds, _⟩ := @allocated_live h call plan c₀ proper empty
  obtain ⟨blocks, kept, left⟩ := outFreeFw_live proper empty unused
  obtain ⟨blocks', released, gone⟩ := @freePieces_execute call plan blocks fun block held =>
    (left call block).mpr (.inl (.inr ⟨rfl, held_made held⟩))
  refine ⟨{ allocated call plan h with blocks := blocks', dbgMemTlv := plan.mem call }, ?_, ?_, fun c block => ?_⟩
  · unfold carryOut leavePieces CallPlan.mem
    rw [kept]
    show (execute (freePieces call plan) blocks >>= _) = _
    rw [released, ← holds.memPointer]
    rfl
  · refine ⟨fun image member => ?_, holds.others, rfl, fun name member => ?_⟩
    · have held := holds.held image member
      exact ⟨held.few, held.img, held.data⟩
    unfold CallPlan.mem at member
    split at member
    · obtain ⟨k, rfl, _⟩ := heldMemSegs_eq_some.mp member
      exact ⟨k, rfl⟩
    · cases member
  · rw [gone, left, mem_ownedNames]
    have spare := @made_not_held_iff call plan block
    constructor
    · rintro ⟨(old | ⟨rfl, made⟩) | ⟨keeps, image⟩, free⟩
      · exact .inl old
      · rcases spare.mp ⟨made, fun held => free ⟨rfl, held⟩⟩ with spare | taken
        · exact .inr (.inl ⟨rfl, spare⟩)
        · refine .inr (.inr ⟨?_, .inl taken⟩)
          unfold CallPlan.mem at taken
          split at taken
          · next moved => exact (proper.moved moved).1
          · cases taken
      · exact .inr (.inr ⟨keeps, .inr image⟩)
    · rintro (old | ⟨rfl, extra⟩ | ⟨keeps, taken | ⟨image, member, own⟩⟩)
      · refine ⟨.inl (.inl old), ?_⟩
        rintro ⟨rfl, _⟩
        exact unused block old
      · obtain ⟨made, free⟩ := spare.mpr (.inl extra)
        exact ⟨.inl (.inr ⟨rfl, made⟩), fun both => free both.2⟩
      · obtain ⟨k, same, _⟩ : ∃ k, (c, block) = (call, FwBlock.memSegs k) ∧ k + 1 = plan.arrays.memSegs := by
          unfold CallPlan.mem at taken
          split at taken
          · exact heldMemSegs_eq_some.mp taken
          · cases taken
        obtain ⟨rfl, rfl⟩ := Prod.mk.inj same
        obtain ⟨made, free⟩ := spare.mpr (.inr taken)
        exact ⟨.inl (.inr ⟨rfl, made⟩), fun both => free both.2⟩
      · obtain ⟨rfl, _, free⟩ := @imageNames_block call plan image c block own
        exact ⟨.inr ⟨keeps, image, member, own⟩, fun both => free both.2⟩

end Steps

/-! ### Runs -/

/-- The parser replaces no array. -/
def CallPlan.NoSpare (plan : CallPlan) : Prop :=
  (∀ type ∈ ucodeTypes, plan.arrays.sections type ≤ 1) ∧ plan.arrays.memSegs ≤ 1

/-- The callback does not leave through `out_free_fw` after it has published an image. -/
def CallPlan.Keeps (plan : CallPlan) : Prop := plan.outFree = true → plan.images = []

theorem noSpare_iff (plan : CallPlan) : plan.NoSpare ↔ ∀ block, ¬ plan.arrays.Spare block := by
  constructor
  · rintro ⟨sections, memSegs⟩ block spare
    cases block with
    | sections type k =>
      have one := sections type (by cases type <;> decide)
      have more : k + 1 < plan.arrays.sections type := spare
      omega
    | memSegs k =>
      have more : k + 1 < plan.arrays.memSegs := spare
      omega
    | descs type => exact spare
    | data type sec => exact spare
  · intro none
    refine ⟨fun type _ => ?_, ?_⟩
    · by_contra more
      exact none (.sections type 0) (Nat.lt_of_not_le more)
    · by_contra more
      exact none (.memSegs 0) (Nat.lt_of_not_le more)

theorem Callback.proper [WideShift] (c : Callback) : c.plan.Proper := planOf_proper c.env c.ucodeRaw

/-- A spare block of a callback is not among the driver's. -/
theorem CallPlan.not_owned_of_spare {plan : CallPlan} {k : Nat} {block : FwBlock}
    (spare : plan.arrays.Spare block) : (k, block) ∉ ownedNames k plan.images (plan.mem k) := by
  intro own
  have made := (@made_not_held_iff k plan block).mpr (.inl spare)
  rcases mem_ownedNames.mp own with taken | ⟨image, _, own⟩
  · unfold CallPlan.mem at taken
    split at taken
    · obtain ⟨i, same, last⟩ := heldMemSegs_eq_some.mp taken
      cases same
      exact absurd spare (by show ¬ i + 1 < _; omega)
    · cases taken
  · exact (@imageNames_block k plan image k block own).2.1 made.1

/-- **One callback and the stop.** -/
theorem freesOnce_single [WideShift] (c : Callback) : FreesOnce [c] ↔ c.plan.NoSpare ∧ c.plan.Keeps := by
  have empty : DrvHolds .zero 0 [] none :=
    ⟨fun _ member => (nomatch member), fun _ _ => rfl, rfl, fun _ member => (nomatch member)⟩
  obtain ⟨h, done, holds, live⟩ := @carryOut_spec .zero 0 c.plan 0 c.proper empty fun _ same => (nomatch same)
  have run : driverRun [c] = iwlDeallocUcode h := by
    unfold driverRun
    rw [List.map_singleton, runCallbacks, done]
    rfl
  have left : ∀ k block, h.blocks (k, block) = .live ↔ k = 0 ∧ c.plan.arrays.Spare block ∨
      c.plan.outFree = false ∧ (k, block) ∈ ownedNames 0 c.plan.images (c.plan.mem 0) := by
    intro k block
    rw [live]
    exact or_iff_right fun same => (nomatch same)
  -- the driver's blocks are all there, or it holds none
  have ends : (∀ name ∈ ownedNames 0 c.plan.images (c.plan.mem 0), h.blocks name = .live) →
      (FreesOnce [c] ↔ c.plan.NoSpare) := by
    intro there
    obtain ⟨blocks, stopped, gone⟩ := holds.dealloc there
    have final : ∀ k block, blocks (k, block) = .live ↔ k = 0 ∧ c.plan.arrays.Spare block := by
      intro k block
      rw [gone, left]
      constructor
      · rintro ⟨spare | ⟨_, own⟩, out⟩
        · exact spare
        · exact absurd own out
      · rintro ⟨rfl, spare⟩
        exact ⟨.inl ⟨rfl, spare⟩, CallPlan.not_owned_of_spare spare⟩
    unfold FreesOnce
    rw [run, stopped, noSpare_iff]
    constructor
    · rintro ⟨_, same, none⟩ block spare
      cases same
      exact none (0, block) ((final 0 block).mpr ⟨rfl, spare⟩)
    · exact fun none => ⟨_, rfl, fun name lives => none name.2 ((final name.1 name.2).mp lives).2⟩
  unfold CallPlan.Keeps
  cases out : c.plan.outFree with
  | false =>
    rw [ends fun name own => (left name.1 name.2).mpr (.inr ⟨out, own⟩)]
    exact (and_iff_left fun none => (nomatch none)).symm
  | true =>
    have stays : c.plan.mem 0 = none := by
      unfold CallPlan.mem
      cases moved : c.plan.moved with
      | false => rfl
      | true => exact absurd ((c.proper.moved moved).1.symm.trans out) (by decide)
    cases images : c.plan.images with
    | nil =>
      rw [ends fun name own => by
        rw [images, stays] at own
        cases own]
      exact (and_iff_left fun _ => rfl).symm
    | cons image later =>
      refine iff_of_false ?_ fun both => (nomatch both.2 rfl)
      rintro ⟨h', stopped, _⟩
      have member : image ∈ c.plan.images := images ▸ List.mem_cons_self
      refine holds.dealloc_stale member (fun lives => ?_) h' (run ▸ stopped)
      rcases (left _ _).mp lives with ⟨_, spare⟩ | ⟨keeps, _⟩
      · exact spare
      · exact absurd (keeps.symm.trans out) (by decide)

/-- **The condition on the callbacks of a run**, by whether one of them has published images before. -/
def Tidy : Bool → List CallPlan → Prop
  | _, [] => True
  | published, plan :: later =>
    plan.NoSpare ∧ plan.Keeps ∧ (published = true → plan.images = [] ∧ plan.outFree = false) ∧
      Tidy (published || !plan.images.isEmpty) later

/-- Between two callbacks: what is allocated is what the driver holds. -/
structure Between (h : FwHeap) (call : Nat) (published : Bool) (c : Nat) (images : List PublishedImage)
    (mem : Pointer BlockName) : Prop where
  holds : DrvHolds h c images mem
  live : ∀ name, h.blocks name = .live ↔ name ∈ ownedNames c images mem
  earlier : ∀ name ∈ ownedNames c images mem, name.1 < call
  nothing : published = false → images = [] ∧ mem = none

/-- **One step.** -/
theorem Between.step {h : FwHeap} {call c : Nat} {published : Bool} {images : List PublishedImage}
    {mem : Pointer BlockName} {plan : CallPlan} (between : Between h call published c images mem)
    (proper : plan.Proper) (noSpare : plan.NoSpare) (keeps : plan.Keeps)
    (once : published = true → plan.images = [] ∧ plan.outFree = false) :
    ∃ h', carryOut call plan h = .ok h' ∧
      ∃ c images mem, Between h' (call + 1) (published || !plan.images.isEmpty) c images mem := by
  have unused : ∀ block, h.blocks (call, block) ≠ .live := fun block lives =>
    Nat.lt_irrefl call (between.earlier _ ((between.live _).mp lives))
  have none := (noSpare_iff plan).mp noSpare
  cases published with
  | true =>
    obtain ⟨nothing, stays⟩ := once rfl
    have unmoved : plan.moved = false := by
      by_contra moved
      exact (proper.moved (by simpa using moved)).2 nothing
    obtain ⟨blocks, done, live⟩ := carryOut_skip nothing stays unmoved unused
    refine ⟨_, done, c, images, mem, between.holds.withBlocks blocks, fun name => ?_,
      fun name own => Nat.lt_succ_of_lt (between.earlier name own), fun never => (nomatch never)⟩
    rw [← between.live]
    exact (live name.1 name.2).trans (or_iff_left fun both => none _ both.2)
  | false =>
    obtain ⟨rfl, rfl⟩ := between.nothing rfl
    obtain ⟨h', done, holds, live⟩ := carryOut_spec proper between.holds unused
    have memName : ∀ name ∈ plan.mem call, name.1 = call := by
      intro name member
      unfold CallPlan.mem at member
      split at member
      · obtain ⟨k, rfl, _⟩ := heldMemSegs_eq_some.mp member
        rfl
      · cases member
    refine ⟨h', done, call, plan.images, plan.mem call, holds, fun name => ?_, fun name own => ?_, fun never => ?_⟩
    · rw [live name.1 name.2]
      constructor
      · rintro (old | ⟨_, spare⟩ | ⟨_, own⟩)
        · cases (between.live _).mp old
        · exact absurd spare (none _)
        · exact own
      · intro own
        refine .inr (.inr ⟨?_, own⟩)
        by_contra out
        have out : plan.outFree = true := by simpa using out
        rcases mem_ownedNames.mp own with taken | ⟨image, member, _⟩
        · unfold CallPlan.mem at taken
          split at taken
          · next moved => exact absurd ((proper.moved moved).1.symm.trans out) (by decide)
          · cases taken
        · rw [keeps out] at member
          cases member
    · rcases mem_ownedNames.mp own with taken | ⟨image, _, own⟩
      · rw [memName name taken]
        exact Nat.lt_succ_self call
      · rw [(@imageNames_block call plan image name.1 name.2 own).1]
        exact Nat.lt_succ_self call
    · have nothing : plan.images = [] := by simpa using never
      refine ⟨nothing, ?_⟩
      unfold CallPlan.mem
      cases moved : plan.moved with
      | false => rfl
      | true => exact absurd nothing (proper.moved moved).2

/-- **A run.** -/
theorem Between.run {plans : List CallPlan} (proper : ∀ plan ∈ plans, plan.Proper) {h : FwHeap} {call c : Nat}
    {published : Bool} {images : List PublishedImage} {mem : Pointer BlockName}
    (between : Between h call published c images mem) (tidy : Tidy published plans) :
    ∃ h', runCallbacks call plans h = .ok h' ∧ ∃ call published c images mem,
      Between h' call published c images mem := by
  induction plans generalizing h call c published images mem with
  | nil => exact ⟨h, rfl, call, published, c, images, mem, between⟩
  | cons plan later ih =>
    obtain ⟨noSpare, keeps, once, tidy⟩ := tidy
    obtain ⟨h', done, c', images', mem', between'⟩ :=
      between.step (proper plan List.mem_cons_self) noSpare keeps once
    rw [runCallbacks, done]
    exact ih (fun plan member => proper plan (List.mem_cons_of_mem _ member)) between' tidy

/-- **Each block is released once**: after one callback exactly under the condition, and after every run of
callbacks that meets it. -/
theorem freesOnce_iff [WideShift] (c : Callback) :
    (FreesOnce [c] ↔ c.plan.NoSpare ∧ c.plan.Keeps) ∧
      ∀ cs : List Callback, Tidy false (cs.map Callback.plan) → FreesOnce cs := by
  refine ⟨freesOnce_single c, fun cs tidy => ?_⟩
  have start : Between .zero 0 false 0 [] none :=
    ⟨⟨fun _ member => (nomatch member), fun _ _ => rfl, rfl, fun _ member => (nomatch member)⟩,
      fun name => iff_of_false (fun same => (nomatch same)) fun member => (nomatch member),
      fun _ member => (nomatch member), fun _ => ⟨rfl, rfl⟩⟩
  have proper : ∀ plan ∈ cs.map Callback.plan, plan.Proper := by
    intro plan member
    obtain ⟨c, _, rfl⟩ := List.mem_map.mp member
    exact c.proper
  obtain ⟨h, ran, _, _, _, images, mem, between⟩ := Between.run proper start tidy
  obtain ⟨blocks, stopped, gone⟩ := between.holds.dealloc fun name own => (between.live name).mpr own
  refine ⟨{ h with blocks }, ?_, fun name lives => ?_⟩
  · unfold driverRun
    rw [ran]
    exact stopped
  · obtain ⟨there, out⟩ := (gone name).mp lives
    exact out ((between.live name).mp there)

section Processor

attribute [local instance] processorShift

/-- The callback of a delivery without an op mode. -/
def v1Callback : Callback where
  env := v1Delivery.env
  ucodeRaw := some v1Delivery.file
  returns := by
    obtain ⟨loaded, accepted⟩ := v1Delivery_loads
    have same : loadFirmware v1Delivery.env (some v1Delivery.file) = .ok loaded := accepted
    rw [same]
    exact safe_ok loaded

/-- A file that was not found. -/
def missingFile : Callback where
  env := v1Delivery.env
  ucodeRaw := none
  returns := safe_error _

/-- A v1 file, alone and as the second answer. -/
theorem freesOnce_iff_instances : FreesOnce [v1Callback] ∧ FreesOnce [missingFile, v1Callback] := by
  have noSpare : v1Callback.plan.NoSpare := ⟨by decide +kernel, by decide +kernel⟩
  have keeps : v1Callback.plan.Keeps := fun out => absurd out (by decide +kernel)
  refine ⟨(freesOnce_iff v1Callback).1.mpr ⟨noSpare, keeps⟩,
    (freesOnce_iff v1Callback).2 [missingFile, v1Callback] ?_⟩
  exact ⟨⟨by decide, by decide⟩, fun _ => rfl, fun none => (nomatch none), noSpare, keeps, fun none => (nomatch none),
    trivial⟩

/-- A driver of API versions 0 to 5 with memory enough and no op mode. -/
def plainEnv : LoadEnv := ⟨⟨5, 0, 16, 16, 0, by decide⟩, .enough, fun _ => none⟩

theorem v1File_leaves : loadFirmware plainEnv (some v1File) = .error (.error .outFreeFw) := by
  rfl

/-- A v1 file with empty sections. -/
def emptySections : Callback where
  env := plainEnv
  ucodeRaw := some v1File
  returns := by
    rw [v1File_leaves]
    exact safe_error _

/-- A TLV file with two SEC_RT TLVs of 8 bytes. -/
def twoSections : Firmware where
  data := [0, 0, 0, 0, 0x49, 0x57, 0x4c, 0x0a] ++ List.replicate 80 0 ++
    [19, 0, 0, 0, 8, 0, 0, 0, 0, 0, 0, 0, 1, 2, 3, 4] ++ [19, 0, 0, 0, 8, 0, 0, 0, 0, 1, 0, 0, 5, 6, 7, 8]
  size_lt := by
    show 120 < 2 ^ 63
    decide

/-- **An empty section, and a second section**: the first callback leaves through `out_free_fw` and the stop
uses the released descriptors; the second loads its firmware, and its first section array is left. -/
theorem stop_uses_released :
    loadFirmware plainEnv (some v1File) = .error (.error .outFreeFw) ∧
      driverRun [emptySections] = .error .stale ∧ ¬ FreesOnce [emptySections] ∧
      (∃ loaded, loadFirmware plainEnv (some twoSections) = .ok loaded) ∧
      ((carryOut 0 (planOf plainEnv (some twoSections)) .zero >>= iwlDeallocUcode).toOption.map fun h =>
        h.blocks (0, .sections .regular 0)) = some .live := by
  have faults : driverRun [emptySections] = .error .stale := by rfl
  refine ⟨v1File_leaves, faults, ?_, ⟨_, by rfl⟩, by decide +kernel⟩
  rintro ⟨h, done, _⟩
  rw [faults] at done
  cases done

end Processor

end IntelWifi.Fw
