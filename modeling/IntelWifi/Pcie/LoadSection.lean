/-
**Loading a section.**

`iwl_pcie_load_section` copies a section to the SRAM of the device in chunks of at most
`FH_MEM_TB_MAX_LENGTH` bytes, all through the start of one DMA buffer. The extended range of the SRAM is
reached while the bit `LMPM_CHICK_EXTENDED_ADDR_SPACE` is set, which the driver sets and clears around a
chunk that starts in the range.

What the device does is in `SectionEnv`. The loop is run for a number of turns, since a long section makes
its `u32` offset wrap.

* `iwlPcieLoadSection_writes`: the chunks of a section tile it, and those written are the first of them.
* `followsWindow_iff`: the sections whose bytes all find the bit as they need it.
-/

import IntelWifi.Lib.Bytes
import IntelWifi.Lib.Tiling

namespace IntelWifi.Pcie

open IntelWifi.Bytes IntelWifi.Tiling

/-- `FH_MEM_TB_MAX_LENGTH`. -/
def fhMemTbMaxLength : Nat := 0x00020000

/-- `IWL_FW_MEM_EXTENDED_START`. -/
def iwlFwMemExtendedStart : Nat := 0x40000

/-- `IWL_FW_MEM_EXTENDED_END`. -/
def iwlFwMemExtendedEnd : Nat := 0x57FFF

/-- `struct fw_desc`, with the bytes of `data`: `len` is their number. -/
structure FwSection where
  data : List UInt8
  offset : Nat

/-- `section->len`. -/
def FwSection.len (sec : FwSection) : Nat := sec.data.length

/-- Why no section is loaded: `-EIO`, `-ETIMEDOUT`, or the `-1` when the buffer cannot be mapped. -/
inductive LoadError where
  | eio | etimedout | unmapped
  deriving DecidableEq, Repr

/-- What `iwl_pcie_load_firmware_chunk` meets. -/
inductive ChunkOutcome where
  /-- The device reports the end of the DMA. -/
  | complete
  /-- NIC access is not granted, and nothing is written. -/
  | noAccess
  /-- The chunk is written, and the device does not answer within 5 seconds. -/
  | timedOut
  deriving DecidableEq, Repr

/-- `ret`; none is 0. -/
def ChunkOutcome.ret : ChunkOutcome → Option LoadError
  | .complete => none
  | .noAccess => some .eio
  | .timedOut => some .etimedout

/-- The FH registers are written. -/
def ChunkOutcome.issued (outcome : ChunkOutcome) : Bool := outcome != .noAccess

/-- What one load meets; the last three are about its `k`-th chunk. `iwl_set_bits_prph` and
`iwl_clear_bits_prph` do nothing without NIC access. -/
structure SectionEnv where
  allocated : Bool
  /-- `gen32IOVMSegments` succeeds. The one segment it was asked for then covers the whole buffer, contiguously: the
  device is told the segment's address and the chunk's length. -/
  mapped : Bool
  outcome : Nat → ChunkOutcome
  setGranted : Nat → Bool
  clearGranted : Nat → Bool

/-- `bmd` or `cmd` is null where it is used. -/
inductive SectionFault where
  | nullBuffer
  deriving DecidableEq, Repr

/-- What the service channel is told: where the bytes of the DMA buffer go. -/
structure ChunkWrite where
  dstAddr : Nat
  bytes : List UInt8
  deriving DecidableEq, Repr

/-- One turn of the loop: its write, whether the device got it, and the bit then and behind it. -/
structure ChunkLog where
  write : ChunkWrite
  issued : Bool
  extended : Bool
  extendedAfter : Bool
  deriving DecidableEq, Repr

/-- The DMA buffer and the bit. -/
structure SectionDma where
  buffer : List UInt8
  extended : Bool

/-- The destination lies in the extended range. -/
def extendedAddr (dstAddr : Nat) : Bool := iwlFwMemExtendedStart ≤ dstAddr && dstAddr ≤ iwlFwMemExtendedEnd

/-- `chunk_sz`. -/
def FwSection.chunkSz (sec : FwSection) : Nat := min fhMemTbMaxLength (sec.len % 2 ^ 32)

/-- `copy_size`. -/
def FwSection.copySize (sec : FwSection) (offset : Nat) : Nat :=
  min sec.chunkSz ((sec.len - offset) % 2 ^ 32)

/-- `dst_addr`. -/
def FwSection.dstAddr (sec : FwSection) (offset : Nat) : Nat := (sec.offset + offset) % 2 ^ 32

/-- The body of the loop: the `k`-th chunk, at `offset`. -/
def loadChunk (env : SectionEnv) (sec : FwSection) (offset k : Nat) (dma : SectionDma) :
    ChunkLog × SectionDma :=
  let extendedAddr := extendedAddr (sec.dstAddr offset)
  let extended := if extendedAddr && env.setGranted k then true else dma.extended
  let buffer := slice sec.data offset (sec.copySize offset) ++ dma.buffer.drop (sec.copySize offset)
  let extendedAfter := if extendedAddr && env.clearGranted k then false else extended
  ({ write := ⟨sec.dstAddr offset, buffer.take (sec.copySize offset)⟩
     issued := (env.outcome k).issued
     extended := extended
     extendedAfter := extendedAfter }, ⟨buffer, extendedAfter⟩)

/-- Where the loop is: still in it, or out with `ret`. -/
inductive LoadEnd where
  | running
  | returned (ret : Option LoadError)
  deriving DecidableEq, Repr

/-- The loop, for at most as many turns. -/
def chunkLoop (env : SectionEnv) (sec : FwSection) : Nat → Nat → Nat → SectionDma → LoadEnd × List ChunkLog
  | 0, _, _, _ => (.running, [])
  | turns + 1, offset, k, dma =>
    if offset < sec.len then
      let (chunk, dma) := loadChunk env sec offset k dma
      match (env.outcome k).ret with
      | some error => (.returned (some error), [chunk])
      | none =>
        let (last, chunks) := chunkLoop env sec turns ((offset + sec.chunkSz) % 2 ^ 32) (k + 1) dma
        (last, chunk :: chunks)
    else (.returned none, [])

/-- `iwl_pcie_load_section`. The bit is clear when the firmware is loaded. -/
def iwlPcieLoadSection (env : SectionEnv) (turns : Nat) (sec : FwSection) :
    Except SectionFault (LoadEnd × List ChunkLog) :=
  if !env.allocated then .error .nullBuffer
  else if !env.mapped then .ok (.returned (some .unmapped), [])
  else .ok (chunkLoop env sec turns 0 0 ⟨List.replicate sec.len 0, false⟩)

/-! ### The writes -/

/-- The bytes of a part of the section, to where they belong. -/
def FwSection.writeOf (sec : FwSection) (part : Part) : ChunkWrite :=
  ⟨sec.dstAddr part.start, slice sec.data part.start part.length⟩

/-- What was written to the device. -/
def issuedWrites (chunks : List ChunkLog) : List ChunkWrite :=
  (chunks.filter ChunkLog.issued).map ChunkLog.write

/-- The chunk is the first of the bytes left. -/
theorem loadChunk_write (env : SectionEnv) (sec : FwSection) {offset : Nat} (inside : offset < sec.len)
    (k : Nat) (dma : SectionDma) :
    (loadChunk env sec offset k dma).1.write = sec.writeOf ⟨offset, sec.copySize offset⟩ := by
  have fits : offset + sec.copySize offset ≤ sec.len := by
    have := Nat.mod_le (sec.len - offset) (2 ^ 32)
    unfold FwSection.copySize
    omega
  unfold loadChunk FwSection.writeOf
  dsimp only
  rw [List.take_left' (length_slice fits)]

theorem length_writeOf {sec : FwSection} {offset : Nat} (inside : offset < sec.len) :
    (sec.writeOf ⟨offset, sec.copySize offset⟩).bytes.length = sec.copySize offset := by
  have fits : offset + sec.copySize offset ≤ sec.len := by
    have := Nat.mod_le (sec.len - offset) (2 ^ 32)
    unfold FwSection.copySize
    omega
  exact length_slice fits

/-- The chunks the loop is to load. -/
def FwSection.parts (sec : FwSection) : List Part := cut sec.chunkSz sec.len (sec.len + 1) 0

section Short

variable {sec : FwSection}

theorem copySize_short (short : sec.len < 2 ^ 32) (offset : Nat) :
    sec.copySize offset = min sec.chunkSz (sec.len - offset) := by
  unfold FwSection.copySize
  rw [Nat.mod_eq_of_lt (by omega)]

theorem chunkSz_bounds (short : sec.len < 2 ^ 32 - fhMemTbMaxLength) (some : sec.len ≠ 0) :
    0 < sec.chunkSz ∧ sec.chunkSz ≤ fhMemTbMaxLength := by
  unfold FwSection.chunkSz
  unfold fhMemTbMaxLength at *
  omega

theorem ret_eq_none {outcome : ChunkOutcome} : outcome.ret = none ↔ outcome = .complete := by
  cases outcome <;> simp [ChunkOutcome.ret]

/-- A chunk is written, or the first write is not made. -/
theorem issuedWrites_cons (chunk : ChunkLog) (chunks : List ChunkLog) :
    issuedWrites (chunk :: chunks) =
      (if chunk.issued then [chunk.write] else []) ++ issuedWrites chunks := by
  unfold issuedWrites
  rw [List.filter_cons]
  split <;> rfl

/-- **The loop over the parts**: it leaves, and has written the first of them; all, when it is out with 0, and
that is when each is complete. -/
theorem chunkLoop_writes (env : SectionEnv) (short : sec.len < 2 ^ 32 - fhMemTbMaxLength) (turns offset k : Nat)
    (enough : sec.len - offset < turns) (dma : SectionDma) :
    ∃ ret chunks, chunkLoop env sec turns offset k dma = (.returned ret, chunks) ∧
      issuedWrites chunks <+: (cut sec.chunkSz sec.len turns offset).map sec.writeOf ∧
      (ret = none → issuedWrites chunks = (cut sec.chunkSz sec.len turns offset).map sec.writeOf) ∧
      (ret = none ↔ ∀ i < (cut sec.chunkSz sec.len turns offset).length, env.outcome (k + i) = .complete) := by
  induction turns generalizing offset k dma with
  | zero => exact absurd enough (Nat.not_lt_zero _)
  | succ turns ih =>
    unfold chunkLoop cut
    by_cases before : offset < sec.len
    · have size := chunkSz_bounds short (by omega)
      unfold fhMemTbMaxLength at short size
      have next : (offset + sec.chunkSz) % 2 ^ 32 = offset + sec.chunkSz := Nat.mod_eq_of_lt (by omega)
      rw [if_pos before, if_pos before, next]
      have write := loadChunk_write env sec before k dma
      rw [copySize_short (by omega)] at write
      have issued : (loadChunk env sec offset k dma).1.issued = (env.outcome k).issued := rfl
      dsimp only
      cases failed : (env.outcome k).ret with
      | some error =>
        refine ⟨some error, _, rfl, ?_, fun none => absurd none (Option.some_ne_none error),
          fun none => absurd none (Option.some_ne_none error), fun all => ?_⟩
        · rw [issuedWrites_cons, write, List.map_cons]
          split
          · exact List.prefix_append [_] _
          · exact List.nil_prefix
        · have complete := all 0 (Nat.zero_lt_succ _)
          rw [Nat.add_zero, ← ret_eq_none, failed] at complete
          cases complete
      | none =>
        obtain ⟨ret, chunks, later, isPrefix, whole, iff⟩ :=
          ih (offset + sec.chunkSz) (k + 1) (by omega) (loadChunk env sec offset k dma).2
        have complete := ret_eq_none.mp failed
        have first : issuedWrites ((loadChunk env sec offset k dma).1 :: chunks) =
            sec.writeOf ⟨offset, min sec.chunkSz (sec.len - offset)⟩ :: issuedWrites chunks := by
          rw [issuedWrites_cons, issued, complete, write]
          rfl
        rw [later]
        refine ⟨ret, _, rfl, ?_, fun none => ?_, fun none i before => ?_, fun all => ?_⟩
        · rw [first, List.map_cons]
          exact (List.prefix_cons_inj _).mpr isPrefix
        · rw [first, whole none, List.map_cons]
        · cases i with
          | zero => exact complete
          | succ i =>
            rw [Nat.add_comm i, ← Nat.add_assoc]
            exact iff.mp none i (Nat.lt_of_succ_lt_succ before)
        · refine iff.mpr fun i before => ?_
          rw [Nat.add_assoc, Nat.add_comm 1]
          exact all (i + 1) (Nat.succ_lt_succ before)
    · rw [if_neg before, if_neg before]
      exact ⟨none, [], rfl, List.prefix_refl _, fun _ => rfl,
        fun _ i inside => absurd inside (Nat.not_lt_zero i), fun _ => rfl⟩

theorem parts_tile (short : sec.len < 2 ^ 32 - fhMemTbMaxLength) : Tiles 0 sec.parts sec.len ∧
    ∀ part ∈ sec.parts, 0 < part.length ∧ part.length ≤ fhMemTbMaxLength := by
  unfold FwSection.parts
  by_cases empty : sec.len = 0
  · rw [empty]
    exact ⟨rfl, fun part none => absurd none List.not_mem_nil⟩
  · have size := chunkSz_bounds short empty
    have tiles : Tiles (min 0 sec.len) _ sec.len := tiles_cut size.1 (Nat.le_succ sec.len)
    rw [Nat.zero_min] at tiles
    refine ⟨tiles, fun part member => ?_⟩
    obtain ⟨some, most, _⟩ := length_of_mem_cut size.1 member
    exact ⟨some, Nat.le_trans most size.2⟩

/-- Each byte of a section is in one of its parts. -/
theorem parts_cover (short : sec.len < 2 ^ 32 - fhMemTbMaxLength) {position : Nat} (inside : position < sec.len) :
    covering sec.parts position = 1 := by
  rw [(parts_tile short).1.covering_eq, if_pos ⟨Nat.zero_le position, inside⟩]

/-- What a load of a section is to come to: the chunks written are the first of the parts, each to its place
with the section's bytes, and all of them when 0 is returned. -/
structure LoadsParts (env : SectionEnv) (sec : FwSection) (parts : List Part) (ret : Option LoadError)
    (chunks : List ChunkLog) : Prop where
  isPrefix : issuedWrites chunks <+: parts.map sec.writeOf
  whole : ret = none → issuedWrites chunks = parts.map sec.writeOf
  ret : ret = none ↔ env.mapped = true ∧ ∀ k < parts.length, env.outcome k = .complete

/-- **Chunks of a section**: parts of at most `FH_MEM_TB_MAX_LENGTH` bytes tile a section, and they are what a load
writes; when one of them fails, those up to it, and an error is returned. A turn for each byte
and one is enough. Without a buffer the driver faults before it writes. -/
theorem iwlPcieLoadSection_writes (env : SectionEnv) (sec : FwSection)
    (short : sec.len < 2 ^ 32 - fhMemTbMaxLength) :
    ∃ parts, Tiles 0 parts sec.len ∧ (∀ part ∈ parts, 0 < part.length ∧ part.length ≤ fhMemTbMaxLength) ∧
      match iwlPcieLoadSection env (sec.len + 1) sec with
      | .error _ => env.allocated = false
      | .ok (last, chunks) => ∃ ret, last = .returned ret ∧ LoadsParts env sec parts ret chunks := by
  refine ⟨sec.parts, (parts_tile short).1, (parts_tile short).2, ?_⟩
  unfold iwlPcieLoadSection
  cases allocated : env.allocated with
  | false => rfl
  | true =>
    cases mapped : env.mapped with
    | false =>
      exact ⟨_, rfl, List.nil_prefix, (nomatch ·), (nomatch ·), fun both => nomatch mapped.symm.trans both.1⟩
    | true =>
      obtain ⟨ret, chunks, left, isPrefix, whole, iff⟩ := chunkLoop_writes env short (sec.len + 1) 0 0
        (Nat.lt_succ_self sec.len) ⟨List.replicate sec.len 0, false⟩
      simp only [Nat.zero_add] at iff
      rw [if_neg (by decide), if_neg (by decide), left]
      exact ⟨ret, rfl, isPrefix, whole, fun none => ⟨mapped, iff.mp none⟩, fun both => iff.mpr both.2⟩

/-- Access and answers whenever they are asked for. -/
def calmEnv : SectionEnv where
  allocated := true
  mapped := true
  outcome := fun _ => .complete
  setGranted := fun _ => true
  clearGranted := fun _ => true

/-- The third chunk is written, and not answered. -/
def unansweredEnv : SectionEnv where
  allocated := true
  mapped := true
  outcome := fun k => if k = 2 then .timedOut else .complete
  setGranted := fun _ => true
  clearGranted := fun _ => true

/-- A section of two full chunks and a rest. -/
def longSection : FwSection where
  data := (List.range 300000).map UInt8.ofNat
  offset := 0x800

theorem longSection_writes :
    2 * fhMemTbMaxLength < longSection.len ∧ ∀ env ∈ [calmEnv, unansweredEnv],
      ∃ parts, Tiles 0 parts longSection.len ∧ (∀ part ∈ parts, 0 < part.length ∧ part.length ≤ fhMemTbMaxLength) ∧
        match iwlPcieLoadSection env (longSection.len + 1) longSection with
        | .error _ => env.allocated = false
        | .ok (last, chunks) => ∃ ret, last = .returned ret ∧ LoadsParts env longSection parts ret chunks := by
  have length : longSection.len = 300000 := by
    unfold FwSection.len longSection
    rw [List.length_map, List.length_range]
  have short : longSection.len < 2 ^ 32 - fhMemTbMaxLength := by
    rw [length]
    decide
  refine ⟨?_, fun env _ => iwlPcieLoadSection_writes env longSection short⟩
  rw [length]
  decide

end Short

/-! ### The extended range -/

/-- Each byte the chunk writes finds the bit as its destination needs it, and the bit is clear behind the
chunk. -/
def ChunkLog.Follows (chunk : ChunkLog) : Prop :=
  (chunk.issued = true → ∀ j < chunk.write.bytes.length,
    extendedAddr ((chunk.write.dstAddr + j) % 2 ^ 32) = chunk.extended) ∧ chunk.extendedAfter = false

/-- So it is with every chunk of a load, whenever it is looked at. -/
def FollowsWindow (env : SectionEnv) (sec : FwSection) : Prop :=
  ∀ turns last chunks, iwlPcieLoadSection env turns sec = .ok (last, chunks) →
    ∀ chunk ∈ chunks, chunk.Follows

/-- Where the `k`-th chunk starts. -/
def FwSection.chunkOffset (sec : FwSection) (k : Nat) : Nat := k * sec.chunkSz % 2 ^ 32

/-- The load comes from its `i`-th chunk to the `k`-th: each starts inside the section, and those before it are
complete. -/
def Reaches (env : SectionEnv) (sec : FwSection) (i k : Nat) : Prop :=
  (∀ m, i ≤ m → m ≤ k → sec.chunkOffset m < sec.len) ∧ ∀ m, i ≤ m → m < k → env.outcome m = .complete

/-- A chunk that is written is on one side of the border of the range, and where the bit is needed, there is
access to set it; where it was set, there is access to clear it. -/
structure ChunkCalm (env : SectionEnv) (sec : FwSection) (k : Nat) : Prop where
  oneSide : (env.outcome k).issued = true → ∀ j < sec.copySize (sec.chunkOffset k),
    extendedAddr ((sec.dstAddr (sec.chunkOffset k) + j) % 2 ^ 32) =
      extendedAddr (sec.dstAddr (sec.chunkOffset k))
  set : (env.outcome k).issued = true → 0 < sec.copySize (sec.chunkOffset k) →
    extendedAddr (sec.dstAddr (sec.chunkOffset k)) = true → env.setGranted k = true
  clear : extendedAddr (sec.dstAddr (sec.chunkOffset k)) = true → env.setGranted k = true →
    env.clearGranted k = true

section Window

variable (env : SectionEnv) {sec : FwSection} {k : Nat} {dma : SectionDma}

/-- With the bit clear before it. The first byte of a chunk is on the side that decides the bit. -/
theorem loadChunk_follows (inside : sec.chunkOffset k < sec.len) (clear : dma.extended = false) :
    (loadChunk env sec (sec.chunkOffset k) k dma).1.Follows ↔ ChunkCalm env sec k := by
  have write := loadChunk_write env sec inside k dma
  have length := length_writeOf inside
  have first : (sec.dstAddr (sec.chunkOffset k) + 0) % 2 ^ 32 = sec.dstAddr (sec.chunkOffset k) :=
    Nat.mod_mod _ _
  have same : (loadChunk env sec (sec.chunkOffset k) k dma).1 =
      { write := sec.writeOf ⟨sec.chunkOffset k, sec.copySize (sec.chunkOffset k)⟩
        issued := (env.outcome k).issued
        extended := extendedAddr (sec.dstAddr (sec.chunkOffset k)) && env.setGranted k
        extendedAfter := extendedAddr (sec.dstAddr (sec.chunkOffset k)) && env.setGranted k &&
          !env.clearGranted k } := by
    rw [← write]
    unfold loadChunk
    rw [clear]
    cases extendedAddr (sec.dstAddr (sec.chunkOffset k)) <;> cases env.setGranted k <;>
      cases env.clearGranted k <;> rfl
  rw [same]
  unfold ChunkLog.Follows
  dsimp only
  rw [length]
  show (_ → ∀ j < _, extendedAddr ((sec.dstAddr (sec.chunkOffset k) + j) % 2 ^ 32) = _) ∧ _ ↔ _
  cases range : extendedAddr (sec.dstAddr (sec.chunkOffset k)) with
  | false =>
    constructor
    · rintro ⟨bytes, _⟩
      refine ⟨fun issued j before => ?_, fun _ _ inRange => ?_, fun inRange => ?_⟩
      · rw [range]
        exact bytes issued j before
      · cases range.symm.trans inRange
      · cases range.symm.trans inRange
    · intro calm
      refine ⟨fun issued j before => ?_, rfl⟩
      rw [calm.oneSide issued j before, range]
      rfl
  | true =>
    rw [Bool.true_and]
    constructor
    · rintro ⟨bytes, cleared⟩
      have set (issued : (env.outcome k).issued = true) (some : 0 < sec.copySize (sec.chunkOffset k)) :
          env.setGranted k = true := by
        have byte := bytes issued 0 some
        rwa [first, range, eq_comm] at byte
      refine ⟨fun issued j before => ?_, fun issued some _ => set issued some, fun _ set => ?_⟩
      · rw [bytes issued j before, set issued (Nat.zero_lt_of_lt before), range]
      · rw [set] at cleared
        simpa using cleared
    · intro calm
      refine ⟨fun issued j before => ?_, ?_⟩
      · rw [calm.oneSide issued j before, range, calm.set issued (Nat.zero_lt_of_lt before) range]
      · cases set : env.setGranted k with
        | false => rfl
        | true =>
          rw [calm.clear range set]
          rfl

theorem chunkOffset_succ (sec : FwSection) (k : Nat) :
    (sec.chunkOffset k + sec.chunkSz) % 2 ^ 32 = sec.chunkOffset (k + 1) := by
  unfold FwSection.chunkOffset
  rw [Nat.mod_add_mod, Nat.succ_mul]

/-- **A turn at a time**: the chunks from the `k`-th on follow the range exactly when those that are reached are
calm. -/
theorem chunkLoop_follows (turns k : Nat) (clear : dma.extended = false) :
    (∀ chunk ∈ (chunkLoop env sec turns (sec.chunkOffset k) k dma).2, chunk.Follows) ↔
      ∀ m, k ≤ m → m < k + turns → Reaches env sec k m → ChunkCalm env sec m := by
  induction turns generalizing k dma with
  | zero => exact ⟨fun _ m since before => absurd before (by omega), fun _ _ none => (nomatch none)⟩
  | succ turns ih =>
    unfold chunkLoop
    by_cases inside : sec.chunkOffset k < sec.len
    · have first := loadChunk_follows env inside clear
      have here : Reaches env sec k k :=
        ⟨fun m above below => Nat.le_antisymm below above ▸ inside, fun m above below => by omega⟩
      rw [if_pos inside, chunkOffset_succ]
      dsimp only
      cases failed : (env.outcome k).ret with
      | some error =>
        rw [List.forall_mem_singleton, first]
        refine ⟨fun calm m above _ reached => ?_, fun calm => calm k (Nat.le_refl k) (by omega) here⟩
        rcases Nat.eq_or_lt_of_le above with rfl | later
        · exact calm
        · have complete := reached.2 k (Nat.le_refl k) later
          rw [← ret_eq_none, failed] at complete
          cases complete
      | none =>
        rw [List.forall_mem_cons, first]
        constructor
        · rintro ⟨calm, rest⟩ m above below reached
          rcases Nat.eq_or_lt_of_le above with rfl | later
          · exact calm
          · exact (ih (k + 1) (first.mpr calm).2).mp rest m later (by omega)
              ⟨fun i since => reached.1 i (by omega), fun i since => reached.2 i (by omega)⟩
        · intro all
          have calm := all k (Nat.le_refl k) (by omega) here
          refine ⟨calm, (ih (k + 1) (first.mpr calm).2).mpr fun m above below reached => ?_⟩
          refine all m (by omega) (by omega) ⟨fun i since upTo => ?_, fun i since upTo => ?_⟩
          · rcases Nat.eq_or_lt_of_le since with rfl | later
            · exact inside
            · exact reached.1 i later upTo
          · rcases Nat.eq_or_lt_of_le since with rfl | later
            · exact ret_eq_none.mp failed
            · exact reached.2 i later upTo
    · rw [if_neg inside]
      exact ⟨fun _ m above _ reached => absurd (reached.1 k (Nat.le_refl k) above) inside,
        fun _ _ none => (nomatch none)⟩

/-- **The extended range.** The bytes of a load find the bit as they need it, and it is clear behind each
chunk, exactly when every chunk that is reached is calm. The side is found from a chunk's first byte
alone. -/
theorem followsWindow_iff (env : SectionEnv) (sec : FwSection) :
    FollowsWindow env sec ↔
      (env.allocated = true → env.mapped = true → ∀ k, Reaches env sec 0 k → ChunkCalm env sec k) := by
  have start : sec.chunkOffset 0 = 0 := by simp [FwSection.chunkOffset]
  have loop (turns : Nat) :
      (∀ chunk ∈ (chunkLoop env sec turns (sec.chunkOffset 0) 0 ⟨List.replicate sec.len 0, false⟩).2,
        chunk.Follows) ↔ _ := chunkLoop_follows env turns 0 rfl
  rw [start] at loop
  unfold FollowsWindow iwlPcieLoadSection
  cases env.allocated with
  | false => exact ⟨fun _ no => (nomatch no), fun _ _ _ _ no => (nomatch no)⟩
  | true =>
    cases env.mapped with
    | false =>
      refine ⟨fun _ _ no => (nomatch no), fun _ _ last chunks loaded chunk member => ?_⟩
      cases loaded
      cases member
    | true =>
      constructor
      · intro follows _ _ k reached
        exact (loop (k + 1)).mp (follows (k + 1) _ _ rfl) k (Nat.zero_le k) (by omega) reached
      · intro calm turns last chunks loaded
        have same : chunkLoop env sec turns 0 0 ⟨List.replicate sec.len 0, false⟩ = (last, chunks) :=
          Except.ok.inj loaded
        have all := (loop turns).mpr fun m _ _ => calm rfl rfl m
        rwa [same] at all

end Window

/-- A section of eight bytes, the first four below the extended range. -/
def straddlingSection : FwSection where
  data := [1, 2, 3, 4, 5, 6, 7, 8]
  offset := 0x3FFFC

/-- The second half of the section is in the extended range, and is written with the bit clear. -/
theorem straddlingSection_strays : ¬ FollowsWindow calmEnv straddlingSection := by
  intro follows
  have chunk := (follows 9 _ _ rfl _ List.mem_cons_self).1 rfl 4 (by decide)
  revert chunk
  decide

end IntelWifi.Pcie
