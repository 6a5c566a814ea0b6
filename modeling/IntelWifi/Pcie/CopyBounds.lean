/-
**Sizes of a host command.**

The sizes of a command add up in `u16` variables, and a TB has 12 bits for its length. `slotWrites` are
the `memcpy` calls into the slot of a command, and `mappedLengths` the lengths its TBs are made for.

* `foldlM_sized`: what the planning loop computes, while what is copied stays below 2^16.
* `accepted_lengths`: the lengths the TBs decode to.
* `copyBounds_iff`: when an accepted command keeps to its slot and its TBs have their lengths.
-/

import IntelWifi.Pcie.TfdWire
import IntelWifi.Pcie.DmaOwnership

namespace IntelWifi.Pcie

open IntelWifi.Memory

/-! ### What is written where -/

/-- The `memcpy` calls of the second loop: where they write, and what. -/
def copyWrites : Nat → List IwlFragment → List (Nat × List UInt8)
  | _, [] => []
  | pos, frag :: later =>
    if frag.data.length = 0 then copyWrites pos later
    else
      let copy := if frag.plain then frag.data.length
        else min (tfdMaxPayloadSize - pos) frag.data.length
      (pos, frag.data.take copy) :: copyWrites (pos + copy) later

/-- Everything that is written into the slot. -/
def slotWrites (cmd : IwlHostCmd) (header : List UInt8) : List (Nat × List UInt8) :=
  (0, header) :: copyWrites (headerSize cmd) cmd.fragments

theorem foldl_copyFragment (frags : List IwlFragment) (out : HcmdCopy) :
    (frags.foldl copyFragment out).cmd =
      (copyWrites out.cmdPos frags).foldl (fun buf write => buf.memcpy write.1 write.2) out.cmd := by
  induction frags generalizing out with
  | nil => rfl
  | cons frag later ih =>
    rw [List.foldl_cons, ih, copyWrites]
    unfold copyFragment
    by_cases empty : frag.data.length = 0
    · rw [if_pos empty, if_pos empty]
    · rw [if_neg empty, if_neg empty]
      dsimp only
      by_cases plain : frag.plain = true
      · rw [if_pos plain, if_pos plain, List.foldl_cons, List.take_length]
      · rw [if_neg plain, if_neg plain, List.foldl_cons]

/-- The slot is the result of its writes. -/
theorem fillSlot_writes (cmd : IwlHostCmd) (header : List UInt8) (buf : IwlDeviceCmd) :
    (fillSlot cmd header buf).cmd =
      (slotWrites cmd header).foldl (fun buf write => buf.memcpy write.1 write.2) buf :=
  foldl_copyFragment cmd.fragments _

/-! ### Planning -/

/-- The planning loop, while `copy_size` does not overflow. -/
theorem foldlM_sized (env : EnqueueEnv) (frags : List IwlFragment) (plan plan' : HcmdPlan)
    (small : copiedSize plan.copySize frags < 2 ^ 16) (held : DupHeld plan)
    (planned : frags.foldlM (planFragment env) plan = .ok plan') :
    plan'.copySize = copiedSize plan.copySize frags ∧
      plan'.rests = plan.rests ++ restsFrom plan.copySize frags ∧
      PlainFirst plan.hadNocopy frags ∧ DupHeld plan' := by
  induction frags generalizing plan with
  | nil =>
    obtain rfl := Except.ok.inj planned
    exact ⟨rfl, (List.append_nil _).symm, trivial, held⟩
  | cons frag later ih =>
    rw [List.foldlM_cons] at planned
    cases first : planFragment env plan frag with
    | error e =>
      rw [first] at planned
      cases planned
    | ok mid =>
      rw [first] at planned
      rw [copiedSize] at small
      have step := planFragment_sized (Nat.lt_of_le_of_lt (le_copiedSize _ later) small) first
      have copySize : mid.copySize = plan.copySize + copiedOf plan.copySize frag := step.copySize
      have rests : mid.rests = plan.rests ++ _ := step.rests
      have had : mid.hadNocopy = (plan.hadNocopy || _) := step.hadNocopy
      obtain ⟨sizes, allRests, order, dup⟩ := ih mid (copySize.symm ▸ small) (step.dupHeld held) planned
      refine ⟨?_, ?_, ⟨step.order, had ▸ order⟩, dup⟩
      · rw [sizes, copySize, copiedSize]
      · rw [allRests, rests, copySize, restsFrom, List.append_assoc]
        rfl

/-! ### The slot -/

/-- A write keeps to the slot. -/
def InSlot (write : Nat × List UInt8) : Prop := write.1 + write.2.length ≤ tfdMaxPayloadSize

/-- **What is counted as copied fits**, if every write keeps to the slot. -/
theorem copiedSize_le_of_writes (frags : List IwlFragment) {n pos : Nat} (before : n ≤ pos)
    (inside : pos ≤ tfdMaxPayloadSize) (writes : ∀ write ∈ copyWrites pos frags, InSlot write) :
    copiedSize n frags ≤ tfdMaxPayloadSize := by
  induction frags generalizing n pos with
  | nil => exact Nat.le_trans before inside
  | cons frag later ih =>
    rw [copyWrites] at writes
    rw [copiedSize, copiedOf]
    split at writes
    · next empty =>
      refine ih ?_ inside writes
      rw [empty]
      split <;> omega
    · have own := writes _ List.mem_cons_self
      have rest := fun write member => writes write (List.mem_cons_of_mem _ member)
      unfold InSlot at own
      dsimp only at own
      rw [List.length_take] at own
      split at rest
      · next plain =>
        rw [if_pos plain] at own ⊢
        exact ih (by omega) (by omega) rest
      · next mapped =>
        rw [if_neg mapped] at own ⊢
        refine ih ?_ (by omega) rest
        unfold tfdMaxPayloadSize iwlFirstTbSize at *
        omega

/-- **Every write keeps to the slot**, if what is counted as copied fits and no plain fragment follows. -/
theorem writes_of_copiedSize_le (frags : List IwlFragment) {had : Bool} {n pos : Nat}
    (inside : pos ≤ tfdMaxPayloadSize) (same : had = false → pos = n) (order : PlainFirst had frags)
    (fits : copiedSize n frags ≤ tfdMaxPayloadSize) : ∀ write ∈ copyWrites pos frags, InSlot write := by
  induction frags generalizing had n pos with
  | nil => exact fun _ member => absurd member List.not_mem_nil
  | cons frag later ih =>
    obtain ⟨plainFirst, order⟩ := order
    rw [copyWrites]
    rw [copiedSize] at fits
    split
    · next empty =>
      have none : copiedOf n frag = 0 := Nat.le_zero.mp (empty ▸ copiedOf_le n frag)
      rw [none] at fits
      rw [empty, bne_self_eq_false, Bool.false_and, Bool.or_false] at order
      exact ih inside same order fits
    · next some =>
      dsimp only
      intro write member
      by_cases plain : frag.plain = true
      · have here := same (plainFirst some plain)
        rw [if_pos plain] at member
        rw [copiedOf, if_pos plain] at fits
        have bound := Nat.le_trans (le_copiedSize _ later) fits
        have stay : (had || frag.data.length != 0 && !frag.plain) = had := by
          rw [plain, Bool.not_true, Bool.and_false, Bool.or_false]
        rw [stay] at order
        rcases List.mem_cons.mp member with rfl | member
        · unfold InSlot
          dsimp only
          rw [List.take_length]
          omega
        · refine ih (by omega) (fun first => ?_) order fits write member
          rw [same first]
      · rw [if_neg plain] at member
        have had' : (had || frag.data.length != 0 && !frag.plain) = true := by
          simp [some, plain]
        rw [had'] at order
        rcases List.mem_cons.mp member with rfl | member
        · unfold InSlot
          rw [List.length_take]
          dsimp only
          omega
        · exact ih (by omega) (fun first => by cases first) order fits write member

/-! ### The lengths of the TBs -/

/-- What the TBs of a descriptor decode to. -/
def tfdLengths (tfd : IwlTfd) : List Nat := (tfdRanges tfd).map Prod.snd

/-- **A TB holds the low 12 bits of its length.** -/
theorem tbGetLen_mk (addr len : Nat) :
    iwlPcieTfdTbGetLen ⟨addr % 2 ^ 32, (len <<< 4) % 2 ^ 16 ||| iwlGetDmaHiAddr addr⟩ = len % 2 ^ 12 := by
  have high : iwlGetDmaHiAddr addr < 2 ^ 4 := Nat.mod_lt _ (by decide)
  have shifted : (len <<< 4) % 2 ^ 16 = (len % 2 ^ 12) <<< 4 := by
    rw [Nat.shiftLeft_eq, Nat.shiftLeft_eq]
    omega
  unfold iwlPcieTfdTbGetLen
  rw [shifted, ← Nat.shiftLeft_add_eq_or_of_lt high, Nat.shiftLeft_eq, Nat.shiftRight_eq_div_pow]
  dsimp only
  omega

/-- The descriptor has TBs made for these lengths, and room for the others. -/
structure MadeFor (tfd : IwlTfd) (lengths : List Nat) : Prop where
  slots : tfd.tbs.length = iwlNumOfTbs
  count : tfd.numTbs = lengths.length
  room : lengths.length ≤ 4
  listed : (tfd.tbs.take lengths.length).map iwlPcieTfdTbGetLen = lengths.map (· % 2 ^ 12)

theorem MadeFor.lengths_eq {tfd : IwlTfd} {lengths : List Nat} (made : MadeFor tfd lengths) :
    tfdLengths tfd = lengths.map (· % 2 ^ 12) := by
  have room := made.room
  have count : iwlPcieTfdGetNumTbs tfd = lengths.length := by
    unfold iwlPcieTfdGetNumTbs
    rw [made.count]
    omega
  rw [tfdLengths, tfdRanges, count, ← made.listed, List.map_map]
  rfl

/-- A further TB in the descriptor of `write_ptr`. -/
theorem MadeFor.build {txq : IwlTxq} {addr len : Nat} {reset : Bool} {lengths : List Nat}
    (made : MadeFor (if reset then .zero else txq.tfds txq.writePtr) lengths) (room : lengths.length < 4)
    (inside : addr < 2 ^ 36) :
    ∃ tfd, iwlPcieTxqBuildTfd txq addr len reset = txq.setTfd txq.writePtr tfd ∧
      MadeFor tfd (lengths ++ [len]) := by
  have count : iwlPcieTfdGetNumTbs (if reset then .zero else txq.tfds txq.writePtr) = lengths.length := by
    unfold iwlPcieTfdGetNumTbs
    rw [made.count]
    omega
  have index : lengths.length < (if reset then IwlTfd.zero else txq.tfds txq.writePtr).tbs.length := by
    rw [made.slots]
    unfold iwlNumOfTbs
    omega
  unfold iwlPcieTxqBuildTfd iwlTxDmaMask
  dsimp only
  rw [count, if_neg (by unfold iwlNumOfTbs; omega), if_neg (by omega)]
  refine ⟨_, rfl, ?_, ?_, ?_, ?_⟩
  · rw [iwlPcieTfdSetTb, List.length_set, made.slots]
  · rw [iwlPcieTfdSetTb, List.length_append, List.length_singleton]
  · rw [List.length_append, List.length_singleton]
    omega
  · rw [iwlPcieTfdSetTb, List.length_append, List.length_singleton, List.take_add_one, List.map_append,
      List.take_set_of_le (Nat.le_refl _), made.listed, List.getElem?_set_self index,
      Option.toList_some, List.map_singleton, tbGetLen_mk, List.map_append, List.map_singleton]

/-- All parts of a command. -/
theorem mapParts_madeFor {env : EnqueueEnv} {idx : Slot} (parts : List (Nat × List UInt8))
    {st mid : IwlTrans} {lengths : List Nat}
    (inside : ∀ k n dma, env.dmaBuf k n = some dma → dma < 2 ^ 36)
    (made : MadeFor (st.txq.tfds st.txq.writePtr) lengths) (room : lengths.length + parts.length ≤ 4)
    (mapped : parts.foldlM (mapPart env idx) st = .ok mid) :
    MadeFor (mid.txq.tfds st.txq.writePtr) (lengths ++ parts.map fun part => part.2.length) := by
  induction parts generalizing st lengths with
  | nil =>
    cases mapped
    rwa [List.map_nil, List.append_nil]
  | cons part rest ih =>
    rw [List.length_cons] at room
    rw [List.foldlM_cons] at mapped
    cases first : mapPart env idx st part with
    | error failed =>
      rw [first] at mapped
      cases mapped
    | ok next =>
      rw [first] at mapped
      unfold mapPart at first
      cases got : env.dmaBuf part.1 part.2.length with
      | none =>
        rw [got] at first
        cases first
      | some dma =>
        rw [got] at first
        obtain rfl := Except.ok.inj first
        obtain ⟨tfd, built, further⟩ := @MadeFor.build (st.txq.setEntry idx
            ((st.txq.entries idx).setDma part.1 ⟨dma, part.2.length⟩)) dma part.2.length false lengths
          made (by omega) (inside _ _ _ got)
        have later := @ih _ (lengths ++ [part.2.length])
          (by
            dsimp only
            rw [built, setTfd_writePtr, setTfd_same]
            exact further)
          (by rw [List.length_append, List.length_singleton]; omega) mapped
        rw [built] at later
        rwa [List.append_assoc] at later

/-! ### The law -/

/-- What the second loop leaves for a planned command. -/
def plannedOut (cmd : IwlHostCmd) (plan : HcmdPlan) (st : IwlTrans) : HcmdCopy :=
  fillSlot cmd (cmdHeader cmd (cmdSequence st.cmdQueue st.txq.writePtr) plan.cmdSize)
    (st.txq.entries (iwlPcieGetCmdIndex st.txq.writePtr)).cmd

/-- The lengths that are mapped: of the first TB, and of each part. -/
def mappedLengths (plan : HcmdPlan) (out : HcmdCopy) : List Nat :=
  min out.copySize iwlFirstTbSize :: (hcmdParts plan out).map fun part => part.2.length

/-- **An accepted command keeps to its buffers, and its TBs have their lengths.** -/
structure CopyBounds (env : EnqueueEnv) (cmd : IwlHostCmd) (st st' : IwlTrans) : Prop where
  slot : ∀ plan, admitted env cmd st = some plan →
    ∀ write ∈ slotWrites cmd (cmdHeader cmd (cmdSequence st.cmdQueue st.txq.writePtr) plan.cmdSize),
      InSlot write
  firstTb : ∀ plan, admitted env cmd st = some plan →
    ((plannedOut cmd plan st).cmd.bytes.take (min (plannedOut cmd plan st).copySize iwlFirstTbSize)).length
      ≤ iwlFirstTbSize
  lengths : ∀ plan, admitted env cmd st = some plan →
    tfdLengths (st'.txq.tfds st.txq.writePtr) = mappedLengths plan (plannedOut cmd plan st)

/-- The buffers a call gets, and the first-TB buffers, are at addresses a TB can name. -/
structure BuffersInside (env : EnqueueEnv) (txq : IwlTxq) : Prop where
  firstInside : txq.firstTbDma + tfdCmdSlots * firstTbBufSize ≤ 2 ^ 36
  inside : ∀ k n dma, env.dmaBuf k n = some dma → dma < 2 ^ 36

section Law

variable {env : EnqueueEnv} {cmd : IwlHostCmd} {st st' : IwlTrans} {idx : Slot}

theorem accepted_admitted (accepted : iwlPcieEnqueueHcmd env cmd st = (.ok idx, st')) :
    ∃ plan, admitted env cmd st = some plan ∧
      cmd.fragments.foldlM (planFragment env) (HcmdPlan.start cmd) = .ok plan := by
  unfold iwlPcieEnqueueHcmd at accepted
  unfold admitted
  split at accepted
  · cases accepted
  · next wide =>
    rw [if_neg wide]
    split at accepted
    · cases accepted
    · next plan planned =>
      rw [planned]
      split at accepted
      · cases accepted
      · next fits =>
        split at accepted
        · cases accepted
        · next room =>
          refine ⟨plan, ?_, rfl⟩
          show (if tfdMaxPayloadSize < plan.copySize then none
            else if iwlQueueSpace st.txq < requiredSpace cmd then none else some plan) = some plan
          rw [if_neg fits, if_neg room]

/-- **The TBs of an accepted command** decode to the low 12 bits of what is mapped. -/
theorem accepted_lengths (buffers : BuffersInside env st.txq) {plan : HcmdPlan}
    (passes : admitted env cmd st = some plan)
    (accepted : iwlPcieEnqueueHcmd env cmd st = (.ok idx, st')) :
    tfdLengths (st'.txq.tfds st.txq.writePtr) =
      (mappedLengths plan (plannedOut cmd plan st)).map (· % 2 ^ 12) := by
  obtain ⟨_, passes', planned⟩ := accepted_admitted accepted
  rw [Option.some.inj (passes'.symm.trans passes)] at planned
  obtain ⟨_, out, mid, planned', _, filled, mapped, _, sameTfds⟩ := enqueue_accepted accepted
  rw [Except.ok.inj (planned'.symm.trans planned)] at filled mapped
  obtain ⟨two, _⟩ := admitted_spec passes
  have few : (hcmdParts plan out).length ≤ 3 := by
    have length := (hcmdParts_places out two).length_le
    rwa [List.length_map, List.length_range] at length
  have reaches : iwlPcieGetFirstTbDma st.txq (iwlPcieGetCmdIndex st.txq.writePtr) < 2 ^ 36 := by
    have table := buffers.firstInside
    have slot := (iwlPcieGetCmdIndex st.txq.writePtr).isLt
    unfold iwlPcieGetFirstTbDma firstTbBufSize tfdCmdSlots at *
    omega
  have zero : MadeFor .zero [] := ⟨rfl, rfl, Nat.zero_le _, rfl⟩
  obtain ⟨tfd, built, first⟩ := @MadeFor.build
    (st.txq.setEntry (iwlPcieGetCmdIndex st.txq.writePtr)
      ⟨out.cmd, (st.txq.entries (iwlPcieGetCmdIndex st.txq.writePtr)).freeBuf,
        { IwlCmdMeta.zero with source := if cmd.flags.wantSkb then some cmd.ptr else none }⟩)
    (iwlPcieGetFirstTbDma st.txq (iwlPcieGetCmdIndex st.txq.writePtr)) (min out.copySize iwlFirstTbSize)
    true [] zero (by decide) reaches
  have started : MadeFor ((startTfd cmd out (iwlPcieGetCmdIndex st.txq.writePtr) st).txq.tfds
      (startTfd cmd out (iwlPcieGetCmdIndex st.txq.writePtr) st).txq.writePtr)
      [min out.copySize iwlFirstTbSize] := by
    unfold startTfd
    dsimp only
    rw [built, setTfd_writePtr, setTfd_same]
    exact first
  have all := mapParts_madeFor (hcmdParts plan out) buffers.inside started
    (by rw [List.length_singleton]; omega) mapped
  have samePtr : (startTfd cmd out (iwlPcieGetCmdIndex st.txq.writePtr) st).txq.writePtr =
      st.txq.writePtr := by
    unfold startTfd
    dsimp only
    rw [built]
    rfl
  rw [samePtr, ← sameTfds] at all
  rw [all.lengths_eq, filled]
  rfl

/-- What the parts of an accepted command are, while nothing overflows. -/
theorem accepted_parts {plan : HcmdPlan}
    (small : copiedSize (headerSize cmd) cmd.fragments < 2 ^ 16)
    (planned : cmd.fragments.foldlM (planFragment env) (HcmdPlan.start cmd) = .ok plan) (out : HcmdCopy) :
    plan.copySize = copiedSize (headerSize cmd) cmd.fragments ∧ PlainFirst false cmd.fragments ∧
      (hcmdParts plan out).map Prod.snd =
        (if iwlFirstTbSize < out.copySize then
          [(out.cmd.bytes.take out.copySize).drop iwlFirstTbSize] else []) ++
        remainders (headerSize cmd) cmd.fragments := by
  obtain ⟨copySize, rests, order, held⟩ := foldlM_sized env cmd.fragments (HcmdPlan.start cmd) plan small
    (fun _ member => absurd member List.not_mem_nil) planned
  exact ⟨copySize, order, (hcmdParts_spec rests held).1⟩

theorem headerSize_le (cmd : IwlHostCmd) : headerSize cmd ≤ tfdMaxPayloadSize := by
  unfold headerSize
  split <;> decide

/-- **When an accepted command keeps to its buffers**: what is copied of it does not overflow a `u16`,
and each remainder that is mapped has a length of 12 bits. -/
theorem copyBounds_iff (buffers : BuffersInside env st.txq)
    (accepted : iwlPcieEnqueueHcmd env cmd st = (.ok idx, st')) :
    CopyBounds env cmd st st' ↔
      copiedSize (headerSize cmd) cmd.fragments < 2 ^ 16 ∧
        ∀ rest ∈ remainders (headerSize cmd) cmd.fragments, rest.length < 2 ^ 12 := by
  obtain ⟨plan, passes, planned⟩ := accepted_admitted accepted
  have decoded := accepted_lengths buffers passes accepted
  have lengths (small : copiedSize (headerSize cmd) cmd.fragments < 2 ^ 16) :
      mappedLengths plan (plannedOut cmd plan st) =
        min (plannedOut cmd plan st).copySize iwlFirstTbSize ::
          ((if iwlFirstTbSize < (plannedOut cmd plan st).copySize then
            [((plannedOut cmd plan st).cmd.bytes.take (plannedOut cmd plan st).copySize).drop
              iwlFirstTbSize] else []) ++ remainders (headerSize cmd) cmd.fragments).map List.length := by
    rw [← (accepted_parts small planned _).2.2, List.map_map]
    rfl
  constructor
  · intro bounds
    have fits := copiedSize_le_of_writes cmd.fragments (Nat.le_refl _) (headerSize_le cmd)
      fun write member => bounds.slot plan passes write (List.mem_cons_of_mem _ member)
    have small : copiedSize (headerSize cmd) cmd.fragments < 2 ^ 16 :=
      Nat.lt_of_le_of_lt fits (by decide)
    refine ⟨small, fun rest member => ?_⟩
    have whole := (bounds.lengths plan passes).symm.trans decoded
    have listed : rest.length ∈ mappedLengths plan (plannedOut cmd plan st) := by
      rw [lengths small]
      exact List.mem_cons_of_mem _ (List.mem_map_of_mem (List.mem_append_right _ member))
    rw [whole] at listed
    obtain ⟨length, _, same⟩ := List.mem_map.mp listed
    exact same ▸ Nat.mod_lt _ (by decide)
  · rintro ⟨small, short⟩
    obtain ⟨copySize, order, _⟩ := accepted_parts small planned (plannedOut cmd plan st)
    obtain ⟨_, _, _, planned', fits, _⟩ := enqueue_accepted accepted
    rw [Except.ok.inj (planned'.symm.trans planned), copySize] at fits
    refine ⟨fun plan' passes' => ?_, fun plan' _ => ?_, fun plan' passes' => ?_⟩
    · intro write member
      rcases List.mem_cons.mp member with rfl | member
      · unfold InSlot
        rw [cmdHeader_length, Nat.zero_add]
        exact headerSize_le cmd
      · exact writes_of_copiedSize_le cmd.fragments (headerSize_le cmd) (fun _ => rfl) order fits write member
    · exact Nat.le_trans (List.length_take_le _ _) (Nat.min_le_right _ _)
    · rw [Option.some.inj (passes'.symm.trans passes), decoded]
      refine (List.map_congr_left fun length member => ?_).trans (List.map_id _)
      refine Nat.mod_eq_of_lt ?_
      rw [lengths small] at member
      rcases List.mem_cons.mp member with rfl | member
      · exact Nat.lt_of_le_of_lt (Nat.min_le_right _ _) (by decide)
      · obtain ⟨bytes, among, rfl⟩ := List.mem_map.mp member
        rcases List.mem_append.mp among with copied | rest
        · split at copied
          · rw [List.mem_singleton.mp copied, List.length_drop, List.length_take,
              IwlDeviceCmd.length_eq]
            unfold tfdMaxPayloadSize
            omega
          · cases copied
        · exact short bytes rest

theorem fixedBuffers_inside : BuffersInside fixedBuffers (.init 0x10000) :=
  ⟨fixedBuffers_apart.firstInside, fixedBuffers_apart.inside⟩

/-- A command of both kinds of fragments. -/
theorem copyBounds_mixed : CopyBounds fixedBuffers mixedCmd (.init 9 true false 0x10000)
    (iwlPcieEnqueueHcmd fixedBuffers mixedCmd (.init 9 true false 0x10000)).2 := by
  have accepted : iwlPcieEnqueueHcmd fixedBuffers mixedCmd (.init 9 true false 0x10000) =
      (.ok 0, (iwlPcieEnqueueHcmd fixedBuffers mixedCmd (.init 9 true false 0x10000)).2) :=
    Prod.ext rfl rfl
  exact (copyBounds_iff fixedBuffers_inside accepted).mpr (by decide)

end Law

/-- Buffers of any size. -/
def largeBuffers : EnqueueEnv where
  dupBuf := some 0x5000
  dmaBuf := fun k _ => some (0x20000 + 0x10000 * k)
  nicWakes := true

/-- A NOCOPY command of 4116 bytes, 12 of which are copied. -/
def pageCmd : IwlHostCmd where
  ptr := 0x9000
  id := 0x01a5
  flags := .none
  first := ⟨List.replicate 4116 0x11, by rw [List.length_replicate]; decide, true, false⟩
  second := ⟨[], nil_short, false, false⟩

/-- A plain command of 65535 bytes. -/
def wrappingCmd : IwlHostCmd where
  ptr := 0x9000
  id := 0xa5
  flags := .none
  first := ⟨List.replicate 65535 0x11, by rw [List.length_replicate]; decide, false, false⟩
  second := ⟨[], nil_short, false, false⟩

/-- A plain fragment of 65535 bytes after a short header: `copy_size` is 4 + 65535, modulo 2^16. -/
theorem planFragment_wraps (env : EnqueueEnv) (frag : IwlFragment) (long : frag.data.length = 65535)
    (nocopy : frag.nocopy = false) (dup : frag.dup = false) :
    planFragment env ⟨4, 4, false, none, []⟩ frag =
      .ok ⟨3, 3, false, none, [(frag, frag.data.drop 16)]⟩ := by
  unfold planFragment
  rw [long, nocopy, dup]
  dsimp only
  rw [List.length_drop, long]
  rfl

theorem copyFragment_wraps (frag : IwlFragment) (buf : IwlDeviceCmd)
    (long : frag.data.length = 65535) (plain : frag.plain = true) :
    (copyFragment ⟨buf, 4, 4⟩ frag).copySize = 3 := by
  unfold copyFragment
  rw [long, if_neg (by decide), if_pos plain]
  show (4 + 65535) % 2 ^ 16 = 3
  decide

theorem wrapping_length : wrappingCmd.first.data.length = 65535 := List.length_replicate

theorem wrapping_copySize (header : List UInt8) (buf : IwlDeviceCmd) :
    (fillSlot wrappingCmd header buf).copySize = 3 := by
  have last : ∀ out, copyFragment out wrappingCmd.second = out := fun _ => if_pos rfl
  have short : headerSize wrappingCmd = 4 := by decide
  unfold fillSlot IwlHostCmd.fragments
  rw [List.foldl_cons, List.foldl_cons, List.foldl_nil, last, short]
  exact copyFragment_wraps _ _ wrapping_length rfl

theorem not_inSlot {pos : Nat} {bytes : List UInt8} (long : tfdMaxPayloadSize < bytes.length) :
    ¬ InSlot (pos, bytes) :=
  fun inside => absurd (Nat.le_trans (Nat.le_add_left _ pos) inside) (Nat.not_le_of_gt long)

/-- A plain first fragment is written whole, after the header. -/
theorem slotWrites_first {cmd : IwlHostCmd} (header : List UInt8) (some : cmd.first.data.length ≠ 0)
    (plain : cmd.first.plain = true) : (headerSize cmd, cmd.first.data) ∈ slotWrites cmd header := by
  unfold slotWrites IwlHostCmd.fragments
  rw [copyWrites, if_neg some]
  dsimp only
  rw [if_pos plain, List.take_length]
  exact List.mem_cons_of_mem _ List.mem_cons_self

/-- Nothing is left for a TB of its own. -/
theorem wrapping_parts (out : HcmdCopy) (copySize : out.copySize = 3) :
    hcmdParts ⟨3, 3, false, none,
      [(wrappingCmd.first, wrappingCmd.first.data.drop 16), (wrappingCmd.second, [])]⟩ out = [] := by
  have whole : ¬ min out.copySize iwlFirstTbSize < out.copySize := by
    rw [copySize]
    decide
  have some : ¬ (wrappingCmd.first.data.drop 16).length = 0 := by
    rw [List.length_drop, wrapping_length]
    decide
  unfold hcmdParts
  dsimp only
  rw [if_neg whole, remainingParts, if_neg some, if_pos (show wrappingCmd.first.plain = true from rfl)]
  rfl

/-- A planned command whose first TB is all of it is accepted, if the NIC wakes up. -/
theorem enqueuePlanned_alone {env : EnqueueEnv} {cmd : IwlHostCmd} {plan : HcmdPlan} {st : IwlTrans}
    (alone : hcmdParts plan (plannedOut cmd plan st) = []) (wakes : env.nicWakes = true) :
    (enqueuePlanned env cmd plan st).1 = .ok (iwlPcieGetCmdIndex st.txq.writePtr) := by
  unfold plannedOut at alone
  unfold enqueuePlanned
  dsimp only
  rw [alone, List.foldlM_nil]
  dsimp only [pure, Except.pure]
  have result := setCmdInFlight_result env cmd (finishSlot cmd plan (iwlPcieGetCmdIndex st.txq.writePtr)
    (startTfd cmd (plannedOut cmd plan st) (iwlPcieGetCmdIndex st.txq.writePtr) st))
  have woken : nicRefuses env (finishSlot cmd plan (iwlPcieGetCmdIndex st.txq.writePtr)
      (startTfd cmd (plannedOut cmd plan st) (iwlPcieGetCmdIndex st.txq.writePtr) st)) = false := by
    unfold nicRefuses
    rw [wakes, Bool.not_true, Bool.and_false]
  rw [woken] at result
  unfold plannedOut at result
  generalize iwlPcieSetCmdInFlight env cmd _ = flight at result ⊢
  obtain ⟨_ | _, last⟩ := flight
  · cases result
  · rfl

theorem wrapping_accepted :
    (iwlPcieEnqueueHcmd largeBuffers wrappingCmd (.init 9 true false 0x10000)).1 = .ok 0 := by
  have planned : wrappingCmd.fragments.foldlM (planFragment largeBuffers) (.start wrappingCmd) =
      .ok ⟨3, 3, false, none,
        [(wrappingCmd.first, wrappingCmd.first.data.drop 16), (wrappingCmd.second, [])]⟩ := by
    unfold IwlHostCmd.fragments
    rw [List.foldlM_cons]
    have first := planFragment_wraps largeBuffers wrappingCmd.first wrapping_length rfl rfl
    rw [show HcmdPlan.start wrappingCmd = ⟨4, 4, false, none, []⟩ from rfl, first]
    rfl
  unfold iwlPcieEnqueueHcmd
  rw [if_neg (by decide), planned]
  dsimp only
  rw [if_neg (by decide), if_neg (by decide)]
  exact enqueuePlanned_alone (wrapping_parts _ (wrapping_copySize _ _)) rfl

/-- **Two commands that do not keep to their buffers**: 65535 bytes are written into a slot of 324, and
a TB for 4104 bytes says 8. -/
theorem copyBounds_broken :
    ((iwlPcieEnqueueHcmd largeBuffers wrappingCmd (.init 9 true false 0x10000)).1 = .ok 0 ∧
      (4, wrappingCmd.first.data) ∈ slotWrites wrappingCmd (cmdHeader wrappingCmd 0x900 3) ∧
      ¬ InSlot (4, wrappingCmd.first.data)) ∧
    (iwlPcieEnqueueHcmd largeBuffers pageCmd (.init 9 true false 0x10000)).1 = .ok 0 ∧
      (mappedParts largeBuffers pageCmd (.init 9 true false 0x10000)).map
        (List.map fun part => part.2.length) = some [4104] ∧
      tfdLengths ((iwlPcieEnqueueHcmd largeBuffers pageCmd (.init 9 true false 0x10000)).2.txq.tfds 0) =
        [20, 8] := by
  refine ⟨⟨wrapping_accepted, ?_, ?_⟩, by decide +kernel, by decide +kernel, by decide +kernel⟩
  · have short : headerSize wrappingCmd = 4 := by decide
    have write := @slotWrites_first wrappingCmd (cmdHeader wrappingCmd 0x900 3)
      (by rw [wrapping_length]; decide) rfl
    rwa [short] at write
  · exact not_inSlot (by rw [wrapping_length]; decide)

end IntelWifi.Pcie
