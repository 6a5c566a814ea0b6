/-
**What a failed `iwl_pcie_enqueue_hcmd` leaves.**

A call that fails in its checks has touched nothing but a DUP copy, which is never freed. One that fails
later has cleared the slot's `meta` and begun the descriptor of `write_ptr`; without the NIC it has also
filled both, replaced `free_buf` and claimed a reference, and it takes nothing of that back.

* `failed_cases`: the three ways to fail, and what each leaves.
* `enqueueFailure_iff`: when a failed call leaves everything as it was.
-/

import IntelWifi.Pcie.NicHold
import IntelWifi.Pcie.TfdPositions
import Mathlib.Data.List.TakeWhile

namespace IntelWifi.Pcie

open IntelWifi.Accounts

/-- The DUP copy that the first loop has made when it ends or fails. -/
def copyMade (env : EnqueueEnv) : HcmdPlan → List IwlFragment → Option Nat
  | plan, [] => plan.dupBuf.map Prod.fst
  | plan, frag :: later =>
    match planFragment env plan frag with
    | .error _ => plan.dupBuf.map Prod.fst
    | .ok plan => copyMade env plan later

/-- The DUP copy that a call has made. -/
def enqueueCopy (env : EnqueueEnv) (cmd : IwlHostCmd) (st : IwlTrans) : Option Nat :=
  if !st.wideCmdHeader && iwlAlwaysLongGroup < iwlCmdGroupid cmd.id then none
  else copyMade env (.start cmd) cmd.fragments

/-- The slot of `write_ptr`. -/
def IwlTrans.nextEntry (st : IwlTrans) : IwlPcieTxqEntry :=
  st.txq.entries (iwlPcieGetCmdIndex st.txq.writePtr)

/-- **A call leaves everything as it was**, for the slot and the descriptor of the `write_ptr` before it.
No copy it has made is left. -/
structure Undone (env : EnqueueEnv) (cmd : IwlHostCmd) (st st' : IwlTrans) : Prop where
  readPtr : st'.txq.readPtr = st.txq.readPtr
  writePtr : st'.txq.writePtr = st.txq.writePtr
  dma : (st'.txq.entries (iwlPcieGetCmdIndex st.txq.writePtr)).cmdMeta.dma = st.nextEntry.cmdMeta.dma
  freeBuf : (st'.txq.entries (iwlPcieGetCmdIndex st.txq.writePtr)).freeBuf = st.nextEntry.freeBuf
  copies : enqueueCopy env cmd st = none
  numTbs : (st'.txq.tfds st.txq.writePtr).numTbs = (st.txq.tfds st.txq.writePtr).numTbs
  holdAwake : st'.cmdHoldNicAwake = st.cmdHoldNicAwake
  refInFlight : st'.refCmdInFlight = st.refCmdInFlight
  refs : enqueueRefs env cmd st = 0

/-- The parts that get a buffer before one does not. -/
def mappedBefore (env : EnqueueEnv) (parts : List (Nat × List UInt8)) : List (Nat × List UInt8) :=
  parts.takeWhile fun part => (env.dmaBuf part.1 part.2.length).isSome

/-- **The condition on a call that fails.** It has made no DUP copy; and if it passes its checks, the slot
held no buffers before. Without a buffer for some part, the descriptor listed as many TBs as the call leaves
in it: none on the first lap of the window, else those put in. Without the NIC, the command is all in the
first TB, which is what the descriptor listed, the slot held no DUP copy, and no reference is claimed. -/
def failsCleanly (env : EnqueueEnv) (cmd : IwlHostCmd) (st : IwlTrans) : Bool :=
  (enqueueCopy env cmd st).isNone &&
    match admitted env cmd st with
    | none => true
    | some plan =>
      let parts := plannedParts cmd plan st
      let listed := (st.txq.tfds st.txq.writePtr).numTbs
      st.nextEntry.cmdMeta.dma == IwlCmdMeta.zero.dma &&
        if (mappedBefore env parts).length < parts.length then
          listed == if st.txq.writePtr.val < tfdCmdSlots then 0 else 1 + (mappedBefore env parts).length
        else parts.isEmpty && listed == 1 && st.nextEntry.freeBuf.isNone &&
          (cmd.flags.sendInIdle || st.refCmdInFlight)

/-! ### The DUP copy -/

/-- A first loop that ends has its copy in its plan. -/
theorem copyMade_of_ok {env : EnqueueEnv} {frags : List IwlFragment} {plan plan' : HcmdPlan}
    (planned : frags.foldlM (planFragment env) plan = .ok plan') :
    copyMade env plan frags = plan'.dupBuf.map Prod.fst := by
  induction frags generalizing plan with
  | nil =>
    cases planned
    rfl
  | cons frag later ih =>
    rw [List.foldlM_cons] at planned
    unfold copyMade
    cases first : planFragment env plan frag with
    | error e =>
      rw [first] at planned
      cases planned
    | ok mid =>
      rw [first] at planned
      exact ih planned

theorem admitted_copy {env : EnqueueEnv} {cmd : IwlHostCmd} {st : IwlTrans} {plan : HcmdPlan}
    (passes : admitted env cmd st = some plan) :
    enqueueCopy env cmd st = plan.dupBuf.map Prod.fst := by
  unfold admitted at passes
  unfold enqueueCopy
  split at passes
  · cases passes
  · next short =>
    rw [if_neg short]
    split at passes
    · cases passes
    · next planned =>
      split_ifs at passes
      obtain rfl := Option.some.inj passes
      exact copyMade_of_ok planned

/-! ### A command being mapped -/

/-- `meta->dma` with the buffers of some parts. -/
def withBuffers (env : EnqueueEnv) (parts : List (Nat × List UInt8)) : List (Option IwlDmaPtr) :=
  parts.foldl (fun dma part => dma.set part.1
    ((env.dmaBuf part.1 part.2.length).map fun addr => ⟨addr, part.2.length⟩)) IwlCmdMeta.zero.dma

/-- Some parts of a command are mapped. -/
structure Partly (env : EnqueueEnv) (st : IwlTrans) (parts : List (Nat × List UInt8)) (st' : IwlTrans) :
    Prop where
  readPtr : st'.txq.readPtr = st.txq.readPtr
  writePtr : st'.txq.writePtr = st.txq.writePtr
  nic : SameNic st st'
  dma : (st'.txq.entries (iwlPcieGetCmdIndex st.txq.writePtr)).cmdMeta.dma = withBuffers env parts
  freeBuf : (st'.txq.entries (iwlPcieGetCmdIndex st.txq.writePtr)).freeBuf = st.nextEntry.freeBuf
  numTbs : (st'.txq.tfds st.txq.writePtr).numTbs = 1 + parts.length
  tfds : ∀ i, i ≠ st.txq.writePtr → st'.txq.tfds i = st.txq.tfds i

/-- **What the kernel promises of the buffers** it gives: their addresses fit in a TB, and none is one that
the slot still has. -/
structure NewBuffers (env : EnqueueEnv) (st : IwlTrans) : Prop where
  inMask : ∀ k n dma, env.dmaBuf k n = some dma → dma ≤ iwlTxDmaMask
  fresh : ∀ k n dma, env.dmaBuf k n = some dma → some ⟨dma, n⟩ ∉ st.nextEntry.cmdMeta.dma

/-- What every run keeps of the descriptors. -/
structure TfdsInOrder (q : IwlTxq) : Prop where
  inMask : FirstTbsInMask q
  few : FewTbs q

section Mapping

variable {env : EnqueueEnv} {cmd : IwlHostCmd} {st : IwlTrans}

/-- The first TB. -/
theorem startTfd_partly (cmd : IwlHostCmd) (out : HcmdCopy) (inMask : FirstTbsInMask st.txq) :
    Partly env st [] (startTfd cmd out (iwlPcieGetCmdIndex st.txq.writePtr) st) := by
  obtain ⟨entry, tfd, dma, freeBuf, count, txq⟩ := startTfd_txq cmd out inMask
  refine ⟨?_, ?_, ⟨rfl, rfl, rfl⟩, ?_, ?_, ?_, fun i other => ?_⟩
  · rw [txq]
    rfl
  · rw [txq]
    rfl
  · rw [txq, setTfd_entries, setEntry_same, dma]
    rfl
  · rw [txq, setTfd_entries, setEntry_same, freeBuf]
    rfl
  · rw [txq, setTfd_same, count]
    rfl
  · rw [txq]
    exact setTfd_other _ _ _ other

/-- One more TB. -/
theorem Partly.map {parts : List (Nat × List UInt8)} {part : Nat × List UInt8} {mid : IwlTrans}
    {addr : Nat} (partly : Partly env st parts mid) (few : parts.length < 4)
    (got : env.dmaBuf part.1 part.2.length = some addr) (inMask : addr ≤ iwlTxDmaMask) :
    Partly env st (parts ++ [part]) { mid with
      memory := Memory.store mid.memory addr part.2
      txq := iwlPcieTxqBuildTfd
        (mid.txq.setEntry (iwlPcieGetCmdIndex st.txq.writePtr)
          ((mid.txq.entries (iwlPcieGetCmdIndex st.txq.writePtr)).setDma part.1 ⟨addr, part.2.length⟩))
        addr part.2.length false } := by
  have listed := partly.numTbs
  have count : iwlPcieTfdGetNumTbs (mid.txq.tfds st.txq.writePtr) = 1 + parts.length := by
    unfold iwlPcieTfdGetNumTbs
    omega
  have built : iwlPcieTxqBuildTfd
      (mid.txq.setEntry (iwlPcieGetCmdIndex st.txq.writePtr)
        ((mid.txq.entries (iwlPcieGetCmdIndex st.txq.writePtr)).setDma part.1 ⟨addr, part.2.length⟩))
      addr part.2.length false =
      (mid.txq.setEntry (iwlPcieGetCmdIndex st.txq.writePtr)
        ((mid.txq.entries (iwlPcieGetCmdIndex st.txq.writePtr)).setDma part.1 ⟨addr, part.2.length⟩)).setTfd
        st.txq.writePtr
        (iwlPcieTfdSetTb (mid.txq.tfds st.txq.writePtr) (1 + parts.length) addr part.2.length) := by
    unfold iwlPcieTxqBuildTfd
    simp only [Bool.false_eq_true, if_false, setEntry_tfds, setEntry_writePtr, partly.writePtr]
    rw [count, if_neg (by unfold iwlNumOfTbs; omega), if_neg (Nat.not_lt.mpr inMask)]
  rw [built]
  refine ⟨partly.readPtr, partly.writePtr, ⟨partly.nic.wa, partly.nic.hold, partly.nic.ref⟩, ?_, ?_, ?_,
    fun i other => (setTfd_other _ _ _ other).trans (partly.tfds i other)⟩
  · refine (congrArg (fun entry => entry.cmdMeta.dma) (setEntry_same _ _ _)).trans ?_
    show (mid.txq.entries _).cmdMeta.dma.set part.1 _ = _
    unfold withBuffers
    rw [partly.dma, List.foldl_append]
    show _ = List.set _ part.1 _
    rw [got]
    rfl
  · exact (congrArg IwlPcieTxqEntry.freeBuf (setEntry_same _ _ _)).trans partly.freeBuf
  · refine (congrArg IwlTfd.numTbs (setTfd_same _ _ _)).trans ?_
    show 1 + parts.length + 1 = _
    rw [List.length_append, List.length_singleton, Nat.add_assoc]

/-- **The parts of a command** are mapped up to the first without a buffer. -/
theorem mapParts_partly (buffers : NewBuffers env st) (parts : List (Nat × List UInt8))
    {done : List (Nat × List UInt8)} {mid : IwlTrans} (partly : Partly env st done mid)
    (few : done.length + parts.length ≤ 4) :
    match parts.foldlM (mapPart env (iwlPcieGetCmdIndex st.txq.writePtr)) mid with
    | .error st' => Partly env st (done ++ mappedBefore env parts) st' ∧
        (mappedBefore env parts).length < parts.length
    | .ok st' => Partly env st (done ++ parts) st' ∧ mappedBefore env parts = parts := by
  induction parts generalizing done mid with
  | nil => exact ⟨by rwa [List.append_nil], rfl⟩
  | cons part rest ih =>
    rw [List.length_cons] at few
    rw [List.foldlM_cons]
    unfold mapPart
    cases got : env.dmaBuf part.1 part.2.length with
    | none =>
      have none : mappedBefore env (part :: rest) = [] :=
        List.takeWhile_cons_of_neg (by rw [got]; exact Bool.false_ne_true)
      rw [none, List.append_nil]
      exact ⟨partly, Nat.succ_pos _⟩
    | some addr =>
      have before : mappedBefore env (part :: rest) = part :: mappedBefore env rest :=
        List.takeWhile_cons_of_pos (by rw [got]; rfl)
      have later := ih (partly.map (by omega) got (buffers.inMask _ _ _ got))
        (by rw [List.length_append, List.length_singleton]; omega)
      rw [List.append_assoc, List.append_assoc, List.singleton_append, List.singleton_append] at later
      rw [before, List.length_cons, List.length_cons]
      show match rest.foldlM (mapPart env _) _ with
        | .error st' => Partly env st (done ++ part :: mappedBefore env rest) st' ∧
            (mappedBefore env rest).length + 1 < rest.length + 1
        | .ok st' => Partly env st (done ++ part :: rest) st' ∧
            part :: mappedBefore env rest = part :: rest
      generalize rest.foldlM (mapPart env _) _ = result at later ⊢
      cases result with
      | error _ => exact ⟨later.1, Nat.succ_lt_succ later.2⟩
      | ok _ => exact ⟨later.1, congrArg _ later.2⟩

/-- `meta->dma` keeps its length. -/
theorem withBuffers_length (parts : List (Nat × List UInt8)) : (withBuffers env parts).length = metaDmaSize :=
  List.foldlRecOn (motive := fun dma : List (Option IwlDmaPtr) => dma.length = metaDmaSize) parts _ rfl
    fun _ same _ _ => List.length_set.trans same

/-- The last part's buffer is in `meta->dma`. -/
theorem mem_withBuffers {parts : List (Nat × List UInt8)} {part : Nat × List UInt8} {addr : Nat}
    (inside : part.1 < metaDmaSize) (got : env.dmaBuf part.1 part.2.length = some addr) :
    some ⟨addr, part.2.length⟩ ∈ withBuffers env (parts ++ [part]) := by
  have set : withBuffers env (parts ++ [part]) =
      (withBuffers env parts).set part.1 (some ⟨addr, part.2.length⟩) := by
    unfold withBuffers
    rw [List.foldl_append]
    show List.set _ part.1 _ = _
    rw [got]
    rfl
  rw [set]
  exact List.mem_set (by rw [withBuffers_length]; exact inside) _

end Mapping

/-! ### How a call fails -/

/-- **The three ways to fail.** -/
inductive Failed (env : EnqueueEnv) (cmd : IwlHostCmd) (st st' : IwlTrans) : Prop
  | checks (refused : admitted env cmd st = none) (same : st' = st)
      (refs : enqueueRefs env cmd st = 0)
  | unmapped (plan : HcmdPlan) (mid : IwlTrans) (passes : admitted env cmd st = some plan)
      (partly : Partly env st (mappedBefore env (plannedParts cmd plan st)) mid)
      (short : (mappedBefore env (plannedParts cmd plan st)).length < (plannedParts cmd plan st).length)
      (ends : st' = { mid with txq := iwlPcieTfdUnmap mid.txq st.txq.writePtr })
      (refs : enqueueRefs env cmd st = 0)
  | asleep (plan : HcmdPlan) (mid : IwlTrans) (passes : admitted env cmd st = some plan)
      (partly : Partly env st (plannedParts cmd plan st) mid)
      (all : mappedBefore env (plannedParts cmd plan st) = plannedParts cmd plan st)
      (txq : st'.txq = (finishSlot cmd plan (iwlPcieGetCmdIndex st.txq.writePtr) mid).txq)
      (hold : st'.cmdHoldNicAwake = st.cmdHoldNicAwake)
      (ref : st'.refCmdInFlight = (st.refCmdInFlight || !cmd.flags.sendInIdle))
      (refs : enqueueRefs env cmd st = if !cmd.flags.sendInIdle && !st.refCmdInFlight then 1 else 0)

section Failing

variable {env : EnqueueEnv} {cmd : IwlHostCmd} {plan : HcmdPlan} {st st' : IwlTrans} {e : HcmdError}

/-- At most three parts are mapped, each in a place of its own. -/
theorem plannedParts_places (passes : admitted env cmd st = some plan) :
    ((plannedParts cmd plan st).map Prod.fst).Sublist (List.range metaDmaSize) :=
  hcmdParts_places _ (admitted_spec passes).1

/-- Without the NIC, a reference may be claimed and nothing is held. -/
theorem setCmdInFlight_asleep {mid last : IwlTrans}
    (failed : iwlPcieSetCmdInFlight env cmd mid = (.error e, last)) :
    last.txq = mid.txq ∧ last.cmdHoldNicAwake = mid.cmdHoldNicAwake ∧
      last.refCmdInFlight = (mid.refCmdInFlight || !cmd.flags.sendInIdle) := by
  have claims : (if (!cmd.flags.sendInIdle && !mid.refCmdInFlight) = true then
      { mid with refCmdInFlight := true } else mid).refCmdInFlight =
        (mid.refCmdInFlight || !cmd.flags.sendInIdle) := by
    cases idle : cmd.flags.sendInIdle <;> cases held : mid.refCmdInFlight <;> first | rfl | exact held
  have others : (if (!cmd.flags.sendInIdle && !mid.refCmdInFlight) = true then
      { mid with refCmdInFlight := true } else mid).txq = mid.txq ∧
      (if (!cmd.flags.sendInIdle && !mid.refCmdInFlight) = true then
      { mid with refCmdInFlight := true } else mid).cmdHoldNicAwake = mid.cmdHoldNicAwake := by
    split <;> exact ⟨rfl, rfl⟩
  unfold iwlPcieSetCmdInFlight at failed
  dsimp only at failed
  generalize (if (!cmd.flags.sendInIdle && !mid.refCmdInFlight) = true then
      { mid with refCmdInFlight := true } else mid) = claimed at *
  split at failed
  · split at failed
    · cases (Prod.mk.inj failed).1
    · obtain rfl := (Prod.mk.inj failed).2
      exact ⟨others.1, others.2, claims⟩
  · cases (Prod.mk.inj failed).1

/-- **How a call fails.** -/
theorem failed_cases (order : TfdsInOrder st.txq) (buffers : NewBuffers env st)
    (failed : iwlPcieEnqueueHcmd env cmd st = (.error e, st')) : Failed env cmd st st' := by
  have checked := enqueue_eq env cmd st
  cases admits : admitted env cmd st with
  | none =>
    rw [admits] at checked
    refine .checks admits ((congrArg Prod.snd failed).symm.trans checked) ?_
    unfold enqueueRefs
    rw [admits]
  | some plan =>
    rw [admits] at checked
    dsimp only at checked
    rw [checked] at failed
    have places := (plannedParts_places admits).length_le
    rw [List.length_map, List.length_range] at places
    have mapped := mapParts_partly buffers (plannedParts cmd plan st)
      (startTfd_partly cmd (fillSlot cmd (cmdHeader cmd (cmdSequence st.cmdQueue st.txq.writePtr) plan.cmdSize)
        (st.txq.entries (iwlPcieGetCmdIndex st.txq.writePtr)).cmd) order.inMask)
      (by rw [List.length_nil, Nat.zero_add]; exact Nat.le_trans places (by decide))
    rw [List.nil_append, List.nil_append] at mapped
    have refs : enqueueRefs env cmd st = enqueuePlannedRefs env cmd plan st := by
      unfold enqueueRefs
      rw [admits]
    unfold enqueuePlannedRefs at refs
    unfold enqueuePlanned at failed
    unfold plannedParts at mapped
    dsimp only at failed refs mapped
    generalize (hcmdParts plan _).foldlM (mapPart env _) _ = result at failed refs mapped
    cases result with
    | error mid =>
      have ends := (Prod.mk.inj failed).2.symm
      rw [mapped.1.writePtr] at ends
      exact .unmapped plan mid admits mapped.1 mapped.2 ends refs
    | ok mid =>
      dsimp only at failed refs
      cases woken : iwlPcieSetCmdInFlight env cmd
          (finishSlot cmd plan (iwlPcieGetCmdIndex st.txq.writePtr) mid) with
      | mk outcome last =>
        rw [woken] at failed
        cases outcome with
        | ok _ => cases (Prod.mk.inj failed).1
        | error e' =>
          obtain rfl := (Prod.mk.inj failed).2
          obtain ⟨txq, hold, ref⟩ := setCmdInFlight_asleep woken
          have claimed : (finishSlot cmd plan (iwlPcieGetCmdIndex st.txq.writePtr) mid).refCmdInFlight =
              st.refCmdInFlight := mapped.1.nic.ref
          unfold setCmdInFlightRefs at refs
          rw [claimed] at ref refs
          exact .asleep plan mid admits mapped.1 mapped.2 txq (hold.trans mapped.1.nic.hold) ref refs

/-- **Failing for want of a buffer**: the slot is emptied, and so is the descriptor on the first lap. -/
theorem undone_unmapped_iff {mid : IwlTrans} {parts : List (Nat × List UInt8)}
    (order : TfdsInOrder st.txq) (partly : Partly env st parts mid) (few : parts.length ≤ 3)
    (refs : enqueueRefs env cmd st = 0) :
    Undone env cmd st { mid with txq := iwlPcieTfdUnmap mid.txq st.txq.writePtr } ↔
      enqueueCopy env cmd st = none ∧ st.nextEntry.cmdMeta.dma = IwlCmdMeta.zero.dma ∧
        (st.txq.tfds st.txq.writePtr).numTbs =
          if st.txq.writePtr.val < tfdCmdSlots then 0 else 1 + parts.length := by
  have listed := partly.numTbs
  have fewMid : FewTbs mid.txq := by
    intro i
    by_cases here : i = st.txq.writePtr
    · rw [here]
      omega
    · rw [partly.tfds i here]
      exact order.few i
  have txq : iwlPcieTfdUnmap mid.txq st.txq.writePtr =
      (mid.txq.setEntry (iwlPcieGetCmdIndex st.txq.writePtr)
        (mid.txq.entries (iwlPcieGetCmdIndex st.txq.writePtr)).unmapped).setTfd
        (iwlPcieGetTfd st.txq.writePtr) { mid.txq.tfds (iwlPcieGetTfd st.txq.writePtr) with numTbs := 0 } :=
    if_neg (fewMid.few _)
  have entry : (iwlPcieTfdUnmap mid.txq st.txq.writePtr).entries (iwlPcieGetCmdIndex st.txq.writePtr) =
      (mid.txq.entries (iwlPcieGetCmdIndex st.txq.writePtr)).unmapped := by
    rw [txq, setTfd_entries, setEntry_same]
  have dma : ((iwlPcieTfdUnmap mid.txq st.txq.writePtr).entries
      (iwlPcieGetCmdIndex st.txq.writePtr)).cmdMeta.dma = IwlCmdMeta.zero.dma := by
    rw [entry]
    show List.map (fun _ => none) (mid.txq.entries _).cmdMeta.dma = _
    rw [partly.dma, List.map_const', withBuffers_length]
    rfl
  have numTbs : ((iwlPcieTfdUnmap mid.txq st.txq.writePtr).tfds st.txq.writePtr).numTbs =
      if st.txq.writePtr.val < tfdCmdSlots then 0 else 1 + parts.length := by
    rw [txq]
    by_cases first : st.txq.writePtr.val < tfdCmdSlots
    · rw [if_pos first, (getTfd_eq_iff _).mpr first, setTfd_same]
    · rw [if_neg first, setTfd_other _ _ _ fun same => first ((getTfd_eq_iff _).mp same.symm)]
      exact listed
  constructor
  · rintro ⟨_, _, sameDma, _, copies, sameTbs, _, _, _⟩
    exact ⟨copies, sameDma.symm.trans dma, sameTbs.symm.trans numTbs⟩
  · rintro ⟨copies, clear, count⟩
    exact ⟨(tfdUnmap_readPtr _ _).trans partly.readPtr, (tfdUnmap_writePtr _ _).trans partly.writePtr,
      dma.trans clear.symm, (congrArg IwlPcieTxqEntry.freeBuf entry).trans partly.freeBuf, copies,
      numTbs.trans count.symm, partly.nic.hold, partly.nic.ref, refs⟩

/-- **A part that is mapped shows** in the slot's buffers: the last one's is new, and the slot did not have it. -/
theorem no_parts_of_same_buffers (buffers : NewBuffers env st) (passes : admitted env cmd st = some plan)
    (all : mappedBefore env (plannedParts cmd plan st) = plannedParts cmd plan st)
    (same : withBuffers env (plannedParts cmd plan st) = st.nextEntry.cmdMeta.dma) :
    plannedParts cmd plan st = [] := by
  rcases List.eq_nil_or_concat' (plannedParts cmd plan st) with empty | ⟨front, last, split⟩
  · exact empty
  · exfalso
    have places := (plannedParts_places passes).subset
    rw [split] at places same all
    have inside : last.1 < metaDmaSize :=
      List.mem_range.mp (places (List.mem_map_of_mem (List.mem_append_right _ List.mem_cons_self)))
    have member : last ∈ mappedBefore env (front ++ [last]) := by
      rw [all]
      exact List.mem_append_right _ List.mem_cons_self
    have found := List.mem_takeWhile_imp member
    obtain ⟨addr, got⟩ := Option.isSome_iff_exists.mp found
    exact buffers.fresh _ _ _ got (same ▸ mem_withBuffers inside got)

/-- The reference is as it was: the command claims none, or it was claimed. -/
theorem ref_stays_iff {ref idle : Bool} : (ref || !idle) = ref ↔ (idle || ref) = true := by
  cases idle with
  | true => simp
  | false =>
    rw [Bool.not_false, Bool.or_true, Bool.false_or]
    exact eq_comm

/-- **Failing to wake the NIC**: slot and descriptor are filled, and a reference may be claimed. -/
theorem undone_asleep_iff {mid : IwlTrans} (buffers : NewBuffers env st)
    (passes : admitted env cmd st = some plan) (partly : Partly env st (plannedParts cmd plan st) mid)
    (all : mappedBefore env (plannedParts cmd plan st) = plannedParts cmd plan st)
    (txq : st'.txq = (finishSlot cmd plan (iwlPcieGetCmdIndex st.txq.writePtr) mid).txq)
    (hold : st'.cmdHoldNicAwake = st.cmdHoldNicAwake)
    (ref : st'.refCmdInFlight = (st.refCmdInFlight || !cmd.flags.sendInIdle))
    (refs : enqueueRefs env cmd st = if !cmd.flags.sendInIdle && !st.refCmdInFlight then 1 else 0) :
    Undone env cmd st st' ↔
      enqueueCopy env cmd st = none ∧ st.nextEntry.cmdMeta.dma = IwlCmdMeta.zero.dma ∧
        plannedParts cmd plan st = [] ∧ (st.txq.tfds st.txq.writePtr).numTbs = 1 ∧
        st.nextEntry.freeBuf = none ∧ (cmd.flags.sendInIdle || st.refCmdInFlight) = true := by
  have copy := admitted_copy passes
  have entry : st'.txq.entries (iwlPcieGetCmdIndex st.txq.writePtr) =
      finishEntry cmd plan (mid.txq.entries (iwlPcieGetCmdIndex st.txq.writePtr)) := by
    rw [txq]
    exact setEntry_same _ _ _
  have dma : (st'.txq.entries (iwlPcieGetCmdIndex st.txq.writePtr)).cmdMeta.dma =
      withBuffers env (plannedParts cmd plan st) := by
    rw [entry]
    exact partly.dma
  have freeBuf : (st'.txq.entries (iwlPcieGetCmdIndex st.txq.writePtr)).freeBuf =
      enqueueCopy env cmd st := by
    rw [entry, copy]
    rfl
  have numTbs : (st'.txq.tfds st.txq.writePtr).numTbs = 1 + (plannedParts cmd plan st).length := by
    rw [txq]
    exact partly.numTbs
  constructor
  · rintro ⟨_, _, sameDma, sameBuf, copies, sameTbs, _, sameRef, _⟩
    rw [dma] at sameDma
    have none := no_parts_of_same_buffers buffers passes all sameDma
    rw [none] at sameDma numTbs
    refine ⟨copies, sameDma.symm, none, sameTbs.symm.trans numTbs, ?_, ?_⟩
    · exact sameBuf.symm.trans (freeBuf.trans copies)
    · exact ref_stays_iff.mp (ref.symm.trans sameRef)
  · rintro ⟨copies, clear, none, count, bare, claimed⟩
    rw [none] at dma numTbs
    refine ⟨?_, ?_, dma.trans clear.symm, freeBuf.trans (copies.trans bare.symm), copies,
      numTbs.trans count.symm, hold, ?_, ?_⟩
    · rw [txq]
      exact partly.readPtr
    · rw [txq]
      exact partly.writePtr
    · exact ref.trans (ref_stays_iff.mpr claimed)
    · rw [refs, if_neg]
      intro both
      rw [Bool.and_eq_true, Bool.not_eq_true', Bool.not_eq_true'] at both
      rw [both.1, both.2] at claimed
      cases claimed

theorem mappedBefore_length (parts : List (Nat × List UInt8)) :
    (mappedBefore env parts).length ≤ parts.length :=
  (List.takeWhile_prefix _).length_le

/-- **When a failed call leaves everything as it was.** -/
theorem undone_iff (order : TfdsInOrder st.txq) (buffers : NewBuffers env st)
    (failed : iwlPcieEnqueueHcmd env cmd st = (.error e, st')) :
    Undone env cmd st st' ↔ failsCleanly env cmd st = true := by
  unfold failsCleanly
  rw [Bool.and_eq_true, Option.isNone_iff_eq_none]
  rcases failed_cases order buffers failed with ⟨refused, same, refs⟩ |
    ⟨plan, mid, passes, partly, short, ends, refs⟩ | ⟨plan, mid, passes, partly, all, txq, hold, ref, refs⟩
  · rw [refused, same]
    constructor
    · exact fun undone => ⟨undone.copies, rfl⟩
    · exact fun clean => ⟨rfl, rfl, rfl, rfl, clean.1, rfl, rfl, rfl, refs⟩
  · have places := (plannedParts_places passes).length_le
    rw [List.length_map, List.length_range] at places
    have few : (mappedBefore env (plannedParts cmd plan st)).length ≤ 3 :=
      Nat.le_trans (mappedBefore_length _) places
    rw [passes, ends, undone_unmapped_iff order partly few refs]
    dsimp only
    rw [if_pos short, Bool.and_eq_true, beq_iff_eq, beq_iff_eq]
  · have whole : ¬ (mappedBefore env (plannedParts cmd plan st)).length < (plannedParts cmd plan st).length := by
      rw [all]
      exact Nat.lt_irrefl _
    rw [passes, undone_asleep_iff buffers passes partly all txq hold ref refs]
    dsimp only
    rw [if_neg whole, Bool.and_eq_true, Bool.and_eq_true, Bool.and_eq_true, Bool.and_eq_true, beq_iff_eq,
      beq_iff_eq, List.isEmpty_iff, Option.isNone_iff_eq_none, and_assoc, and_assoc]

end Failing

/-! ### In every state of a run -/

/-- Every operation keeps the descriptors in order. -/
theorem tfdsInOrder_apply {st : IwlTrans} (order : TfdsInOrder st.txq) (op : QueueOp) :
    TfdsInOrder (op.apply st).txq := by
  rw [← applyTracked_trans ⟨st, .empty⟩ op]
  have of_clears {t : Tracked} (clears : Clears ⟨st, .empty⟩ t) : TfdsInOrder t.trans.txq := by
    refine ⟨?_, clears.few⟩
    unfold FirstTbsInMask
    rw [clears.firstTb]
    exact order.inMask
  cases op with
  | response pkt => exact of_clears (clears_complete order.few)
  | unmap => exact of_clears (clears_unmapAll _ order.few)
  | enqueue env cmd =>
    cases passes : admitted env cmd st with
    | none =>
      have same : applyTracked ⟨st, .empty⟩ (.enqueue env cmd) = ⟨st, .empty⟩ := by
        show enqueueTracked env cmd ⟨st, .empty⟩ = _
        unfold enqueueTracked
        rw [passes]
      rw [same]
      exact order
    | some plan =>
      have attempt : Attempt ⟨st, .empty⟩ (applyTracked ⟨st, .empty⟩ (.enqueue env cmd)) :=
        enqueue_attempt env cmd order.few order.inMask passes
      exact ⟨attempt.inMask order.inMask, attempt.fewTbs order.few⟩

theorem tfdsInOrder_run (ops : List QueueOp) {st : IwlTrans} (order : TfdsInOrder st.txq) :
    TfdsInOrder (QueueOp.run ops st).txq := by
  induction ops generalizing st with
  | nil => exact order
  | cons op later ih => exact ih (tfdsInOrder_apply order op)

/-- **A failed call leaves everything as it was exactly under the condition**, in every state whose
descriptors are in order; and every run keeps them so. -/
theorem enqueueFailure_iff (env : EnqueueEnv) (cmd : IwlHostCmd) :
    (∀ (cmdQueue : Fin 32) (wideCmdHeader apmgWakeUpWa : Bool) (firstTbDma : Nat) (ops : List QueueOp),
      firstTbDma + firstTbBufSize * tfdCmdSlots ≤ iwlTxDmaMask + 1 →
      TfdsInOrder (QueueOp.run ops (.init cmdQueue wideCmdHeader apmgWakeUpWa firstTbDma)).txq) ∧
    ∀ (st st' : IwlTrans) (e : HcmdError), TfdsInOrder st.txq →
      NewBuffers env st → iwlPcieEnqueueHcmd env cmd st = (.error e, st') →
      (Undone env cmd st st' ↔ failsCleanly env cmd st = true) :=
  ⟨fun _ _ _ _ ops inMask => tfdsInOrder_run ops ⟨inMask, fun _ => Nat.zero_le _⟩,
    fun _ _ _ order buffers failed => undone_iff order buffers failed⟩

/-- No buffer at all. -/
def noBuffers : EnqueueEnv := { fixedBuffers with dmaBuf := fun _ _ => none }

/-- The first command of a queue gets no buffer, and leaves nothing. -/
theorem enqueueFailure_noBuffers : Undone noBuffers thirtyBytes (.init 9 true true 0x10000)
    (iwlPcieEnqueueHcmd noBuffers thirtyBytes (.init 9 true true 0x10000)).2 :=
  ((enqueueFailure_iff noBuffers thirtyBytes).2 (.init 9 true true 0x10000) _ .enomem
    ((enqueueFailure_iff noBuffers thirtyBytes).1 9 true true 0x10000 [] (by decide))
    ⟨fun _ _ _ got => (nomatch got), fun _ _ _ got => (nomatch got)⟩ (Prod.ext (by rfl) rfl)).mpr
    (by decide +kernel)

/-- The NIC does not wake up. -/
def sleepingNic : EnqueueEnv := { fixedBuffers with nicWakes := false }

/-- **Without the NIC** the first command fails with its buffer recorded, two TBs listed and a reference
claimed. -/
theorem asleep_notUndone :
    (iwlPcieEnqueueHcmd sleepingNic thirtyBytes (.init 9 true true 0x10000)).1 = .error .eio ∧
      ((iwlPcieEnqueueHcmd sleepingNic thirtyBytes (.init 9 true true 0x10000)).2.txq.entries 0).cmdMeta.dma =
        [some ⟨0x20000, 18⟩, none, none] ∧
      ((iwlPcieEnqueueHcmd sleepingNic thirtyBytes (.init 9 true true 0x10000)).2.txq.tfds 0).numTbs = 2 ∧
      (iwlPcieEnqueueHcmd sleepingNic thirtyBytes (.init 9 true true 0x10000)).2.refCmdInFlight = true ∧
      enqueueRefs sleepingNic thirtyBytes (.init 9 true true 0x10000) = 1 ∧
      ¬ Undone sleepingNic thirtyBytes (.init 9 true true 0x10000)
        (iwlPcieEnqueueHcmd sleepingNic thirtyBytes (.init 9 true true 0x10000)).2 := by
  have refs : enqueueRefs sleepingNic thirtyBytes (.init 9 true true 0x10000) = 1 := by decide +kernel
  refine ⟨by rfl, by decide +kernel, by decide +kernel, by decide +kernel, refs, fun undone => ?_⟩
  rw [undone.refs] at refs
  cases refs

end IntelWifi.Pcie
