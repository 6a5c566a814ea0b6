/-
**Where the descriptor of an index is.**

`iwl_pcie_txq_build_tfd` fills the descriptor of `write_ptr` among 256, and `iwl_pcie_tfd_unmap` takes an
index modulo the window of 32 for its descriptor. From index 32 on they mean different descriptors: the
one that a command was given keeps its TBs after the command has completed.

* `sameTfd_iff`: for which indices the two agree.
* `enqueue_attempt`: what a call that passes its checks does to descriptors and ledger, from any state.
* `tfdPositions`: the runs in which every completed index has an empty descriptor.
-/

import IntelWifi.Pcie.DmaOwnership

namespace IntelWifi.Pcie

open IntelWifi.Accounts IntelWifi.Circular IntelWifi.Machine

/-- A descriptor that `iwl_pcie_txq_build_tfd` changes for an index is the one that `iwl_pcie_tfd_unmap`
looks at for it. -/
def SameTfd (i : RingIndex) : Prop :=
  ∀ (q : IwlTxq) (addr len : Nat) (reset : Bool) (p : RingIndex), q.writePtr = i →
    (iwlPcieTxqBuildTfd q addr len reset).tfds p ≠ q.tfds p → p = iwlPcieGetTfd i

theorem getTfd_eq_iff (i : RingIndex) : iwlPcieGetTfd i = i ↔ i.val < tfdCmdSlots := by
  rw [Fin.ext_iff]
  show i.val % tfdCmdSlots = i.val ↔ _
  constructor
  · intro same
    rw [← same]
    exact Nat.mod_lt _ (by decide)
  · exact Nat.mod_eq_of_lt

/-- **The two agree on the first lap of the window** only. -/
theorem sameTfd_iff (i : RingIndex) : SameTfd i ↔ i.val < tfdCmdSlots := by
  rw [← getTfd_eq_iff]
  constructor
  · intro same
    refine (same { IwlTxq.init 0 with writePtr := i } 0 0 true i rfl ?_).symm
    intro kept
    have count := congrArg IwlTfd.numTbs kept
    obtain ⟨tfd, built, describes⟩ :=
      @buildTfd_reset 0 0 { IwlTxq.init 0 with writePtr := i } (by decide) (by decide)
    rw [built, setTfd_same, describes.count] at count
    cases count
  · intro same q addr len reset p here changed
    obtain ⟨tfd, built⟩ := buildTfd_eq q addr len reset
    rw [same, ← here]
    by_contra other
    exact changed (by rw [built, setTfd_other _ _ _ other])

/-! ### What a call does, from any state -/

section Ledger

variable (slot : Slot) (l : DmaLedger)

/-- Nothing is taken back that was freed. -/
theorem release_le (place : DmaPlace) (id : Nat) : l.released id ≤ (l.release place).released id := by
  unfold Ledger.release
  split
  · exact Nat.le_refl _
  · next other _ =>
    show l.released id ≤ Function.update l.released other (l.released other + 1) id
    by_cases same : id = other
    · rw [same, Function.update_self]
      exact Nat.le_succ _
    · rw [Function.update_of_ne same]

theorem foldl_release_le (ks : List (Fin metaDmaSize)) (id : Nat) :
    l.released id ≤ (ks.foldl (fun l k => l.release (slot, k)) l).released id :=
  List.foldlRecOn (motive := fun l' : DmaLedger => l.released id ≤ l'.released id) _ _
    (Nat.le_refl _) fun l' kept k _ => Nat.le_trans kept (release_le l' (slot, k) id)

/-- What a place holds is freed with it. -/
theorem release_pos {place : DmaPlace} {id : Nat} (held : l.holds place = some id) :
    0 < (l.release place).released id := by
  unfold Ledger.release
  rw [held]
  show 0 < Function.update l.released id (l.released id + 1) id
  rw [Function.update_self]
  exact Nat.succ_pos _

/-- **A slot's buffers are freed**, whatever else the ledger says. -/
theorem freeMeta_pos {k : Fin metaDmaSize} {id : Nat} (held : l.holds (slot, k) = some id) :
    0 < (freeMeta slot l).released id := by
  have folds (ks : List (Fin metaDmaSize)) (l : DmaLedger) (member : k ∈ ks)
      (held : l.holds (slot, k) = some id) :
      0 < (ks.foldl (fun l k => l.release (slot, k)) l).released id := by
    induction ks generalizing l with
    | nil => cases member
    | cons j rest ih =>
      rw [List.foldl_cons]
      by_cases here : k = j
      · subst here
        exact Nat.lt_of_lt_of_le (release_pos l held) (foldl_release_le slot _ rest id)
      · refine ih _ ((List.mem_cons.mp member).resolve_left here) ?_
        rw [release_holds, Function.update_of_ne fun same => here (Prod.mk.inj same).2]
        exact held
  exact folds _ l (List.mem_finRange k) held

theorem clearMeta_holds {place : DmaPlace} (other : place.1 ≠ slot) :
    (clearMeta slot l).holds place = l.holds place :=
  List.foldlRecOn (motive := fun l' : DmaLedger => l'.holds place = l.holds place) _ _ rfl
    fun _ same _ _ => (Function.update_of_ne (fun here => other (congrArg Prod.fst here)) _ _).trans same

theorem clearMeta_released : (clearMeta slot l).released = l.released :=
  List.foldlRecOn (motive := fun l' : DmaLedger => l'.released = l.released) _ _ rfl
    fun _ same _ _ => same

theorem recordDma_frame (k : Nat) (dma : IwlDmaPtr) :
    (∀ place : DmaPlace, place.1 ≠ slot → (recordDma slot k dma l).holds place = l.holds place) ∧
      (recordDma slot k dma l).released = l.released := by
  unfold recordDma
  split
  · exact ⟨fun place other => Function.update_of_ne (fun here => other (congrArg Prod.fst here)) _ _, rfl⟩
  · exact ⟨fun _ _ => rfl, rfl⟩

end Ledger

/-- A command is being built: its slot and the descriptor of `write_ptr` change, and that has from one to
`n` chunks. -/
structure Building (idx : Slot) (n : Nat) (t t' : Tracked) : Prop where
  others : ∀ place : DmaPlace, place.1 ≠ idx → t'.ledger.holds place = t.ledger.holds place
  released : ∀ id, t'.ledger.released id = t.ledger.released id
  readPtr : t'.trans.txq.readPtr = t.trans.txq.readPtr
  writePtr : t'.trans.txq.writePtr = t.trans.txq.writePtr
  firstTb : t'.trans.txq.firstTbDma = t.trans.txq.firstTbDma
  tfds : ∀ i, i ≠ t.trans.txq.writePtr → t'.trans.txq.tfds i = t.trans.txq.tfds i
  least : 1 ≤ (t'.trans.txq.tfds t.trans.txq.writePtr).numTbs
  most : (t'.trans.txq.tfds t.trans.txq.writePtr).numTbs ≤ n

section Building

variable {env : EnqueueEnv} {cmd : IwlHostCmd} {plan : HcmdPlan} {t : Tracked}

/-- The first-TB buffers have addresses that fit in a TB, as `allocate_dma_buf` is asked for. -/
def FirstTbsInMask (q : IwlTxq) : Prop := q.firstTbDma + firstTbBufSize * tfdCmdSlots ≤ iwlTxDmaMask + 1

/-- The first TB starts the descriptor of `write_ptr`, over a slot with no buffers. -/
theorem startTfd_txq {st : IwlTrans} (cmd : IwlHostCmd) (out : HcmdCopy) (inMask : FirstTbsInMask st.txq) :
    ∃ (entry : IwlPcieTxqEntry) (tfd : IwlTfd), entry.cmdMeta.dma = IwlCmdMeta.zero.dma ∧
      entry.freeBuf = (st.txq.entries (iwlPcieGetCmdIndex st.txq.writePtr)).freeBuf ∧ tfd.numTbs = 1 ∧
      (startTfd cmd out (iwlPcieGetCmdIndex st.txq.writePtr) st).txq =
        (st.txq.setEntry (iwlPcieGetCmdIndex st.txq.writePtr) entry).setTfd st.txq.writePtr tfd := by
  have inside : iwlPcieGetFirstTbDma st.txq (iwlPcieGetCmdIndex st.txq.writePtr) < 2 ^ 36 := by
    have slot := (iwlPcieGetCmdIndex st.txq.writePtr).isLt
    unfold FirstTbsInMask iwlTxDmaMask iwlPcieGetFirstTbDma firstTbBufSize tfdCmdSlots at *
    omega
  have short : min out.copySize iwlFirstTbSize < 2 ^ 12 :=
    Nat.lt_of_le_of_lt (Nat.min_le_right _ _) (by decide)
  obtain ⟨tfd, built, describes⟩ := buildTfd_reset (st.txq.setEntry (iwlPcieGetCmdIndex st.txq.writePtr)
    ⟨out.cmd, (st.txq.entries (iwlPcieGetCmdIndex st.txq.writePtr)).freeBuf,
      { IwlCmdMeta.zero with source := if cmd.flags.wantSkb then some cmd.ptr else none }⟩) inside short
  refine ⟨_, tfd, ?_, ?_, describes.count, built⟩
  · rfl
  · rfl

theorem startTracked_building (cmd : IwlHostCmd) (plan : HcmdPlan) (inMask : FirstTbsInMask t.trans.txq) :
    Building (iwlPcieGetCmdIndex t.trans.txq.writePtr) 1 t (startTracked cmd plan t) := by
  obtain ⟨entry, tfd, -, -, count, txq⟩ := startTfd_txq cmd
    (fillSlot cmd (cmdHeader cmd (cmdSequence t.trans.cmdQueue t.trans.txq.writePtr) plan.cmdSize)
      (t.trans.txq.entries (iwlPcieGetCmdIndex t.trans.txq.writePtr)).cmd) inMask
  have same : (startTracked cmd plan t).trans.txq = _ := txq
  have tbs : ((startTracked cmd plan t).trans.txq.tfds t.trans.txq.writePtr).numTbs = 1 := by
    rw [same, setTfd_same, count]
  refine ⟨fun place other => clearMeta_holds _ _ other, fun id => congrFun (clearMeta_released _ _) id,
    ?_, ?_, ?_, fun i other => ?_, Nat.le_of_eq tbs.symm, Nat.le_of_eq tbs⟩
  · rw [same]
    rfl
  · rw [same]
    rfl
  · rw [same]
    rfl
  · rw [same]
    exact setTfd_other _ _ _ other

/-- A further TB is never one less. -/
theorem buildTfd_least (q : IwlTxq) (addr len : Nat) (few : (q.tfds q.writePtr).numTbs < iwlNumOfTbs) :
    ∃ tfd, iwlPcieTxqBuildTfd q addr len false = q.setTfd q.writePtr tfd ∧
      (q.tfds q.writePtr).numTbs ≤ tfd.numTbs ∧ tfd.numTbs ≤ (q.tfds q.writePtr).numTbs + 1 := by
  have count : iwlPcieTfdGetNumTbs (q.tfds q.writePtr) = (q.tfds q.writePtr).numTbs := by
    unfold iwlPcieTfdGetNumTbs iwlNumOfTbs at *
    omega
  unfold iwlPcieTxqBuildTfd
  simp only [Bool.false_eq_true, if_false]
  rw [count, if_neg (Nat.not_le.mpr few)]
  split
  · exact ⟨_, rfl, Nat.le_refl _, Nat.le_succ _⟩
  · exact ⟨_, rfl, Nat.le_succ _, Nat.le_refl _⟩

theorem Building.map {idx : Slot} {n : Nat} {mid t' : Tracked} {part : Nat × List UInt8}
    (building : Building idx n t mid) (few : n < iwlNumOfTbs)
    (mapped : mapTracked env idx mid part = .ok t') : Building idx (n + 1) t t' := by
  unfold mapTracked mapPart at mapped
  cases got : env.dmaBuf part.1 part.2.length with
  | none =>
    rw [got] at mapped
    cases mapped
  | some dma =>
    rw [got] at mapped
    obtain rfl := Except.ok.inj mapped
    have most := building.most
    have least := building.least
    rw [← building.writePtr] at most least
    obtain ⟨tfd, built, more, atMost⟩ := buildTfd_least (mid.trans.txq.setEntry idx
      ((mid.trans.txq.entries idx).setDma part.1 ⟨dma, part.2.length⟩)) dma part.2.length
      (Nat.lt_of_le_of_lt most few)
    obtain ⟨holds, released⟩ := recordDma_frame idx mid.ledger part.1 ⟨dma, part.2.length⟩
    rw [built]
    rw [setEntry_tfds, setEntry_writePtr] at more atMost
    refine ⟨fun place other => (holds place other).trans (building.others place other),
      fun id => (congrFun released id).trans (building.released id), building.readPtr, building.writePtr,
      building.firstTb, fun i other => ?_, ?_, ?_⟩
    · rw [← building.tfds i other]
      exact setTfd_other _ _ _ (building.writePtr ▸ other)
    · show 1 ≤ (((mid.trans.txq.setEntry _ _).setTfd _ tfd).tfds t.trans.txq.writePtr).numTbs
      rw [← building.writePtr, setEntry_writePtr, setTfd_same]
      exact Nat.le_trans least more
    · show (((mid.trans.txq.setEntry _ _).setTfd _ tfd).tfds t.trans.txq.writePtr).numTbs ≤ n + 1
      rw [← building.writePtr, setEntry_writePtr, setTfd_same]
      exact Nat.le_trans atMost (Nat.succ_le_succ most)

/-- **All parts of a command**, mapped or stopped at one without a buffer. -/
theorem Building.parts {idx : Slot} (env : EnqueueEnv) (parts : List (Nat × List UInt8)) {n : Nat} {mid : Tracked}
    (building : Building idx n t mid) (few : n + parts.length ≤ iwlNumOfTbs) :
    match parts.foldlM (mapTracked env idx) mid with
    | .error t' => Building idx (n + parts.length) t t'
    | .ok t' => Building idx (n + parts.length) t t' := by
  induction parts generalizing n mid with
  | nil => exact building
  | cons part rest ih =>
    rw [List.length_cons] at few
    rw [List.foldlM_cons]
    cases mapped : mapTracked env idx mid part with
    | error t' =>
      rw [(mapTracked_error mapped).1]
      exact { building with most := Nat.le_trans building.most (Nat.le_add_right _ _) }
    | ok next =>
      have later := ih (building.map (by omega) mapped) (by omega)
      have count : n + (part :: rest).length = n + 1 + rest.length := by
        rw [List.length_cons]
        omega
      rw [count]
      exact later

@[simp] theorem tfdUnmap_firstTb (q : IwlTxq) (index : RingIndex) :
    (iwlPcieTfdUnmap q index).firstTbDma = q.firstTbDma := by
  unfold iwlPcieTfdUnmap
  dsimp only
  split <;> rfl

theorem commitPlanned_firstTb (env : EnqueueEnv) (cmd : IwlHostCmd) (plan : HcmdPlan) (idx : Slot)
    (st : IwlTrans) : (commitPlanned env cmd plan idx st).txq.firstTbDma = st.txq.firstTbDma := by
  obtain ⟨sameTxq, _, _⟩ := setCmdInFlight_txq env cmd (finishSlot cmd plan idx st)
  unfold commitPlanned
  cases woken : iwlPcieSetCmdInFlight env cmd (finishSlot cmd plan idx st) with
  | mk outcome last =>
    rw [woken] at sameTxq
    have same : last.txq.firstTbDma = (finishSlot cmd plan idx st).txq.firstTbDma :=
      congrArg IwlTxq.firstTbDma sameTxq
    cases outcome <;> exact same

/-- What a call does once it has passed its checks. -/
structure Attempt (t t' : Tracked) : Prop where
  room : 1 ≤ iwlQueueSpace t.trans.txq
  others : ∀ place : DmaPlace, place.1 ≠ iwlPcieGetCmdIndex t.trans.txq.writePtr →
    t'.ledger.holds place = t.ledger.holds place
  released : ∀ id, t.ledger.released id ≤ t'.ledger.released id
  readPtr : t'.trans.txq.readPtr = t.trans.txq.readPtr
  firstTb : t'.trans.txq.firstTbDma = t.trans.txq.firstTbDma
  tfds : ∀ i, i ≠ t.trans.txq.writePtr → t'.trans.txq.tfds i = t.trans.txq.tfds i ∨
    i = iwlPcieGetTfd t.trans.txq.writePtr ∧ (t'.trans.txq.tfds i).numTbs = 0
  few : (t'.trans.txq.tfds t.trans.txq.writePtr).numTbs ≤ 4
  writePtr : t'.trans.txq.writePtr = t.trans.txq.writePtr ∨
    t'.trans.txq.writePtr = iwlQueueIncWrap t.trans.txq.writePtr ∧
      1 ≤ (t'.trans.txq.tfds t.trans.txq.writePtr).numTbs

theorem Attempt.fewTbs {t t' : Tracked} (attempt : Attempt t t') (few : FewTbs t.trans.txq) :
    FewTbs t'.trans.txq := by
  intro i
  by_cases here : i = t.trans.txq.writePtr
  · rw [here]
    exact attempt.few
  · rcases attempt.tfds i here with same | ⟨_, empty⟩
    · rw [same]
      exact few i
    · exact Nat.le_trans (Nat.le_of_eq empty) (Nat.zero_le _)

theorem Attempt.inMask {t t' : Tracked} (attempt : Attempt t t') (inMask : FirstTbsInMask t.trans.txq) :
    FirstTbsInMask t'.trans.txq := by
  unfold FirstTbsInMask
  rw [attempt.firstTb]
  exact inMask

/-- A command is given up: the descriptor that its unmapping takes for that of `write_ptr` is emptied. -/
theorem Building.givenUp {mid : Tracked} {n : Nat} (built : Building (iwlPcieGetCmdIndex t.trans.txq.writePtr) n t mid)
    (room : 1 ≤ iwlQueueSpace t.trans.txq) (few : FewTbs t.trans.txq) (atMost : n ≤ 4) :
    Attempt t (unmapTracked mid mid.trans.txq.writePtr) := by
  have fewMid : FewTbs mid.trans.txq := by
    intro i
    by_cases here : i = t.trans.txq.writePtr
    · rw [here]
      exact Nat.le_trans built.most atMost
    · rw [built.tfds i here]
      exact few i
  have txq := unmapTracked_txq mid.trans.txq.writePtr fewMid
  have ledger := unmapTracked_ledger mid.trans.txq.writePtr fewMid
  rw [built.writePtr] at txq ledger ⊢
  refine ⟨room, fun place other => ?_, fun id => ?_, ?_, ?_, fun i other => ?_, ?_, .inl ?_⟩
  · rw [ledger, freeMeta_holds, if_neg other]
    exact built.others place other
  · rw [ledger, ← built.released id]
    exact foldl_release_le _ _ _ id
  · exact (tfdUnmap_readPtr _ _).trans built.readPtr
  · exact (tfdUnmap_firstTb _ _).trans built.firstTb
  · by_cases there : i = iwlPcieGetTfd t.trans.txq.writePtr
    · refine .inr ⟨there, ?_⟩
      rw [txq, there, setTfd_same]
    · refine .inl ?_
      rw [txq, setTfd_other _ _ _ there]
      exact built.tfds i other
  · exact unmapTracked_few _ fewMid _
  · exact (tfdUnmap_writePtr _ _).trans built.writePtr

/-- A command is handed over, or the NIC does not wake. -/
theorem Building.handedOver {mid : Tracked} {n : Nat} (env : EnqueueEnv) (cmd : IwlHostCmd) (plan : HcmdPlan)
    (built : Building (iwlPcieGetCmdIndex t.trans.txq.writePtr) n t mid)
    (room : 1 ≤ iwlQueueSpace t.trans.txq) (atMost : n ≤ 4) :
    Attempt t { mid with
      trans := commitPlanned env cmd plan (iwlPcieGetCmdIndex t.trans.txq.writePtr) mid.trans } := by
  obtain ⟨_, tfds, readPtr, writePtr⟩ := commitPlanned_frame env cmd plan
    (iwlPcieGetCmdIndex t.trans.txq.writePtr) mid.trans
  refine ⟨room, built.others, fun id => Nat.le_of_eq (built.released id).symm,
    readPtr.trans built.readPtr, (commitPlanned_firstTb ..).trans built.firstTb,
    fun i other => .inl ?_, ?_, ?_⟩
  · exact (congrFun tfds i).trans (built.tfds i other)
  · show ((commitPlanned env cmd plan _ mid.trans).txq.tfds _).numTbs ≤ 4
    rw [tfds]
    exact Nat.le_trans built.most atMost
  · show (commitPlanned env cmd plan _ mid.trans).txq.writePtr = _ ∨
      (commitPlanned env cmd plan _ mid.trans).txq.writePtr = _ ∧
        1 ≤ ((commitPlanned env cmd plan _ mid.trans).txq.tfds _).numTbs
    rw [writePtr, tfds, built.writePtr]
    split
    · exact .inl rfl
    · exact .inr ⟨rfl, built.least⟩

/-- **A call that passes its checks** touches the slot and the descriptor of `write_ptr`, and may empty
the descriptor that its unmapping takes for that one. -/
theorem enqueue_attempt (env : EnqueueEnv) (cmd : IwlHostCmd) (few : FewTbs t.trans.txq)
    (inMask : FirstTbsInMask t.trans.txq) (passes : admitted env cmd t.trans = some plan) :
    Attempt t (enqueueTracked env cmd t) := by
  obtain ⟨two, enough⟩ := admitted_spec passes
  have room : 1 ≤ iwlQueueSpace t.trans.txq := by
    refine Nat.le_trans ?_ enough
    unfold requiredSpace
    split <;> decide
  have atMost : (plannedParts cmd plan t.trans).length ≤ 3 := by
    have length := (hcmdParts_places (fillSlot cmd (cmdHeader cmd (cmdSequence t.trans.cmdQueue
      t.trans.txq.writePtr) plan.cmdSize) (t.trans.txq.entries
        (iwlPcieGetCmdIndex t.trans.txq.writePtr)).cmd) two).length_le
    rwa [List.length_map, List.length_range] at length
  have built := (startTracked_building cmd plan inMask).parts env
    (plannedParts cmd plan t.trans) (by unfold iwlNumOfTbs; omega)
  unfold enqueueTracked
  rw [passes]
  dsimp only
  unfold plannedTracked
  dsimp only
  cases done : (plannedParts cmd plan t.trans).foldlM
      (mapTracked env (iwlPcieGetCmdIndex t.trans.txq.writePtr)) (startTracked cmd plan t) with
  | error mid =>
    rw [done] at built
    exact built.givenUp room few (by omega)
  | ok mid =>
    rw [done] at built
    exact built.handedOver env cmd plan room (by omega)

end Building

/-! ### Completed commands over a run -/

/-- The transport with what statements need to know of each index: the buffers that were recorded for its
last command, and whether that has completed. -/
structure TfdHistory where
  tracked : Tracked
  recorded : RingIndex → List Nat
  completed : RingIndex → Bool

/-- The buffers in a slot's `meta->dma`. -/
def heldBy (l : DmaLedger) (slot : Slot) : List Nat :=
  (List.finRange metaDmaSize).filterMap fun k => l.holds (slot, k)

/-- The index that a response completes: one of this queue that is in flight. -/
def completesIndex (st : IwlTrans) (pkt : RxPacket) : Prop :=
  seqToQueue pkt.sequence = st.cmdQueue.val ∧ InFlight st.txq (seqToIndex pkt.sequence)

instance (st : IwlTrans) (pkt : RxPacket) : Decidable (completesIndex st pkt) :=
  inferInstanceAs (Decidable (_ ∧ _))

/-- An operation. A call that passes its checks begins a command for `write_ptr`. -/
def TfdHistory.apply (h : TfdHistory) (op : QueueOp) : TfdHistory :=
  let tracked := applyTracked h.tracked op
  let q := h.tracked.trans.txq
  match op with
  | .enqueue env cmd =>
    if (admitted env cmd h.tracked.trans).isNone then { h with tracked }
    else {
      tracked
      recorded := Function.update h.recorded q.writePtr
        (heldBy tracked.ledger (iwlPcieGetCmdIndex q.writePtr))
      completed := Function.update h.completed q.writePtr false }
  | .response pkt =>
    if completesIndex h.tracked.trans pkt then
      { h with tracked, completed := Function.update h.completed (seqToIndex pkt.sequence) true }
    else { h with tracked }
  | .unmap => { h with tracked }

def tfdStep (h : TfdHistory) (op : QueueOp) : Option TfdHistory := some (h.apply op)

/-- The empty queue. -/
def TfdHistory.init (cmdQueue : Fin 32) (wideCmdHeader apmgWakeUpWa : Bool) (firstTbDma : Nat) :
    TfdHistory :=
  ⟨.init cmdQueue wideCmdHeader apmgWakeUpWa firstTbDma, fun _ => [], fun _ => false⟩

/-- **A completed command leaves nothing behind**: its descriptor lists no TBs, and the buffers recorded for
it are freed. -/
def CompletedCleared (h : TfdHistory) : Prop :=
  ∀ i, h.completed i = true → (h.tracked.trans.txq.tfds i).numTbs = 0 ∧
    ∀ id ∈ h.recorded i, 0 < h.tracked.ledger.released id

/-- **The condition on an operation**: what it completes is an index of the first lap of the window. -/
def completesFirstLap (h : TfdHistory) : QueueOp → Bool
  | .response pkt =>
    decide (completesIndex h.tracked.trans pkt → (seqToIndex pkt.sequence).val < tfdCmdSlots)
  | _ => true

/-- What every operation keeps: indices in flight past the first lap have TBs, and the buffers of an index
in flight are in its slot or freed. -/
structure TfdsKept (h : TfdHistory) : Prop where
  window : queueLength h.tracked.trans.txq ≤ tfdCmdSlots
  inMask : FirstTbsInMask h.tracked.trans.txq
  few : FewTbs h.tracked.trans.txq
  filled : ∀ i, InFlight h.tracked.trans.txq i → tfdCmdSlots ≤ i.val →
    1 ≤ (h.tracked.trans.txq.tfds i).numTbs
  recorded : ∀ i, InFlight h.tracked.trans.txq i → ∀ id ∈ h.recorded i,
    id ∈ heldBy h.tracked.ledger (iwlPcieGetCmdIndex i) ∨ 0 < h.tracked.ledger.released id

theorem mem_heldBy {l : DmaLedger} {slot : Slot} {id : Nat} :
    id ∈ heldBy l slot ↔ ∃ k, l.holds (slot, k) = some id := by
  unfold heldBy
  rw [List.mem_filterMap]
  constructor
  · rintro ⟨k, _, held⟩
    exact ⟨k, held⟩
  · rintro ⟨k, held⟩
    exact ⟨k, List.mem_finRange k, held⟩

/-- An operation that only clears: indices leave the queue, descriptors of the first lap are emptied, and
buffers are freed. -/
structure Clears (t t' : Tracked) : Prop where
  window : queueLength t'.trans.txq ≤ queueLength t.trans.txq
  firstTb : t'.trans.txq.firstTbDma = t.trans.txq.firstTbDma
  few : FewTbs t'.trans.txq
  inFlight : ∀ i, InFlight t'.trans.txq i → InFlight t.trans.txq i
  tfds : ∀ i, t'.trans.txq.tfds i = t.trans.txq.tfds i ∨
    i.val < tfdCmdSlots ∧ (t'.trans.txq.tfds i).numTbs = 0
  holds : ∀ place id, t.ledger.holds place = some id →
    t'.ledger.holds place = some id ∨ 0 < t'.ledger.released id
  released : ∀ id, t.ledger.released id ≤ t'.ledger.released id

theorem Clears.refl {t : Tracked} (few : FewTbs t.trans.txq) : Clears t t :=
  ⟨Nat.le_refl _, rfl, few, fun _ flight => flight, fun _ => .inl rfl, fun _ _ held => .inl held,
    fun _ => Nat.le_refl _⟩

theorem Clears.then {a b c : Tracked} (first : Clears a b) (second : Clears b c) : Clears a c where
  window := Nat.le_trans second.window first.window
  firstTb := second.firstTb.trans first.firstTb
  few := second.few
  inFlight := fun i flight => first.inFlight i (second.inFlight i flight)
  tfds := fun i => by
    rcases second.tfds i with same | empty
    · rw [same]
      exact first.tfds i
    · exact .inr empty
  holds := fun place id held => by
    rcases first.holds place id held with held | freed
    · exact second.holds place id held
    · exact .inr (Nat.lt_of_lt_of_le freed (second.released id))
  released := fun id => Nat.le_trans (first.released id) (second.released id)

section Clearing

variable {t t' : Tracked}

/-- The descriptor that unmapping empties is one of the first lap. -/
theorem getTfd_lt (index : RingIndex) : (iwlPcieGetTfd index).val < tfdCmdSlots :=
  Nat.mod_lt _ (by decide)

/-- Unmapping an index, while `read_ptr` may move behind it or another. -/
theorem clears_unmap (index : RingIndex) (few : FewTbs t.trans.txq)
    (tfds : t'.trans.txq.tfds = (unmapTracked t index).trans.txq.tfds)
    (ledger : t'.ledger = freeMeta (iwlPcieGetCmdIndex index) t.ledger)
    (firstTb : t'.trans.txq.firstTbDma = t.trans.txq.firstTbDma)
    (writePtr : t'.trans.txq.writePtr = t.trans.txq.writePtr)
    (readPtr : t'.trans.txq.readPtr = t.trans.txq.readPtr ∨
      ∃ j, InFlight t.trans.txq j ∧ t'.trans.txq.readPtr = iwlQueueIncWrap j) : Clears t t' where
  window := by
    rcases readPtr with same | ⟨j, flight, moved⟩
    · rw [queueLength_eq, queueLength_eq, same, writePtr]
    · exact window_reclaim flight moved writePtr
  firstTb := firstTb
  few := fun i => by
    rw [tfds]
    exact unmapTracked_few _ few i
  inFlight := fun i flight => by
    rcases readPtr with same | ⟨j, before, moved⟩
    · unfold InFlight at *
      rwa [same, writePtr] at flight
    · exact ((inFlight_pop before moved writePtr i).mp flight).1
  tfds := fun i => by
    rw [tfds, unmapTracked_txq _ few]
    by_cases here : i = iwlPcieGetTfd index
    · rw [here, setTfd_same]
      exact .inr ⟨getTfd_lt index, rfl⟩
    · exact .inl (setTfd_other _ _ _ here)
  holds := fun place id held => by
    rw [ledger, freeMeta_holds]
    by_cases here : place.1 = iwlPcieGetCmdIndex index
    · refine .inr (freeMeta_pos _ _ (k := place.2) ?_)
      rw [← here]
      exact held
    · rw [if_neg here]
      exact .inl held
  released := fun id => ledger ▸ foldl_release_le _ _ _ id

theorem clears_unmapAll (fuel : Nat) (few : FewTbs t.trans.txq) : Clears t (unmapAllTracked fuel t) := by
  induction fuel generalizing t with
  | zero => exact .refl few
  | succ fuel ih =>
    unfold unmapAllTracked
    split
    · exact .refl few
    · next differ =>
      have txq := unmapNextTracked_txq t
      have next : Clears t (unmapNextTracked t) := by
        refine clears_unmap t.trans.txq.readPtr few ?_ (unmapTracked_ledger _ few) ?_ ?_
          (.inr ⟨t.trans.txq.readPtr, flight_readPtr differ, ?_⟩)
        · rw [txq]
        · rw [txq]
          exact tfdUnmap_firstTb _ _
        · rw [txq]
          exact tfdUnmap_writePtr _ _
        · rw [txq]
      exact next.then (ih next.few)

theorem hcmdComplete_firstTb (st : IwlTrans) (pkt : RxPacket) :
    (iwlPcieHcmdComplete st pkt).txq.firstTbDma = st.txq.firstTbDma := by
  have active (st' : IwlTrans) (slot : Slot) :
      (if (!(st'.txq.entries slot).cmdMeta.flags.async) = true then st'.setActive false
        else st').txq = st'.txq := by
    split <;> rfl
  obtain ⟨txq, _⟩ := respond_txq st pkt
  unfold iwlPcieHcmdComplete
  split
  · rfl
  · unfold finishComplete
    dsimp only
    rw [setEntry_firstTbDma, active, txq]
    exact tfdUnmap_firstTb _ _

/-- A response, to whichever queue. -/
theorem clears_complete {pkt : RxPacket} (few : FewTbs t.trans.txq) : Clears t (completeTracked t pkt) := by
  by_cases own : seqToQueue pkt.sequence = t.trans.cmdQueue.val
  · obtain ⟨_, tfds⟩ := hcmdComplete_arrays own
    obtain ⟨writePtr, readPtr⟩ := hcmdComplete_ptrs t.trans pkt
    refine clears_unmap (seqToIndex pkt.sequence) few tfds ?_ ?_ writePtr ?_
    · exact (if_neg (not_not.mpr own)).trans (unmapTracked_ledger _ few)
    · exact hcmdComplete_firstTb t.trans pkt
    · by_cases both : completesIndex t.trans pkt
      · exact .inr ⟨_, both.2, readPtr.trans (if_pos both)⟩
      · exact .inl (readPtr.trans (if_neg both))
  · rw [completeTracked_other own]
    exact .refl few

end Clearing

/-! ### The invariant -/

section Invariant

variable {h : TfdHistory}

/-- An operation that only clears keeps the invariant, whatever it says is completed. -/
theorem TfdsKept.clears (kept : TfdsKept h) {t' : Tracked} (completed : RingIndex → Bool)
    (clears : Clears h.tracked t') : TfdsKept { h with tracked := t', completed } where
  window := Nat.le_trans clears.window kept.window
  inMask := by
    unfold FirstTbsInMask
    rw [clears.firstTb]
    exact kept.inMask
  few := clears.few
  filled := fun i flight past => by
    rcases clears.tfds i with same | ⟨first, _⟩
    · show 1 ≤ (t'.trans.txq.tfds i).numTbs
      rw [same]
      exact kept.filled i (clears.inFlight i flight) past
    · omega
  recorded := fun i flight id member => by
    rcases kept.recorded i (clears.inFlight i flight) id member with held | freed
    · obtain ⟨k, held⟩ := mem_heldBy.mp held
      rcases clears.holds _ id held with held | freed
      · exact .inl (mem_heldBy.mpr ⟨k, held⟩)
      · exact .inr freed
    · exact .inr (Nat.lt_of_lt_of_le freed (clears.released id))

theorem CompletedCleared.clears (cleared : CompletedCleared h) {t' : Tracked}
    (clears : Clears h.tracked t') : CompletedCleared { h with tracked := t' } := by
  intro i done
  obtain ⟨empty, freed⟩ := cleared i done
  refine ⟨?_, fun id member => Nat.lt_of_lt_of_le (freed id member) (clears.released id)⟩
  rcases clears.tfds i with same | ⟨_, empty⟩
  · show (t'.trans.txq.tfds i).numTbs = 0
    rw [same]
    exact empty
  · exact empty

/-- **Beginning a command** at `write_ptr`, which is not in flight. -/
theorem TfdsKept.begins (kept : TfdsKept h) {t' : Tracked} (attempt : Attempt h.tracked t') :
    TfdsKept {
      tracked := t'
      recorded := Function.update h.recorded h.tracked.trans.txq.writePtr
        (heldBy t'.ledger (iwlPcieGetCmdIndex h.tracked.trans.txq.writePtr))
      completed := Function.update h.completed h.tracked.trans.txq.writePtr false } := by
  generalize w_eq : h.tracked.trans.txq.writePtr = w
  have grown (moved : t'.trans.txq.writePtr = iwlQueueIncWrap h.tracked.trans.txq.writePtr) :=
    inFlight_push attempt.room attempt.readPtr moved
  have idle : ¬ InFlight h.tracked.trans.txq w := fun flight => by
    rw [← w_eq] at flight
    exact Nat.lt_irrefl _ flight.2
  have stays (same : t'.trans.txq.writePtr = h.tracked.trans.txq.writePtr) (i : RingIndex) :
      InFlight t'.trans.txq i ↔ InFlight h.tracked.trans.txq i := by
    unfold InFlight
    rw [attempt.readPtr, same]
  -- An index in flight afterwards is one of before, in another slot, or the one that is begun.
  have cases_of (i : RingIndex) (flight : InFlight t'.trans.txq i) :
      i ≠ w ∧ InFlight h.tracked.trans.txq i ∨ i = w ∧ 1 ≤ (t'.trans.txq.tfds w).numTbs := by
    rcases attempt.writePtr with same | ⟨moved, least⟩
    · have before := (stays same i).mp flight
      exact .inl ⟨fun here => idle (here ▸ before), before⟩
    · rcases (grown moved i).mp flight with before | here
      · exact .inl ⟨fun here => idle (here ▸ before), before⟩
      · exact .inr ⟨here.trans w_eq, w_eq ▸ least⟩
  refine ⟨?_, attempt.inMask kept.inMask, attempt.fewTbs kept.few, fun i flight past => ?_,
    fun i flight id member => ?_⟩
  · rcases attempt.writePtr with same | ⟨moved, _⟩
    · show queueLength t'.trans.txq ≤ _
      rw [queueLength_eq, attempt.readPtr, same, ← queueLength_eq]
      exact kept.window
    · exact queueLength_push attempt.room attempt.readPtr moved
  · rcases cases_of i flight with ⟨other, before⟩ | ⟨here, least⟩
    · rcases attempt.tfds i (w_eq ▸ other) with same | ⟨unmapped, _⟩
      · show 1 ≤ (t'.trans.txq.tfds i).numTbs
        rw [same]
        exact kept.filled i before past
      · have first := getTfd_lt h.tracked.trans.txq.writePtr
        rw [← unmapped] at first
        omega
    · rw [here]
      exact least
  · rcases cases_of i flight with ⟨other, before⟩ | ⟨here, _⟩
    · have slot : iwlPcieGetCmdIndex i ≠ iwlPcieGetCmdIndex h.tracked.trans.txq.writePtr :=
        fun same => nextSlot_free attempt.room ⟨i, before, same⟩
      dsimp only at member
      rw [Function.update_of_ne other] at member
      rcases kept.recorded i before id member with held | freed
      · obtain ⟨k, held⟩ := mem_heldBy.mp held
        exact .inl (mem_heldBy.mpr ⟨k, (attempt.others (iwlPcieGetCmdIndex i, k) slot).trans held⟩)
      · exact .inr (Nat.lt_of_lt_of_le freed (attempt.released id))
    · dsimp only at member
      rw [here, Function.update_self] at member
      rw [here]
      exact .inl member

theorem CompletedCleared.begins (cleared : CompletedCleared h) {t' : Tracked} (ids : List Nat)
    (attempt : Attempt h.tracked t') :
    CompletedCleared {
      tracked := t'
      recorded := Function.update h.recorded h.tracked.trans.txq.writePtr ids
      completed := Function.update h.completed h.tracked.trans.txq.writePtr false } := by
  intro i done
  dsimp only at done ⊢
  by_cases here : i = h.tracked.trans.txq.writePtr
  · rw [here, Function.update_self] at done
    cases done
  · rw [Function.update_of_ne here] at done ⊢
    obtain ⟨empty, freed⟩ := cleared i done
    refine ⟨?_, fun id member => Nat.lt_of_lt_of_le (freed id member) (attempt.released id)⟩
    rcases attempt.tfds i here with same | ⟨_, empty⟩
    · rw [same]
      exact empty
    · exact empty

end Invariant

/-! ### The runs -/

/-- **An operation that meets the condition** keeps both. -/
theorem tfdStep_kept {h h' : TfdHistory} {op : QueueOp} (kept : TfdsKept h ∧ CompletedCleared h)
    (met : completesFirstLap h op = true) (stepped : tfdStep h op = some h') :
    TfdsKept h' ∧ CompletedCleared h' := by
  obtain ⟨kept, cleared⟩ := kept
  obtain rfl := Option.some.inj stepped
  unfold TfdHistory.apply
  cases op with
  | enqueue env cmd =>
    cases passes : admitted env cmd h.tracked.trans with
    | none =>
      have same : applyTracked h.tracked (.enqueue env cmd) = h.tracked := by
        show enqueueTracked env cmd h.tracked = _
        unfold enqueueTracked
        rw [passes]
      dsimp only
      rw [if_pos (Option.isNone_iff_eq_none.mpr passes), same]
      exact ⟨kept, cleared⟩
    | some plan =>
      have attempt := enqueue_attempt env cmd kept.few kept.inMask passes
      have some : ¬ (admitted env cmd h.tracked.trans).isNone = true := by
        rw [passes]
        exact Bool.false_ne_true
      dsimp only
      rw [if_neg some]
      exact ⟨kept.begins attempt, cleared.begins _ attempt⟩
  | response pkt =>
    have clears : Clears h.tracked (completeTracked h.tracked pkt) := clears_complete kept.few
    dsimp only
    split
    · next completed =>
      refine ⟨kept.clears _ clears, fun i done => ?_⟩
      dsimp only at done ⊢
      by_cases here : i = seqToIndex pkt.sequence
      · have first := of_decide_eq_true met completed
        obtain ⟨_, tfds⟩ := @hcmdComplete_arrays pkt _ completed.1
        constructor
        · show ((iwlPcieHcmdComplete h.tracked.trans pkt).txq.tfds i).numTbs = 0
          have txq := unmapTracked_txq (t := h.tracked) (seqToIndex pkt.sequence) kept.few
          have emptied := congrArg (fun q : IwlTxq => q.tfds i) txq
          rw [tfds, here]
          rw [here, (getTfd_eq_iff _).mpr first] at emptied
          exact (congrArg IwlTfd.numTbs emptied).trans (congrArg IwlTfd.numTbs (setTfd_same ..))
        · intro id member
          rw [here] at member
          rcases kept.recorded _ completed.2 id member with held | freed
          · obtain ⟨k, held⟩ := mem_heldBy.mp held
            have ledger : (completeTracked h.tracked pkt).ledger =
                freeMeta (iwlPcieGetCmdIndex (seqToIndex pkt.sequence)) h.tracked.ledger :=
              (if_neg (not_not.mpr completed.1)).trans (unmapTracked_ledger _ kept.few)
            show 0 < (completeTracked h.tracked pkt).ledger.released id
            rw [ledger]
            exact freeMeta_pos _ _ held
          · exact Nat.lt_of_lt_of_le freed (clears.released id)
      · rw [Function.update_of_ne here] at done
        exact cleared.clears clears i done
    · exact ⟨kept.clears _ clears, cleared.clears clears⟩
  | unmap => exact ⟨kept.clears _ (clears_unmapAll _ kept.few), cleared.clears (clears_unmapAll _ kept.few)⟩

/-- **A response past the first lap** leaves the descriptor of its index as it was. -/
theorem tfdStep_leaves {h h' : TfdHistory} {op : QueueOp} (kept : TfdsKept h)
    (fails : completesFirstLap h op = false) (stepped : tfdStep h op = some h') : ¬ CompletedCleared h' := by
  obtain rfl := Option.some.inj stepped
  cases op with
  | enqueue env cmd => cases fails
  | unmap => cases fails
  | response pkt =>
    obtain ⟨completed, past⟩ := Classical.not_imp.mp (of_decide_eq_false fails)
    intro cleared
    have last : (h.apply (.response pkt)).completed (seqToIndex pkt.sequence) = true := by
      unfold TfdHistory.apply
      dsimp only
      rw [if_pos completed]
      exact Function.update_self ..
    have empty := (cleared _ last).1
    have tracked : (h.apply (.response pkt)).tracked = completeTracked h.tracked pkt := by
      unfold TfdHistory.apply
      dsimp only
      split <;> rfl
    obtain ⟨_, tfds⟩ := @hcmdComplete_arrays pkt _ completed.1
    have filled := kept.filled _ completed.2 (Nat.not_lt.mp past)
    have other : seqToIndex pkt.sequence ≠ iwlPcieGetTfd (seqToIndex pkt.sequence) :=
      fun same => past ((getTfd_eq_iff _).mp same.symm)
    have stays : (completeTracked h.tracked pkt).trans.txq.tfds (seqToIndex pkt.sequence) =
        h.tracked.trans.txq.tfds (seqToIndex pkt.sequence) := by
      show (iwlPcieHcmdComplete h.tracked.trans pkt).txq.tfds _ = _
      rw [tfds]
      exact tfdUnmap_tfds _ _ other
    rw [tracked, stays] at empty
    omega

theorem tfdsKept_init (cmdQueue : Fin 32) (wideCmdHeader apmgWakeUpWa : Bool) {firstTbDma : Nat}
    (inMask : firstTbDma + firstTbBufSize * tfdCmdSlots ≤ iwlTxDmaMask + 1) :
    TfdsKept (.init cmdQueue wideCmdHeader apmgWakeUpWa firstTbDma) where
  window := Nat.zero_le _
  inMask := inMask
  few := fun _ => Nat.zero_le _
  filled := fun _ flight _ => absurd flight not_within_self
  recorded := fun _ flight => absurd flight not_within_self

/-- **Builder and unmapper mean the same descriptor** for the indices of the first lap of the window only;
and every index that has completed has an empty descriptor and freed buffers, all along a run, exactly
when no response completes an index past it. -/
theorem tfdPositions (cmdQueue : Fin 32) (wideCmdHeader apmgWakeUpWa : Bool) (firstTbDma : Nat)
    (inMask : firstTbDma + firstTbBufSize * tfdCmdSlots ≤ iwlTxDmaMask + 1) :
    (∀ i, SameTfd i ↔ i.val < tfdCmdSlots) ∧
      ∀ ops : List QueueOp,
        Always tfdStep CompletedCleared (.init cmdQueue wideCmdHeader apmgWakeUpWa firstTbDma) ops ↔
          allowed tfdStep completesFirstLap (.init cmdQueue wideCmdHeader apmgWakeUpWa firstTbDma) ops =
            true :=
  ⟨sameTfd_iff, fun _ => always_iff_allowed (fun h => TfdsKept h ∧ CompletedCleared h)
    (fun _ _ _ kept met stepped => tfdStep_kept kept met stepped) (fun _ kept => kept.2)
    (fun _ _ _ kept fails stepped => tfdStep_leaves kept.1 fails stepped) (fun _ _ => ⟨_, rfl⟩)
    ⟨tfdsKept_init cmdQueue wideCmdHeader apmgWakeUpWa inMask, fun _ done => nomatch done⟩⟩

/-- The first command of a queue and its response. -/
theorem tfdPositions_firstCommand : Always tfdStep CompletedCleared (.init 9 true true 0x10000)
    [.enqueue fixedBuffers thirtyBytes, .response ⟨0, 0, 0, 0, 0x0900⟩] :=
  ((tfdPositions 9 true true 0x10000 (by decide)).2 _).mpr (by decide +kernel)

/-- Thirty-three commands, each with its response. -/
def thirtyThreeCommands : List QueueOp := (List.range 33).flatMap fun i =>
  [.enqueue fixedBuffers thirtyBytes, .response ⟨0, 0, 0, 0, 0x0900 + i⟩]

/-- **The thirty-third keeps its two TBs**, in a descriptor that its unmapping does not look at. -/
theorem tfds_left : ¬ SameTfd 32 ∧
    (thirtyThreeCommands.foldl TfdHistory.apply (.init 9 true true 0x10000)).completed 32 = true ∧
      ((thirtyThreeCommands.foldl TfdHistory.apply (.init 9 true true 0x10000)).tracked.trans.txq.tfds
        32).numTbs = 2 ∧
      ¬ CompletedCleared (thirtyThreeCommands.foldl TfdHistory.apply (.init 9 true true 0x10000)) := by
  have completed :
      (thirtyThreeCommands.foldl TfdHistory.apply (.init 9 true true 0x10000)).completed 32 = true := by
    decide +kernel
  have listed : ((thirtyThreeCommands.foldl TfdHistory.apply
      (.init 9 true true 0x10000)).tracked.trans.txq.tfds 32).numTbs = 2 := by
    decide +kernel
  refine ⟨fun same => absurd ((sameTfd_iff 32).mp same) (by decide), completed, listed, fun cleared => ?_⟩
  have empty := (cleared 32 completed).1
  rw [listed] at empty
  cases empty

end IntelWifi.Pcie
