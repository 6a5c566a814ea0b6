/-
**Who owns the DMA buffers of the command queue.**

A buffer is recorded in one place of one `meta->dma`, or was freed once. That holds as long as buffers
are only in the slots of indices in flight: then the `memset` of a slot clears nothing, and the queue is
empty only with every buffer freed. Two things leave a buffer in another slot: the NIC does not wake up
for a command whose buffers are mapped, and a response skips an index whose slot holds some.

* `mapParts_books`, `unmapTracked_books`: what mapping and unmapping do to the ledger.
* `enqueued_of_clear`: how an enqueued command ends.
* `dmaOwned_iff`: the runs in which every buffer is owned all along.
-/

import IntelWifi.Lib.Machine
import IntelWifi.Pcie.DmaLedger

namespace IntelWifi.Pcie

open IntelWifi.Accounts IntelWifi.Circular IntelWifi.Machine IntelWifi.Tally

/-! ### The places of a slot -/

section Places

variable (slot : Slot) (l : DmaLedger)

theorem freeMeta_obtained : (freeMeta slot l).obtained = l.obtained :=
  List.foldlRecOn (motive := fun l' : DmaLedger => l'.obtained = l.obtained) _ _ rfl
    fun l' same k _ => (release_obtained l' (slot, k)).trans same

theorem foldl_release_holds (ks : List (Fin metaDmaSize)) (place : DmaPlace) :
    (ks.foldl (fun l k => l.release (slot, k)) l).holds place =
      if place.1 = slot ∧ place.2 ∈ ks then none else l.holds place := by
  induction ks generalizing l with
  | nil =>
    rw [if_neg fun both => List.not_mem_nil both.2]
    rfl
  | cons k rest ih =>
    rw [List.foldl_cons, ih, release_holds]
    by_cases here : place = (slot, k)
    · subst here
      have member : k ∈ k :: rest := List.mem_cons_self
      rw [Function.update_self, ite_self, if_pos ⟨rfl, member⟩]
    · rw [Function.update_of_ne here]
      have same : (place.1 = slot ∧ place.2 ∈ rest) ↔ place.1 = slot ∧ place.2 ∈ k :: rest := by
        constructor
        · rintro ⟨own, member⟩
          exact ⟨own, List.mem_cons_of_mem _ member⟩
        · rintro ⟨own, member⟩
          exact ⟨own, (List.mem_cons.mp member).resolve_left fun last => here (Prod.ext own last)⟩
      simp only [same]

/-- A slot's places are cleared, the others stay. -/
theorem freeMeta_holds (place : DmaPlace) :
    (freeMeta slot l).holds place = if place.1 = slot then none else l.holds place := by
  unfold freeMeta
  rw [foldl_release_holds]
  simp only [List.mem_finRange, and_true]

theorem freeMeta_accounted {l : DmaLedger} (accounted : Accounted l) : Accounted (freeMeta slot l) :=
  List.foldlRecOn (motive := fun l : DmaLedger => Accounted l) _ _ accounted
    fun _ kept k _ => kept.release (slot, k)

/-- Nothing is lost where nothing is held. -/
theorem clearMeta_of_clear {l : DmaLedger} (clear : ∀ k, l.holds (slot, k) = none) :
    clearMeta slot l = l :=
  List.foldlRecOn (motive := fun l' : DmaLedger => l' = l) _ _ rfl fun l' same k _ => by
    rw [same]
    exact forget_of_clear l (slot, k) (clear k)

end Places

/-! ### The books -/

/-- The arrays of the slots hold what the ledger says. -/
structure Mirrors (st : IwlTrans) (l : DmaLedger) : Prop where
  length : ∀ slot, (st.txq.entries slot).cmdMeta.dma.length = metaDmaSize
  entry : ∀ (slot : Slot) (k : Fin metaDmaSize),
    (st.txq.entries slot).cmdMeta.dma[k.val]? = some (l.item (slot, k))

theorem Mirrors.of_same {st st' : IwlTrans} {l : DmaLedger} (mirrors : Mirrors st l)
    (same : ∀ slot, (st'.txq.entries slot).cmdMeta.dma = (st.txq.entries slot).cmdMeta.dma) :
    Mirrors st' l where
  length := fun slot => by rw [same]; exact mirrors.length slot
  entry := fun slot k => by rw [same]; exact mirrors.entry slot k

/-- The books of a state: every buffer is accounted for, and the arrays hold those that are not freed. -/
structure Books (t : Tracked) : Prop where
  accounted : Accounted t.ledger
  mirrors : Mirrors t.trans t.ledger

/-- No descriptor lists many chunks. -/
def FewTbs (q : IwlTxq) : Prop := ∀ i, (q.tfds i).numTbs ≤ 4

theorem FewTbs.few {q : IwlTxq} (few : FewTbs q) (i : RingIndex) :
    ¬ iwlNumOfTbs ≤ iwlPcieTfdGetNumTbs (q.tfds i) := by
  have atMost := few i
  unfold iwlPcieTfdGetNumTbs iwlNumOfTbs
  omega

/-! ### Unmapping -/

section Unmapping

variable {t : Tracked} (index : RingIndex)

/-- The places of the slot are freed. -/
theorem unmapTracked_ledger (few : FewTbs t.trans.txq) :
    (unmapTracked t index).ledger = freeMeta (iwlPcieGetCmdIndex index) t.ledger :=
  if_neg (few.few _)

theorem unmapTracked_txq (few : FewTbs t.trans.txq) :
    (unmapTracked t index).trans.txq =
      (t.trans.txq.setEntry (iwlPcieGetCmdIndex index)
        (t.trans.txq.entries (iwlPcieGetCmdIndex index)).unmapped).setTfd (iwlPcieGetTfd index)
        { t.trans.txq.tfds (iwlPcieGetTfd index) with numTbs := 0 } :=
  if_neg (few.few _)

theorem unmapTracked_few (few : FewTbs t.trans.txq) : FewTbs (unmapTracked t index).trans.txq := by
  intro i
  rw [unmapTracked_txq index few]
  by_cases here : i = iwlPcieGetTfd index
  · rw [here, setTfd_same]
    exact Nat.zero_le _
  · rw [setTfd_other _ _ _ here]
    exact few i

/-- **Unmapping frees the buffers of a slot**, and leaves no trace of them in its array. -/
theorem unmapTracked_books (few : FewTbs t.trans.txq) (books : Books t) :
    Books (unmapTracked t index) := by
  refine ⟨?_, ?_⟩
  · rw [unmapTracked_ledger index few]
    exact freeMeta_accounted _ books.accounted
  · rw [unmapTracked_ledger index few]
    have entries (slot : Slot) : ((unmapTracked t index).trans.txq.entries slot).cmdMeta.dma =
        if slot = iwlPcieGetCmdIndex index then
          (t.trans.txq.entries slot).cmdMeta.dma.map fun _ => none
        else (t.trans.txq.entries slot).cmdMeta.dma := by
      rw [unmapTracked_txq index few, setTfd_entries]
      by_cases here : slot = iwlPcieGetCmdIndex index
      · rw [here, setEntry_same, if_pos rfl]
        rfl
      · rw [setEntry_other _ _ _ here, if_neg here]
    constructor
    · intro slot
      rw [entries]
      split
      · rw [List.length_map]
        exact books.mirrors.length slot
      · exact books.mirrors.length slot
    · intro slot k
      have held := books.mirrors.entry slot k
      unfold Ledger.item at *
      rw [entries, freeMeta_holds, freeMeta_obtained]
      by_cases here : slot = iwlPcieGetCmdIndex index
      · rw [if_pos here, if_pos here, List.getElem?_map, held]
        rfl
      · rw [if_neg here, if_neg here]
        exact held

end Unmapping

/-! ### The parts of a command -/

/-- Every fragment is planned. -/
theorem planFragment_rests {env : EnqueueEnv} {plan plan' : HcmdPlan} {frag : IwlFragment}
    (planned : planFragment env plan frag = .ok plan') :
    plan'.rests.length = plan.rests.length + 1 := by
  unfold planFragment at planned
  dsimp only at planned
  split_ifs at planned
  all_goals try split at planned
  all_goals first
    | cases planned
      exact List.length_append
    | cases planned

theorem plan_rests {env : EnqueueEnv} {frags : List IwlFragment} {plan plan' : HcmdPlan}
    (planned : frags.foldlM (planFragment env) plan = .ok plan') :
    plan'.rests.length = plan.rests.length + frags.length := by
  induction frags generalizing plan with
  | nil =>
    cases planned
    rfl
  | cons frag later ih =>
    rw [List.foldlM_cons] at planned
    cases first : planFragment env plan frag with
    | error e =>
      rw [first] at planned
      cases planned
    | ok mid =>
      rw [first] at planned
      rw [ih planned, planFragment_rests first, List.length_cons]
      omega

/-- The third loop goes through the places of the array. -/
theorem remainingParts_places (dupBuf : Option (Nat × List UInt8)) (i : Nat)
    (rests : List (IwlFragment × List UInt8)) :
    ((remainingParts dupBuf i rests).map Prod.fst).Sublist (List.range' (i + 1) rests.length) := by
  induction rests generalizing i with
  | nil => exact List.Sublist.refl _
  | cons pair later ih =>
    rw [List.length_cons, List.range'_succ]
    unfold remainingParts
    split
    · exact (ih (i + 1)).cons _
    · split
      · exact (ih (i + 1)).cons _
      · exact (ih (i + 1)).cons_cons _

/-- **Each part has a place of its own.** -/
theorem hcmdParts_places {plan : HcmdPlan} (out : HcmdCopy) (two : plan.rests.length = 2) :
    ((hcmdParts plan out).map Prod.fst).Sublist (List.range metaDmaSize) := by
  have rests := remainingParts_places plan.dupBuf 0 plan.rests
  rw [two] at rests
  unfold hcmdParts
  dsimp only
  rw [List.map_append]
  split
  · exact rests.cons_cons 0
  · exact rests.cons 0

/-- What the checks leave. -/
theorem admitted_spec {env : EnqueueEnv} {cmd : IwlHostCmd} {st : IwlTrans} {plan : HcmdPlan}
    (passes : admitted env cmd st = some plan) :
    plan.rests.length = 2 ∧ requiredSpace cmd ≤ iwlQueueSpace st.txq := by
  unfold admitted at passes
  split at passes
  · cases passes
  · split at passes
    · cases passes
    · next planned =>
      split_ifs at passes with large room
      obtain rfl := Option.some.inj passes
      exact ⟨plan_rests planned, Nat.not_lt.mp room⟩

/-! ### Mapping -/

/-- A TB more in the descriptor of `write_ptr`. -/
theorem buildTfd_numTbs (q : IwlTxq) (addr len : Nat) (reset : Bool) :
    ∃ tfd, iwlPcieTxqBuildTfd q addr len reset = q.setTfd q.writePtr tfd ∧
      tfd.numTbs ≤ (if reset then 0 else (q.tfds q.writePtr).numTbs) + 1 := by
  have start : (if reset = true then IwlTfd.zero else q.tfds q.writePtr).numTbs =
      if reset then 0 else (q.tfds q.writePtr).numTbs := by
    cases reset <;> rfl
  unfold iwlPcieTxqBuildTfd
  dsimp only
  generalize (if reset = true then IwlTfd.zero else q.tfds q.writePtr) = tfd at *
  rw [← start]
  split
  · exact ⟨tfd, rfl, Nat.le_succ _⟩
  · split
    · exact ⟨tfd, rfl, Nat.le_succ _⟩
    · exact ⟨_, rfl, Nat.succ_le_succ (Nat.mod_le _ _)⟩

/-- The slot `idx` is being mapped, and the descriptor of `write_ptr` lists at most `n` chunks. -/
structure Mapping (idx : Slot) (n : Nat) (t t' : Tracked) : Prop where
  books : Books t'
  others : ∀ place : DmaPlace, place.1 ≠ idx → t'.ledger.holds place = t.ledger.holds place
  kept : ∀ place, t.ledger.holds place ≠ none → t'.ledger.holds place ≠ none
  readPtr : t'.trans.txq.readPtr = t.trans.txq.readPtr
  writePtr : t'.trans.txq.writePtr = t.trans.txq.writePtr
  wakeUpWa : t'.trans.apmgWakeUpWa = t.trans.apmgWakeUpWa
  holdAwake : t'.trans.cmdHoldNicAwake = t.trans.cmdHoldNicAwake
  tfds : ∀ i, i ≠ t.trans.txq.writePtr → t'.trans.txq.tfds i = t.trans.txq.tfds i
  chunks : (t'.trans.txq.tfds t.trans.txq.writePtr).numTbs ≤ n

theorem Mapping.refl {idx : Slot} {n : Nat} {t : Tracked} (books : Books t)
    (chunks : (t.trans.txq.tfds t.trans.txq.writePtr).numTbs ≤ n) : Mapping idx n t t :=
  ⟨books, fun _ _ => rfl, fun _ held => held, rfl, rfl, rfl, rfl, fun _ _ => rfl, chunks⟩

theorem Mapping.then {idx : Slot} {m n : Nat} {a b c : Tracked} (first : Mapping idx m a b)
    (second : Mapping idx n b c) : Mapping idx n a c where
  books := second.books
  others := fun place other => (second.others place other).trans (first.others place other)
  kept := fun place held => second.kept place (first.kept place held)
  readPtr := second.readPtr.trans first.readPtr
  writePtr := second.writePtr.trans first.writePtr
  wakeUpWa := second.wakeUpWa.trans first.wakeUpWa
  holdAwake := second.holdAwake.trans first.holdAwake
  tfds := fun i other =>
    (second.tfds i (first.writePtr.symm ▸ other)).trans (first.tfds i other)
  chunks := first.writePtr ▸ second.chunks

theorem Mapping.mono {idx : Slot} {m n : Nat} {t t' : Tracked} (mapping : Mapping idx m t t')
    (le : m ≤ n) : Mapping idx n t t' :=
  { mapping with chunks := Nat.le_trans mapping.chunks le }

/-- A slot's array with a buffer in a further place. -/
theorem mirrors_record {st st' : IwlTrans} {l : DmaLedger} {idx : Slot} {k : Fin metaDmaSize}
    {dma : IwlDmaPtr} (mirrors : Mirrors st l) (accounted : Accounted l)
    (own : st'.txq.entries idx = (st.txq.entries idx).setDma k.val dma)
    (others : ∀ slot, slot ≠ idx → st'.txq.entries slot = st.txq.entries slot) :
    Mirrors st' (l.obtain (idx, k) dma) := by
  constructor
  · intro slot
    by_cases here : slot = idx
    · rw [here, own]
      exact List.length_set.trans (mirrors.length idx)
    · rw [others slot here]
      exact mirrors.length slot
  · intro slot j
    by_cases here : slot = idx
    · subst here
      rw [own]
      show ((st.txq.entries slot).cmdMeta.dma.set k.val (some dma))[j.val]? = _
      by_cases same : j = k
      · subst same
        rw [item_obtain_self, List.getElem?_set_self]
        rw [mirrors.length]
        exact j.isLt
      · rw [accounted.item_obtain dma fun there => same (Prod.mk.inj there).2,
          List.getElem?_set_ne fun there => same (Fin.ext there.symm)]
        exact mirrors.entry slot j
    · rw [others slot here, accounted.item_obtain dma fun there => here (Prod.mk.inj there).1]
      exact mirrors.entry slot j

/-- **One more TB**: its buffer is recorded. -/
theorem mapTracked_mapping {env : EnqueueEnv} {idx : Slot} {n : Nat} {t t' : Tracked}
    {part : Nat × List UInt8} (books : Books t) (inside : part.1 < metaDmaSize)
    (clear : t.ledger.holds (idx, ⟨part.1, inside⟩) = none)
    (chunks : (t.trans.txq.tfds t.trans.txq.writePtr).numTbs ≤ n)
    (mapped : mapTracked env idx t part = .ok t') :
    Mapping idx (n + 1) t t' ∧ t'.ledger.holds =
      Function.update t.ledger.holds (idx, ⟨part.1, inside⟩) (some t.ledger.obtained.length) := by
  unfold mapTracked mapPart at mapped
  cases got : env.dmaBuf part.1 part.2.length with
  | none =>
    rw [got] at mapped
    cases mapped
  | some dma =>
    rw [got] at mapped
    obtain rfl := Except.ok.inj mapped
    obtain ⟨tfd, built, count⟩ := buildTfd_numTbs (t.trans.txq.setEntry idx
      ((t.trans.txq.entries idx).setDma part.1 ⟨dma, part.2.length⟩)) dma part.2.length false
    unfold recordDma
    rw [dif_pos inside, built]
    refine ⟨⟨⟨books.accounted.obtain clear _, ?_⟩, fun place other => ?_, fun place held => ?_, rfl,
      rfl, rfl, rfl, fun i other => setTfd_other _ _ _ other, ?_⟩, rfl⟩
    · exact mirrors_record books.mirrors books.accounted (setEntry_same _ _ _)
        fun slot other => setEntry_other _ _ _ other
    · exact Function.update_of_ne (fun here => other (congrArg Prod.fst here)) _ _
    · show Function.update t.ledger.holds _ _ place ≠ none
      by_cases here : place = (idx, ⟨part.1, inside⟩)
      · rw [here, Function.update_self]
        exact Option.some_ne_none _
      · rwa [Function.update_of_ne here]
    · have same := setTfd_same (t.trans.txq.setEntry idx
        ((t.trans.txq.entries idx).setDma part.1 ⟨dma, part.2.length⟩)) t.trans.txq.writePtr tfd
      show (_ : IwlTfd).numTbs ≤ n + 1
      rw [setEntry_writePtr, same]
      exact Nat.le_trans count (Nat.succ_le_succ chunks)

theorem mapTracked_error {env : EnqueueEnv} {idx : Slot} {t t' : Tracked} {part : Nat × List UInt8}
    (failed : mapTracked env idx t part = .error t') :
    t' = t ∧ env.dmaBuf part.1 part.2.length = none := by
  unfold mapTracked mapPart at failed
  cases got : env.dmaBuf part.1 part.2.length with
  | none =>
    rw [got] at failed
    exact ⟨(Except.error.inj failed).symm, rfl⟩
  | some dma =>
    rw [got] at failed
    cases failed

theorem mapTracked_ok {env : EnqueueEnv} {idx : Slot} {t t' : Tracked} {part : Nat × List UInt8}
    (mapped : mapTracked env idx t part = .ok t') :
    (env.dmaBuf part.1 part.2.length).isSome = true := by
  unfold mapTracked at mapped
  split at mapped
  · next got _ =>
    rw [got]
    rfl
  · cases mapped

/-- There is a buffer for each part. -/
def AllMapped (env : EnqueueEnv) (parts : List (Nat × List UInt8)) : Prop :=
  ∀ part ∈ parts, (env.dmaBuf part.1 part.2.length).isSome = true

/-- **All parts of a command**: mapped, or stopped at the first without a buffer. -/
theorem mapParts_books (env : EnqueueEnv) (idx : Slot) (parts : List (Nat × List UInt8)) {n : Nat}
    {t : Tracked} (books : Books t) (inside : ∀ part ∈ parts, part.1 < metaDmaSize)
    (apart : (parts.map Prod.fst).Nodup)
    (clear : ∀ k : Fin metaDmaSize, k.val ∈ parts.map Prod.fst → t.ledger.holds (idx, k) = none)
    (chunks : (t.trans.txq.tfds t.trans.txq.writePtr).numTbs ≤ n) :
    match parts.foldlM (mapTracked env idx) t with
    | .error t' => Mapping idx (n + parts.length) t t' ∧ ¬ AllMapped env parts
    | .ok t' => Mapping idx (n + parts.length) t t' ∧ AllMapped env parts ∧
        ∀ k : Fin metaDmaSize, k.val ∈ parts.map Prod.fst → t'.ledger.holds (idx, k) ≠ none := by
  induction parts generalizing n t with
  | nil => exact ⟨.refl books chunks, fun _ none => absurd none List.not_mem_nil,
      fun _ none => absurd none List.not_mem_nil⟩
  | cons part rest ih =>
    have first := inside part List.mem_cons_self
    rw [List.map_cons, List.nodup_cons] at apart
    rw [List.foldlM_cons]
    cases mapped : mapTracked env idx t part with
    | error t' =>
      obtain ⟨rfl, none⟩ := mapTracked_error mapped
      refine ⟨.refl books (Nat.le_trans chunks (Nat.le_add_right _ _)), fun all => ?_⟩
      have some := all part List.mem_cons_self
      rw [none] at some
      cases some
    | ok mid =>
      obtain ⟨mapping, holds⟩ := mapTracked_mapping books first
        (clear ⟨part.1, first⟩ List.mem_cons_self) chunks mapped
      have clear' (k : Fin metaDmaSize) (later : k.val ∈ rest.map Prod.fst) :
          mid.ledger.holds (idx, k) = none := by
        rw [holds, Function.update_of_ne]
        · exact clear k (List.mem_cons_of_mem _ later)
        · intro same
          have place : k.val = part.1 := congrArg Fin.val (Prod.mk.inj same).2
          exact apart.1 (place ▸ later)
      have chunks' : (mid.trans.txq.tfds mid.trans.txq.writePtr).numTbs ≤ n + 1 :=
        mapping.writePtr ▸ mapping.chunks
      have later := ih mapping.books (fun part member => inside part (List.mem_cons_of_mem _ member))
        apart.2 clear' chunks'
      have count : n + (part :: rest).length = n + 1 + rest.length := by
        rw [List.length_cons]
        omega
      rw [count]
      show match rest.foldlM (mapTracked env idx) mid with
        | .error t' => Mapping idx (n + 1 + rest.length) t t' ∧ ¬ AllMapped env (part :: rest)
        | .ok t' => Mapping idx (n + 1 + rest.length) t t' ∧ AllMapped env (part :: rest) ∧
          ∀ k : Fin metaDmaSize, k.val ∈ (part :: rest).map Prod.fst → t'.ledger.holds (idx, k) ≠ none
      split at later
      · next t' _ =>
        exact ⟨mapping.then later.1,
          fun all => later.2 fun part member => all part (List.mem_cons_of_mem _ member)⟩
      · next t' _ =>
        obtain ⟨rests, all, held⟩ := later
        refine ⟨mapping.then rests, fun other member => ?_, fun k member => ?_⟩
        · rcases List.mem_cons.mp member with rfl | member
          · exact mapTracked_ok mapped
          · exact all other member
        · rcases List.mem_cons.mp member with same | member
          · refine rests.kept (idx, k) ?_
            have here : (idx, k) = (idx, (⟨part.1, first⟩ : Fin metaDmaSize)) :=
              congrArg (Prod.mk idx) (Fin.ext same)
            rw [holds, here, Function.update_self]
            exact Option.some_ne_none _
          · exact held k member

/-! ### Enqueueing -/

/-- `iwl_pcie_set_cmd_in_flight` asks for the NIC, and it does not wake up. -/
def nicRefuses (env : EnqueueEnv) (st : IwlTrans) : Bool :=
  st.apmgWakeUpWa && !st.cmdHoldNicAwake && !env.nicWakes

/-- What a call maps, if it passes its checks and gets all its buffers. -/
def mappedParts (env : EnqueueEnv) (cmd : IwlHostCmd) (st : IwlTrans) :
    Option (List (Nat × List UInt8)) :=
  match admitted env cmd st with
  | none => none
  | some plan =>
    let parts := plannedParts cmd plan st
    if parts.all fun part => (env.dmaBuf part.1 part.2.length).isSome then some parts else none

/-- A call keeps to the slot of `write_ptr`, and its books are kept. -/
structure Touches (t t' : Tracked) : Prop where
  books : Books t'
  few : FewTbs t'.trans.txq
  others : ∀ place : DmaPlace, place.1 ≠ iwlPcieGetCmdIndex t.trans.txq.writePtr →
    t'.ledger.holds place = t.ledger.holds place
  readPtr : t'.trans.txq.readPtr = t.trans.txq.readPtr

/-- The places of the slot of `write_ptr` are clear. -/
def NextClear (t : Tracked) (l : DmaLedger) : Prop :=
  ∀ k, l.holds (iwlPcieGetCmdIndex t.trans.txq.writePtr, k) = none

/-- **How a call ends.** -/
inductive Enqueued (env : EnqueueEnv) (cmd : IwlHostCmd) (t t' : Tracked) : Prop
  | refused (refused : admitted env cmd t.trans = none) (same : t' = t)
  | unmapped (touches : Touches t t') (writePtr : t'.trans.txq.writePtr = t.trans.txq.writePtr)
      (clear : NextClear t t'.ledger) (partial_ : mappedParts env cmd t.trans = none)
  | accepted (touches : Touches t t') (room : 1 ≤ iwlQueueSpace t.trans.txq)
      (writePtr : t'.trans.txq.writePtr = iwlQueueIncWrap t.trans.txq.writePtr)
      (awake : nicRefuses env t.trans = false)
  | asleep (touches : Touches t t') (room : 1 ≤ iwlQueueSpace t.trans.txq)
      (writePtr : t'.trans.txq.writePtr = t.trans.txq.writePtr)
      (asleep : nicRefuses env t.trans = true) (parts : List (Nat × List UInt8))
      (mapped : mappedParts env cmd t.trans = some parts)
      (held : parts ≠ [] →
        ∃ k, t'.ledger.holds (iwlPcieGetCmdIndex t.trans.txq.writePtr, k) ≠ none)
      (bare : parts = [] → NextClear t t'.ledger)

section Enqueueing

variable {env : EnqueueEnv} {cmd : IwlHostCmd} {plan : HcmdPlan} {t : Tracked}

/-- The slot is cleared and has its first TB. -/
theorem startTracked_mapping (cmd : IwlHostCmd) (plan : HcmdPlan) (books : Books t)
    (clear : NextClear t t.ledger) :
    Mapping (iwlPcieGetCmdIndex t.trans.txq.writePtr) 1 t (startTracked cmd plan t) ∧
      (startTracked cmd plan t).ledger = t.ledger := by
  have same : (startTracked cmd plan t).ledger = t.ledger := clearMeta_of_clear _ clear
  refine ⟨?_, same⟩
  have accounted : Accounted (startTracked cmd plan t).ledger := same ▸ books.accounted
  unfold startTracked startTfd
  dsimp only
  generalize fillSlot cmd _ _ = out
  obtain ⟨tfd, built, count⟩ := buildTfd_numTbs
    (t.trans.txq.setEntry (iwlPcieGetCmdIndex t.trans.txq.writePtr)
      ⟨out.cmd, (t.trans.txq.entries (iwlPcieGetCmdIndex t.trans.txq.writePtr)).freeBuf,
        { IwlCmdMeta.zero with source := if cmd.flags.wantSkb then some cmd.ptr else none }⟩)
    (iwlPcieGetFirstTbDma t.trans.txq (iwlPcieGetCmdIndex t.trans.txq.writePtr))
    (min out.copySize iwlFirstTbSize) true
  rw [clearMeta_of_clear _ clear, built]
  refine ⟨⟨same ▸ accounted, ?_, ?_⟩, fun _ _ => rfl, fun _ held => held, rfl, rfl, rfl, rfl,
    fun i other => setTfd_other _ _ _ other, ?_⟩
  · intro slot
    rw [setTfd_entries]
    by_cases here : slot = iwlPcieGetCmdIndex t.trans.txq.writePtr
    · rw [here, setEntry_same]
      rfl
    · rw [setEntry_other _ _ _ here]
      exact books.mirrors.length slot
  · intro slot k
    rw [setTfd_entries]
    by_cases here : slot = iwlPcieGetCmdIndex t.trans.txq.writePtr
    · subst here
      rw [setEntry_same]
      unfold Ledger.item
      rw [clear k]
      have zero : ∀ k : Fin metaDmaSize, IwlCmdMeta.zero.dma[k.val]? = some none := by decide
      exact zero k
    · rw [setEntry_other _ _ _ here]
      exact books.mirrors.entry slot k
  · show (((t.trans.txq.setEntry _ _).setTfd _ tfd).tfds t.trans.txq.writePtr).numTbs ≤ 1
    rw [setEntry_writePtr, setTfd_same]
    exact count

theorem setCmdInFlight_result (env : EnqueueEnv) (cmd : IwlHostCmd) (st : IwlTrans) :
    (iwlPcieSetCmdInFlight env cmd st).1 = if nicRefuses env st then .error .eio else .ok () := by
  unfold iwlPcieSetCmdInFlight nicRefuses
  dsimp only
  have wake : (if (!cmd.flags.sendInIdle && !st.refCmdInFlight) = true then
      { st with refCmdInFlight := true } else st).apmgWakeUpWa = st.apmgWakeUpWa := by
    split <;> rfl
  have hold : (if (!cmd.flags.sendInIdle && !st.refCmdInFlight) = true then
      { st with refCmdInFlight := true } else st).cmdHoldNicAwake = st.cmdHoldNicAwake := by
    split <;> rfl
  rw [wake, hold]
  cases st.apmgWakeUpWa <;> cases st.cmdHoldNicAwake <;> cases env.nicWakes <;> rfl

/-- The last steps change no array and no descriptor. -/
theorem commitPlanned_frame (env : EnqueueEnv) (cmd : IwlHostCmd) (plan : HcmdPlan) (idx : Slot)
    (st : IwlTrans) :
    (∀ slot, ((commitPlanned env cmd plan idx st).txq.entries slot).cmdMeta.dma =
        (st.txq.entries slot).cmdMeta.dma) ∧
      (commitPlanned env cmd plan idx st).txq.tfds = st.txq.tfds ∧
      (commitPlanned env cmd plan idx st).txq.readPtr = st.txq.readPtr ∧
      (commitPlanned env cmd plan idx st).txq.writePtr =
        if nicRefuses env st then st.txq.writePtr else iwlQueueIncWrap st.txq.writePtr := by
  have result := setCmdInFlight_result env cmd (finishSlot cmd plan idx st)
  obtain ⟨sameTxq, _, _⟩ := setCmdInFlight_txq env cmd (finishSlot cmd plan idx st)
  have entries (slot : Slot) : ((finishSlot cmd plan idx st).txq.entries slot).cmdMeta.dma =
      (st.txq.entries slot).cmdMeta.dma := by
    unfold finishSlot
    by_cases here : slot = idx
    · subst here
      exact congrArg (fun entry => entry.cmdMeta.dma) (setEntry_same _ _ _)
    · exact congrArg (fun entry => entry.cmdMeta.dma) (setEntry_other _ _ _ here)
  have refuses : nicRefuses env (finishSlot cmd plan idx st) = nicRefuses env st := rfl
  unfold commitPlanned
  rw [refuses] at result
  cases woken : iwlPcieSetCmdInFlight env cmd (finishSlot cmd plan idx st) with
  | mk outcome last =>
    rw [woken] at result sameTxq
    dsimp only at result sameTxq
    cases refused : nicRefuses env st with
    | true =>
      rw [refused, if_pos rfl] at result
      subst result
      dsimp only
      rw [sameTxq]
      exact ⟨entries, rfl, rfl, rfl⟩
    | false =>
      rw [refused, if_neg Bool.false_ne_true] at result
      subst result
      dsimp only
      rw [sameTxq]
      exact ⟨entries, rfl, rfl, rfl⟩

theorem fewTbs_of_mapping {idx : Slot} {t' : Tracked} (few : FewTbs t.trans.txq)
    (mapping : Mapping idx 4 t t') : FewTbs t'.trans.txq := by
  intro i
  by_cases here : i = t.trans.txq.writePtr
  · rw [here]
    exact mapping.chunks
  · rw [mapping.tfds i here]
    exact few i

/-- What is mapped, if there is a buffer for each part. -/
theorem mappedParts_some (passes : admitted env cmd t.trans = some plan)
    (all : AllMapped env (plannedParts cmd plan t.trans)) :
    mappedParts env cmd t.trans = some (plannedParts cmd plan t.trans) := by
  unfold mappedParts
  rw [passes]
  exact if_pos (List.all_eq_true.mpr all)

theorem mappedParts_none (passes : admitted env cmd t.trans = some plan)
    (short : ¬ AllMapped env (plannedParts cmd plan t.trans)) : mappedParts env cmd t.trans = none := by
  unfold mappedParts
  rw [passes]
  exact if_neg (mt List.all_eq_true.mp short)

/-- **What was mapped is unmapped**: the slot is clear again. -/
theorem Mapping.unmap {mid : Tracked} (few : FewTbs t.trans.txq)
    (mapping : Mapping (iwlPcieGetCmdIndex t.trans.txq.writePtr) 4 t mid) :
    Touches t (unmapTracked mid t.trans.txq.writePtr) ∧
      NextClear t (unmapTracked mid t.trans.txq.writePtr).ledger := by
  have fewMid := fewTbs_of_mapping few mapping
  have ledger := unmapTracked_ledger t.trans.txq.writePtr fewMid
  refine ⟨⟨unmapTracked_books _ fewMid mapping.books, unmapTracked_few _ fewMid, fun place other => ?_,
    (tfdUnmap_readPtr _ _).trans mapping.readPtr⟩, fun k => ?_⟩
  · rw [ledger, freeMeta_holds, if_neg other]
    exact mapping.others place other
  · rw [ledger, freeMeta_holds, if_pos rfl]

/-- **What was mapped is committed**, in the end. -/
theorem Mapping.commit {mid : Tracked} (env : EnqueueEnv) (cmd : IwlHostCmd) (plan : HcmdPlan)
    (few : FewTbs t.trans.txq) (mapping : Mapping (iwlPcieGetCmdIndex t.trans.txq.writePtr) 4 t mid) :
    Touches t ⟨commitPlanned env cmd plan (iwlPcieGetCmdIndex t.trans.txq.writePtr) mid.trans, mid.ledger⟩ ∧
      (commitPlanned env cmd plan (iwlPcieGetCmdIndex t.trans.txq.writePtr) mid.trans).txq.writePtr =
        if nicRefuses env t.trans then t.trans.txq.writePtr else iwlQueueIncWrap t.trans.txq.writePtr := by
  obtain ⟨arrays, tfds, readPtr, writePtr⟩ := commitPlanned_frame env cmd plan
    (iwlPcieGetCmdIndex t.trans.txq.writePtr) mid.trans
  have refuses : nicRefuses env mid.trans = nicRefuses env t.trans := by
    unfold nicRefuses
    rw [mapping.wakeUpWa, mapping.holdAwake]
  rw [refuses, mapping.writePtr] at writePtr
  refine ⟨⟨⟨mapping.books.accounted, mapping.books.mirrors.of_same arrays⟩, fun i => ?_, mapping.others,
    readPtr.trans mapping.readPtr⟩, writePtr⟩
  show ((commitPlanned env cmd plan _ mid.trans).txq.tfds i).numTbs ≤ 4
  rw [tfds]
  exact fewTbs_of_mapping few mapping i

/-- **How a call ends**, when the next slot is clear while there is space. -/
theorem enqueued_of_clear (env : EnqueueEnv) (cmd : IwlHostCmd) (books : Books t)
    (few : FewTbs t.trans.txq)
    (clear : 1 ≤ iwlQueueSpace t.trans.txq → NextClear t t.ledger) :
    Enqueued env cmd t (enqueueTracked env cmd t) := by
  unfold enqueueTracked
  cases passes : admitted env cmd t.trans with
  | none => exact .refused passes rfl
  | some plan =>
    obtain ⟨two, enough⟩ := admitted_spec passes
    have room : 1 ≤ iwlQueueSpace t.trans.txq := by
      refine Nat.le_trans ?_ enough
      unfold requiredSpace
      split <;> decide
    have nextClear := clear room
    obtain ⟨started, sameLedger⟩ := startTracked_mapping cmd plan books nextClear
    have places : ((plannedParts cmd plan t.trans).map Prod.fst).Sublist (List.range metaDmaSize) :=
      hcmdParts_places _ two
    have atMost : (plannedParts cmd plan t.trans).length ≤ 3 := by
      have length := places.length_le
      rwa [List.length_map, List.length_range] at length
    have mapped := mapParts_books env (iwlPcieGetCmdIndex t.trans.txq.writePtr)
      (plannedParts cmd plan t.trans) started.books
      (fun part member => List.mem_range.mp (places.subset (List.mem_map_of_mem member)))
      (places.nodup List.nodup_range) (fun k _ => by rw [sameLedger]; exact nextClear k)
      (started.writePtr ▸ started.chunks)
    dsimp only
    unfold plannedTracked
    dsimp only
    cases done : (plannedParts cmd plan t.trans).foldlM
        (mapTracked env (iwlPcieGetCmdIndex t.trans.txq.writePtr)) (startTracked cmd plan t) with
    | error mid =>
      rw [done] at mapped
      obtain ⟨parts, short⟩ := mapped
      have mapping := (started.then parts).mono (show _ ≤ 4 by omega)
      obtain ⟨touches, unmapped⟩ := mapping.unmap few
      dsimp only
      rw [mapping.writePtr]
      exact .unmapped touches ((tfdUnmap_writePtr _ _).trans mapping.writePtr) unmapped (mappedParts_none passes short)
    | ok mid =>
      rw [done] at mapped
      obtain ⟨parts, all, held⟩ := mapped
      have mapping := (started.then parts).mono (show _ ≤ 4 by omega)
      obtain ⟨touches, writePtr⟩ := mapping.commit env cmd plan few
      cases refused : nicRefuses env t.trans with
      | false =>
        rw [refused, if_neg Bool.false_ne_true] at writePtr
        exact .accepted touches room writePtr refused
      | true =>
        rw [refused, if_pos rfl] at writePtr
        refine .asleep touches room writePtr refused (plannedParts cmd plan t.trans) (mappedParts_some passes all)
          (fun some => ?_) fun none => ?_
        · obtain ⟨part, rest, split⟩ := List.exists_cons_of_ne_nil some
          have member : part.1 ∈ (plannedParts cmd plan t.trans).map Prod.fst := by
            rw [split]
            exact List.mem_cons_self
          have inside : part.1 < metaDmaSize := List.mem_range.mp (places.subset member)
          exact ⟨⟨part.1, inside⟩, held ⟨part.1, inside⟩ member⟩
        · rw [none] at done
          obtain rfl := Except.ok.inj done
          intro k
          exact (congrArg (fun l : DmaLedger => l.holds _) sameLedger).trans (nextClear k)

end Enqueueing

/-! ### Slots in use -/

/-- An index in flight has the slot. -/
def SlotInUse (q : IwlTxq) (slot : Slot) : Prop := ∃ i, InFlight q i ∧ iwlPcieGetCmdIndex i = slot

section InUse

variable {q q' : IwlTxq}

/-- **While there is space, the slot of `write_ptr` is not in use.** -/
theorem nextSlot_free (room : 1 ≤ iwlQueueSpace q) :
    ¬ SlotInUse q (iwlPcieGetCmdIndex q.writePtr) := by
  rintro ⟨i, flight, same⟩
  have grown := @inFlight_push q { q with writePtr := iwlQueueIncWrap q.writePtr } room rfl rfl
  have window : queueLength { q with writePtr := iwlQueueIncWrap q.writePtr } ≤ tfdCmdSlots :=
    queueLength_push room rfl rfl
  have last := slot_injOn _ window ((grown i).mpr (.inl flight)) ((grown q.writePtr).mpr (.inr rfl)) same
  rw [last] at flight
  exact Nat.lt_irrefl _ flight.2

/-- The interval after `read_ptr` has moved behind an index in flight. -/
theorem inFlight_pop {j : RingIndex} (flight : InFlight q j) (readPtr : q'.readPtr = iwlQueueIncWrap j)
    (writePtr : q'.writePtr = q.writePtr) (i : RingIndex) :
    InFlight q' i ↔ InFlight q i ∧
      gap tfdQueueSizeMax q.readPtr.val j.val < gap tfdQueueSizeMax q.readPtr.val i.val := by
  unfold InFlight
  rw [readPtr, writePtr, incWrap_eq]
  constructor
  · exact fun later => within_after q.readPtr.isLt q.writePtr.isLt flight later
  · exact fun both => within_of_farther q.readPtr.isLt q.writePtr.isLt flight both.1 both.2

end InUse

/-! ### The invariant -/

/-- **Buffers are only in slots in use.** -/
structure Sound (t : Tracked) : Prop where
  window : queueLength t.trans.txq ≤ tfdCmdSlots
  books : Books t
  few : FewTbs t.trans.txq
  inUse : ∀ place : DmaPlace, t.ledger.holds place ≠ none → SlotInUse t.trans.txq place.1

/-- **Every buffer is owned**: it is recorded in one place of one array or was freed once, and was
freed if the queue is empty. -/
structure DmaOwned (t : Tracked) : Prop where
  accounted : Accounted t.ledger
  mirrors : Mirrors t.trans t.ledger
  drained : t.trans.txq.readPtr = t.trans.txq.writePtr →
    ∀ id < t.ledger.obtained.length, t.ledger.released id = 1

theorem Sound.owned {t : Tracked} (sound : Sound t) : DmaOwned t where
  accounted := sound.books.accounted
  mirrors := sound.books.mirrors
  drained := by
    intro empty
    refine sound.books.accounted.all_released fun place => ?_
    by_contra held
    obtain ⟨i, flight, _⟩ := sound.inUse place held
    unfold InFlight at flight
    rw [empty] at flight
    exact not_within_self flight

section Preservation

variable {t t' : Tracked}

/-- A buffer that stays behind in a slot that is not in use. -/
def LeftBehind (t : Tracked) : Prop :=
  ∃ place : DmaPlace, t.ledger.holds place ≠ none ∧ ¬ SlotInUse t.trans.txq place.1

/-- The slot of an index is freed, and the pointers stay. -/
theorem Sound.freed (sound : Sound t) {index : RingIndex} (books : Books t') (few : FewTbs t'.trans.txq)
    (ledger : t'.ledger = freeMeta (iwlPcieGetCmdIndex index) t.ledger)
    (readPtr : t'.trans.txq.readPtr = t.trans.txq.readPtr)
    (writePtr : t'.trans.txq.writePtr = t.trans.txq.writePtr) : Sound t' := by
  refine ⟨?_, books, few, fun place held => ?_⟩
  · rw [queueLength_eq, readPtr, writePtr, ← queueLength_eq]
    exact sound.window
  · rw [ledger, freeMeta_holds] at held
    split at held
    · exact absurd rfl held
    · obtain ⟨i, flight, same⟩ := sound.inUse place held
      refine ⟨i, ?_, same⟩
      unfold InFlight
      rw [readPtr, writePtr]
      exact flight

/-- The index comes before another that is reclaimed. -/
def Skipped (q : IwlTxq) (i index : RingIndex) : Prop :=
  gap tfdQueueSizeMax q.readPtr.val i.val < gap tfdQueueSizeMax q.readPtr.val index.val

instance (q : IwlTxq) (i index : RingIndex) : Decidable (Skipped q i index) :=
  inferInstanceAs (Decidable (_ < _))

/-- What is skipped is in flight. -/
theorem Skipped.inFlight {q : IwlTxq} {i index : RingIndex} (skipped : Skipped q i index)
    (flight : InFlight q index) : InFlight q i :=
  ⟨i.isLt, Nat.lt_trans skipped flight.2⟩

/-- **An index is reclaimed**, its slot freed, and no buffers in the slots that are skipped. -/
theorem Sound.popped (sound : Sound t) {index : RingIndex} (flight : InFlight t.trans.txq index)
    (bare : ∀ i, Skipped t.trans.txq i index → ∀ k, t.ledger.holds (iwlPcieGetCmdIndex i, k) = none)
    (books : Books t') (few : FewTbs t'.trans.txq)
    (ledger : t'.ledger = freeMeta (iwlPcieGetCmdIndex index) t.ledger)
    (readPtr : t'.trans.txq.readPtr = iwlQueueIncWrap index)
    (writePtr : t'.trans.txq.writePtr = t.trans.txq.writePtr) : Sound t' := by
  refine ⟨Nat.le_trans (window_reclaim flight readPtr writePtr) sound.window, books, few,
    fun place held => ?_⟩
  rw [ledger, freeMeta_holds] at held
  split at held
  · exact absurd rfl held
  · next other =>
    obtain ⟨i, inside, same⟩ := sound.inUse place held
    refine ⟨i, (inFlight_pop flight readPtr writePtr i).mpr ⟨inside, ?_⟩, same⟩
    rcases Nat.lt_trichotomy (gap tfdQueueSizeMax t.trans.txq.readPtr.val index.val)
      (gap tfdQueueSizeMax t.trans.txq.readPtr.val i.val) with after | equal | before
    · exact after
    · have index_eq : index = i :=
        Fin.ext (gap_injective t.trans.txq.readPtr.isLt index.isLt i.isLt equal)
      exact absurd (same.symm.trans (congrArg iwlPcieGetCmdIndex index_eq.symm)) other
    · refine absurd ?_ held
      have clear := bare i before place.2
      rwa [same] at clear

/-- A skipped slot keeps its buffers, and is not in use any more. -/
theorem leftBehind_of_skipped (sound : Sound t) {index i : RingIndex} (flight : InFlight t.trans.txq index)
    (skipped : Skipped t.trans.txq i index) {k : Fin metaDmaSize}
    (held : t.ledger.holds (iwlPcieGetCmdIndex i, k) ≠ none)
    (ledger : t'.ledger = freeMeta (iwlPcieGetCmdIndex index) t.ledger)
    (readPtr : t'.trans.txq.readPtr = iwlQueueIncWrap index)
    (writePtr : t'.trans.txq.writePtr = t.trans.txq.writePtr) : LeftBehind t' := by
  have inside := skipped.inFlight flight
  refine ⟨(iwlPcieGetCmdIndex i, k), ?_, ?_⟩
  · rw [ledger, freeMeta_holds, if_neg]
    · exact held
    · intro same
      have equal := slot_injOn _ sound.window inside flight same
      unfold Skipped at skipped
      rw [equal] at skipped
      exact Nat.lt_irrefl _ skipped
  · rintro ⟨j, later, same⟩
    obtain ⟨before, farther⟩ := (inFlight_pop flight readPtr writePtr j).mp later
    have equal := slot_injOn _ sound.window before inside same
    unfold Skipped at skipped
    rw [equal] at farther
    exact Nat.lt_asymm skipped farther

/-! ### Unmapping the queue -/

theorem unmapNextTracked_txq (t : Tracked) :
    (unmapNextTracked t).trans.txq = { (unmapTracked t t.trans.txq.readPtr).trans.txq with
      readPtr := iwlQueueIncWrap t.trans.txq.readPtr } := by
  unfold unmapNextTracked unmapNext
  dsimp only
  rw [(clearIfEmpty_frame _).1]
  unfold iwlPcieTxqFreeTfd unmapTracked
  rw [tfdUnmap_readPtr]

/-- One turn frees the slot of `read_ptr`. -/
theorem unmapNextTracked_spec (few : FewTbs t.trans.txq) (books : Books t) :
    Books (unmapNextTracked t) ∧ FewTbs (unmapNextTracked t).trans.txq ∧
      (unmapNextTracked t).ledger = freeMeta (iwlPcieGetCmdIndex t.trans.txq.readPtr) t.ledger ∧
      (unmapNextTracked t).trans.txq.readPtr = iwlQueueIncWrap t.trans.txq.readPtr ∧
      (unmapNextTracked t).trans.txq.writePtr = t.trans.txq.writePtr := by
  have freed := unmapTracked_books t.trans.txq.readPtr few books
  have txq := unmapNextTracked_txq t
  refine ⟨⟨freed.accounted, freed.mirrors.of_same fun slot => ?_⟩, fun i => ?_,
    unmapTracked_ledger _ few, ?_, ?_⟩
  · rw [txq]
  · rw [txq]
    exact unmapTracked_few _ few i
  · rw [txq]
  · rw [txq]
    exact tfdUnmap_writePtr _ _

theorem flight_readPtr {q : IwlTxq} (differ : q.writePtr ≠ q.readPtr) : InFlight q q.readPtr :=
  within_first q.readPtr.isLt fun same => differ (Fin.ext same.symm)

theorem not_skipped_readPtr {q : IwlTxq} (i : RingIndex) : ¬ Skipped q i q.readPtr := by
  unfold Skipped
  rw [gap_self]
  exact Nat.not_lt_zero _

/-- **Unmapping keeps the invariant.** -/
theorem Sound.unmapAll (fuel : Nat) (sound : Sound t) : Sound (unmapAllTracked fuel t) := by
  induction fuel generalizing t with
  | zero => exact sound
  | succ fuel ih =>
    unfold unmapAllTracked
    split
    · exact sound
    · next differ =>
      obtain ⟨books, few, ledger, readPtr, writePtr⟩ := unmapNextTracked_spec sound.few sound.books
      exact ih (sound.popped (flight_readPtr differ)
        (fun i skipped => absurd skipped (not_skipped_readPtr i)) books few ledger readPtr writePtr)

/-- **A stray buffer outlives the unmapping of the queue.** -/
theorem LeftBehind.unmapAll (fuel : Nat) (few : FewTbs t.trans.txq) (books : Books t) (stray : LeftBehind t) :
    LeftBehind (unmapAllTracked fuel t) := by
  induction fuel generalizing t with
  | zero => exact stray
  | succ fuel ih =>
    unfold unmapAllTracked
    split
    · exact stray
    · next differ =>
      obtain ⟨books', few', ledger, readPtr, writePtr⟩ := unmapNextTracked_spec few books
      obtain ⟨place, held, unused⟩ := stray
      refine ih few' books' ⟨place, ?_, ?_⟩
      · rw [ledger, freeMeta_holds, if_neg]
        · exact held
        · exact fun same => unused ⟨_, flight_readPtr differ, same.symm⟩
      · rintro ⟨i, flight, same⟩
        exact unused ⟨i, ((inFlight_pop (flight_readPtr differ) readPtr writePtr i).mp flight).1, same⟩

theorem LeftBehind.not_owned (few : FewTbs t.trans.txq) (books : Books t) (stray : LeftBehind t) :
    ¬ DmaOwned (applyTracked t .unmap) := by
  intro owned
  obtain ⟨place, held, _⟩ := stray.unmapAll tfdQueueSizeMax few books
  obtain ⟨id, held⟩ := Option.ne_none_iff_exists'.mp held
  have empty : (applyTracked t .unmap).trans.txq.readPtr = (applyTracked t .unmap).trans.txq.writePtr := by
    rw [applyTracked_trans]
    obtain ⟨readPtr, writePtr⟩ := txqUnmap_spec t.trans
    exact readPtr.trans writePtr.symm
  have once := owned.drained empty id (owned.accounted.lt_length held)
  rw [owned.accounted.not_released held] at once
  cases once

end Preservation

/-! ### Responses -/

section Responses

variable {t : Tracked} {pkt : RxPacket}

/-- A response to this queue unmaps one slot; the rest of it changes no array and no descriptor. -/
theorem hcmdComplete_arrays {st : IwlTrans} (own : seqToQueue pkt.sequence = st.cmdQueue.val) :
    (∀ slot, ((iwlPcieHcmdComplete st pkt).txq.entries slot).cmdMeta.dma =
        ((iwlPcieTfdUnmap st.txq (seqToIndex pkt.sequence)).entries slot).cmdMeta.dma) ∧
      (iwlPcieHcmdComplete st pkt).txq.tfds = (iwlPcieTfdUnmap st.txq (seqToIndex pkt.sequence)).tfds := by
  obtain ⟨txq, _⟩ := respond_txq st pkt
  have active (st' : IwlTrans) (slot : Slot) :
      (if (!(st'.txq.entries slot).cmdMeta.flags.async) = true then st'.setActive false
        else st').txq = st'.txq := by
    split <;> rfl
  unfold iwlPcieHcmdComplete
  rw [if_neg (not_not.mpr own)]
  unfold finishComplete
  dsimp only
  rw [active, txq]
  refine ⟨fun slot => ?_, rfl⟩
  by_cases here : slot = iwlPcieGetCmdIndex (seqToIndex pkt.sequence)
  · rw [here]
    exact congrArg (fun entry => entry.cmdMeta.dma) (setEntry_same _ _ _)
  · exact congrArg (fun entry => entry.cmdMeta.dma) (setEntry_other _ _ _ here)

/-- **A response to this queue frees the slot it names.** -/
theorem completeTracked_spec (own : seqToQueue pkt.sequence = t.trans.cmdQueue.val)
    (few : FewTbs t.trans.txq) (books : Books t) :
    Books (completeTracked t pkt) ∧ FewTbs (completeTracked t pkt).trans.txq ∧
      (completeTracked t pkt).ledger =
        freeMeta (iwlPcieGetCmdIndex (seqToIndex pkt.sequence)) t.ledger := by
  obtain ⟨arrays, tfds⟩ := hcmdComplete_arrays own
  have freed := unmapTracked_books (seqToIndex pkt.sequence) few books
  have ledger : (completeTracked t pkt).ledger = (unmapTracked t (seqToIndex pkt.sequence)).ledger :=
    if_neg (not_not.mpr own)
  refine ⟨⟨ledger ▸ freed.accounted, ledger ▸ freed.mirrors.of_same arrays⟩, fun i => ?_,
    ledger.trans (unmapTracked_ledger _ few)⟩
  show ((iwlPcieHcmdComplete t.trans pkt).txq.tfds i).numTbs ≤ 4
  rw [tfds]
  exact unmapTracked_few _ few i

/-- A response to another queue is ignored. -/
theorem completeTracked_other (other : seqToQueue pkt.sequence ≠ t.trans.cmdQueue.val) :
    completeTracked t pkt = t := by
  unfold completeTracked iwlPcieHcmdComplete
  rw [if_pos other, if_pos other]

end Responses

/-! ### Every operation -/

/-- No buffer is recorded in the array. -/
def IwlPcieTxqEntry.bare (entry : IwlPcieTxqEntry) : Bool := entry.cmdMeta.dma.all Option.isNone

/-- **The condition on an operation**: a command with mapped buffers finds the NIC awake, and a response
skips no index whose slot holds a buffer. -/
def keepsBuffers (st : IwlTrans) : QueueOp → Bool
  | .enqueue env cmd => !nicRefuses env st || (mappedParts env cmd st).all List.isEmpty
  | .response pkt => decide (seqToQueue pkt.sequence = st.cmdQueue.val →
      InFlight st.txq (seqToIndex pkt.sequence) → ∀ i, Skipped st.txq i (seqToIndex pkt.sequence) →
        (st.txq.entries (iwlPcieGetCmdIndex i)).bare = true)
  | .unmap => true

section Operations

variable {t : Tracked}

/-- An array is bare when the ledger says so. -/
theorem bare_iff (books : Books t) (slot : Slot) :
    (t.trans.txq.entries slot).bare = true ↔ ∀ k, t.ledger.holds (slot, k) = none := by
  have item (k : Fin metaDmaSize) : t.ledger.item (slot, k) = none ↔ t.ledger.holds (slot, k) = none := by
    unfold Ledger.item
    cases held : t.ledger.holds (slot, k) with
    | none => exact ⟨fun _ => rfl, fun _ => rfl⟩
    | some id =>
      rw [Option.bind_some, List.getElem?_eq_getElem (books.accounted.lt_length held)]
      exact ⟨fun none => (Option.some_ne_none _ none).elim, fun none => (Option.some_ne_none _ none).elim⟩
  have length := books.mirrors.length slot
  unfold IwlPcieTxqEntry.bare
  rw [List.all_eq_true]
  constructor
  · intro all k
    have entry := books.mirrors.entry slot k
    have none := all _ (List.mem_of_getElem? entry)
    exact (item k).mp (Option.isNone_iff_eq_none.mp none)
  · intro clear dma member
    obtain ⟨k, inside, rfl⟩ := List.mem_iff_getElem.mp member
    have entry := books.mirrors.entry slot ⟨k, length ▸ inside⟩
    rw [List.getElem?_eq_getElem inside] at entry
    rw [Option.some.inj entry, (item _).mpr (clear _)]
    rfl

/-- Touching only the slot of `write_ptr`, which ends up clear. -/
theorem Sound.touched {t' : Tracked} (sound : Sound t) (touches : Touches t t')
    (writePtr : t'.trans.txq.writePtr = t.trans.txq.writePtr) (clear : NextClear t t'.ledger) :
    Sound t' := by
  refine ⟨?_, touches.books, touches.few, fun place held => ?_⟩
  · rw [queueLength_eq, touches.readPtr, writePtr, ← queueLength_eq]
    exact sound.window
  · by_cases here : place.1 = iwlPcieGetCmdIndex t.trans.txq.writePtr
    · refine absurd ?_ held
      have none := clear place.2
      rwa [← here] at none
    · rw [touches.others place here] at held
      obtain ⟨i, flight, same⟩ := sound.inUse place held
      refine ⟨i, ?_, same⟩
      unfold InFlight
      rw [touches.readPtr, writePtr]
      exact flight

theorem Sound.nextClear (sound : Sound t) (room : 1 ≤ iwlQueueSpace t.trans.txq) :
    NextClear t t.ledger := by
  intro k
  by_contra held
  exact nextSlot_free room (sound.inUse _ held)

/-- **An operation that meets the condition keeps the invariant.** -/
theorem Sound.apply (sound : Sound t) (op : QueueOp) (keeps : keepsBuffers t.trans op = true) :
    Sound (applyTracked t op) := by
  cases op with
  | enqueue env cmd =>
    rcases enqueued_of_clear env cmd sound.books sound.few sound.nextClear with
      ⟨_, same⟩ | ⟨touches, writePtr, clear, _⟩ | ⟨touches, room, writePtr, _⟩ |
      ⟨touches, room, writePtr, asleep, parts, mapped, _, bare⟩
    · show Sound (enqueueTracked env cmd t)
      rwa [same]
    · exact sound.touched touches writePtr clear
    · have grown := inFlight_push room touches.readPtr writePtr
      refine ⟨queueLength_push room touches.readPtr writePtr, touches.books, touches.few, fun place held => ?_⟩
      · by_cases here : place.1 = iwlPcieGetCmdIndex t.trans.txq.writePtr
        · exact ⟨t.trans.txq.writePtr, (grown _).mpr (.inr rfl), here.symm⟩
        · obtain ⟨i, flight, same⟩ := sound.inUse place (touches.others place here ▸ held)
          exact ⟨i, (grown i).mpr (.inl flight), same⟩
    · dsimp only [keepsBuffers] at keeps
      rw [asleep, mapped, Bool.not_true, Bool.false_or, Option.all_some] at keeps
      exact sound.touched touches writePtr (bare (List.isEmpty_iff.mp keeps))
  | response pkt =>
    by_cases own : seqToQueue pkt.sequence = t.trans.cmdQueue.val
    · obtain ⟨books, few, ledger⟩ := completeTracked_spec own sound.few sound.books
      obtain ⟨writePtr, readPtr⟩ := hcmdComplete_ptrs t.trans pkt
      by_cases flight : InFlight t.trans.txq (seqToIndex pkt.sequence)
      · rw [if_pos ⟨own, flight⟩] at readPtr
        refine sound.popped flight (fun i skipped => ?_) books few ledger readPtr writePtr
        exact (bare_iff sound.books _).mp (of_decide_eq_true keeps own flight i skipped)
      · rw [if_neg fun both => flight both.2] at readPtr
        exact sound.freed books few ledger readPtr writePtr
    · have same : applyTracked t (.response pkt) = t := completeTracked_other own
      rwa [same]
  | unmap => exact sound.unmapAll _

/-- **An operation that does not meet it leaves a buffer behind.** -/
theorem Sound.leavesBehind (sound : Sound t) (op : QueueOp) (fails : keepsBuffers t.trans op = false) :
    LeftBehind (applyTracked t op) ∧ FewTbs (applyTracked t op).trans.txq ∧ Books (applyTracked t op) := by
  cases op with
  | enqueue env cmd =>
    dsimp only [keepsBuffers] at fails
    rw [Bool.or_eq_false_iff, Bool.not_eq_false'] at fails
    obtain ⟨refuses, some⟩ := fails
    rcases enqueued_of_clear env cmd sound.books sound.few sound.nextClear with
      ⟨refused, _⟩ | ⟨_, _, _, none⟩ | ⟨_, _, _, awake⟩ |
      ⟨touches, room, writePtr, _, parts, mapped, held, _⟩
    · have none : mappedParts env cmd t.trans = none := by
        unfold mappedParts
        rw [refused]
      rw [none] at some
      cases some
    · rw [none] at some
      cases some
    · rw [awake] at refuses
      cases refuses
    · rw [mapped, Option.all_some] at some
      obtain ⟨k, held⟩ := held fun none => by
        rw [none] at some
        cases some
      refine ⟨⟨_, held, fun inUse => nextSlot_free room ?_⟩, touches.few, touches.books⟩
      obtain ⟨i, flight, same⟩ := inUse
      refine ⟨i, ?_, same⟩
      unfold InFlight at *
      rw [← touches.readPtr, ← writePtr]
      exact flight
  | response pkt =>
    have skips := of_decide_eq_false fails
    simp only [Classical.not_imp, not_forall] at skips
    obtain ⟨own, flight, i, skipped, holds⟩ := skips
    obtain ⟨books, few, ledger⟩ := completeTracked_spec own sound.few sound.books
    obtain ⟨writePtr, readPtr⟩ := hcmdComplete_ptrs t.trans pkt
    rw [if_pos ⟨own, flight⟩] at readPtr
    rw [bare_iff sound.books, not_forall] at holds
    obtain ⟨k, held⟩ := holds
    exact ⟨leftBehind_of_skipped sound flight skipped held ledger readPtr writePtr, few, books⟩
  | unmap => cases fails

end Operations

theorem sound_init (cmdQueue : Fin 32) (wideCmdHeader apmgWakeUpWa : Bool) (firstTbDma : Nat) :
    Sound (.init cmdQueue wideCmdHeader apmgWakeUpWa firstTbDma) where
  window := Nat.zero_le _
  books := by
    refine ⟨.empty, fun _ => rfl, fun slot k => ?_⟩
    have zero : ∀ k : Fin metaDmaSize, IwlCmdMeta.zero.dma[k.val]? = some none := by decide
    exact zero k
  few := fun _ => Nat.zero_le _
  inUse := fun _ held => absurd rfl held

/-- **When every buffer is owned**: all along a run, also if the queue is unmapped next, exactly when no
command with mapped buffers finds the NIC asleep and no response skips a slot with buffers. -/
theorem dmaOwned_iff (cmdQueue : Fin 32) (wideCmdHeader apmgWakeUpWa : Bool) (firstTbDma : Nat)
    (ops : List QueueOp) :
    Always trackedStep (fun t => DmaOwned t ∧ DmaOwned (applyTracked t .unmap))
        (.init cmdQueue wideCmdHeader apmgWakeUpWa firstTbDma) ops ↔
      allowed trackedStep (fun t op => keepsBuffers t.trans op)
        (.init cmdQueue wideCmdHeader apmgWakeUpWa firstTbDma) ops = true := by
  refine always_iff_allowed Sound (fun t op t' sound keeps stepped => ?_)
    (fun t sound => ⟨sound.owned, (sound.apply .unmap rfl).owned⟩)
    (fun t op t' sound fails stepped owned => ?_) (fun t op => ⟨_, rfl⟩)
    (sound_init cmdQueue wideCmdHeader apmgWakeUpWa firstTbDma)
  · exact Option.some.inj stepped ▸ sound.apply op keeps
  · obtain ⟨stray, few, books⟩ := sound.leavesBehind op fails
    rw [Option.some.inj stepped] at stray few books
    exact stray.not_owned few books owned.2

/-- A command with 30 bytes of data. -/
def thirtyBytes : IwlHostCmd where
  ptr := 0x9000
  id := 0x01a5
  flags := .none
  first := ⟨List.replicate 30 0x11, by decide, false, false⟩
  second := ⟨[], nil_short, false, false⟩

/-- The NIC does not wake up for a command, and the next one clears its slot. -/
def asleepRun : List QueueOp :=
  [.enqueue { fixedBuffers with nicWakes := false } thirtyBytes, .enqueue fixedBuffers thirtyBytes]

/-- Two commands are answered by a response to the second. -/
def skippingRun : List QueueOp :=
  [.enqueue fixedBuffers thirtyBytes, .enqueue fixedBuffers thirtyBytes, .response ⟨0, 0, 0, 0, 0x0901⟩]

/-- **Two runs that lose a buffer**: in the first it is recorded nowhere and not freed, in the second the
queue is empty and it is not freed. -/
theorem buffers_lost :
    ¬ DmaOwned (asleepRun.foldl applyTracked (.init 9 true true 0x10000)) ∧
      ¬ DmaOwned (skippingRun.foldl applyTracked (.init 9 true true 0x10000)) := by
  constructor
  · intro owned
    have lost : ∀ place,
        (asleepRun.foldl applyTracked (.init 9 true true 0x10000)).ledger.holds place ≠ some 0 := by
      decide +kernel
    have once := owned.accounted.known 0 (by decide +kernel)
    have never : (asleepRun.foldl applyTracked (.init 9 true true 0x10000)).ledger.released 0 = 0 := by
      decide +kernel
    rw [tally_eq_zero lost, never] at once
    cases once
  · intro owned
    have once := owned.drained (by decide +kernel) 0 (by decide +kernel)
    have never : (skippingRun.foldl applyTracked (.init 9 true true 0x10000)).ledger.released 0 = 0 := by
      decide +kernel
    rw [never] at once
    cases once

end IntelWifi.Pcie
