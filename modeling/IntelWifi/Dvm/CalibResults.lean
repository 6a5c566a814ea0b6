/-
**The list of calibration results.**

`calib_results` is a tail queue of allocated results. `iwl_calib_set` puts a result where the one with its
`op_code` was, which it removes and releases, or at the tail. Blocks are numbered in the order of their
allocation, so that a list has no more elements than there were allocations.

* `iwlCalibSet_ok`, `iwlSendCalibResults_ok`, `freeLoop_ok`: what each function does to a list.
* `calibResults`: the list after any calls holds the last result of each `op_code`, in the order in which
  these came first; it is sent in that order, and released.
-/

import IntelWifi.Lib.TailQueue
import IntelWifi.Dvm.RxHandlers
import IntelWifi.Pcie.Types
import Mathlib.Data.List.Induction
import Mathlib.Data.List.Perm.Subperm
import Mathlib.Data.Nat.Find

namespace IntelWifi.Dvm.CalibList

open Bytes Heap TailQueue

/-- `struct iwl_calib_result`: `hdr` and what follows it. -/
structure CalibResult where
  cmdLen : Nat
  hdr : List UInt8
  deriving DecidableEq, Repr

/-- `hdr.op_code`. -/
def CalibResult.opCode (res : CalibResult) : Nat := byteAt res.hdr 0

/-- `sizeof(struct iwl_calib_result)`. -/
def resultSize : Nat := 24

/-- Where `hdr` is in it. -/
def hdrOffset : Nat := 16

/-- `sizeof(struct iwl_calib_hdr)`. -/
def calibHdrSize : Nat := 4

/-- `alloc_size` of `iwl_calib_set`. -/
def allocSize (len : Nat) : Nat := resultSize + len - calibHdrSize

/-- The part of `struct iwl_priv` that the list is in, and the memory. -/
structure CalibPriv where
  heap : Blocks Nat
  made : Nat
  block : Nat → CalibResult
  calibResults : Queue Nat

/-- `STAILQ_INIT`, with nothing allocated yet. -/
def CalibPriv.init : CalibPriv := ⟨fun _ => .fresh, 0, fun _ => ⟨0, []⟩, TailQueue.init fun _ => none⟩

/-- More turns than a list can take. -/
def CalibPriv.turns (priv : CalibPriv) : Nat := priv.made + 1

/-- `-ENOMEM`. -/
def enomem : Int := -12

/-- A block for the result, with the result in it. -/
def CalibPriv.allocate (priv : CalibPriv) (cmd : List UInt8) : CalibPriv where
  heap := Heap.allocate priv.heap priv.made
  made := priv.made + 1
  block := Function.update priv.block priv.made ⟨cmd.length, cmd⟩
  calibResults := priv.calibResults

/-- The `STAILQ_FOREACH` of `iwl_calib_set`. -/
def sameOpCode (priv : CalibPriv) (res : Nat) (tmp : Nat) (_ : Unit) : Unit ⊕ Nat :=
  if (priv.block tmp).opCode = (priv.block res).opCode then .inr tmp else .inl ()

/-- What is done with a result that has the same `op_code`. -/
def replaceResult (priv : CalibPriv) (tmp res : Nat) : Except Stop CalibPriv := do
  let queue ← insertAfter priv.heap priv.calibResults tmp res
  let queue ← remove priv.heap priv.turns queue tmp
  let heap ← (release priv.heap (some tmp)).mapError .memory
  .ok { priv with heap := heap, calibResults := queue }

/-- What is done where there is none. -/
def appendResult (priv : CalibPriv) (res : Nat) : Except Stop CalibPriv := do
  let queue ← insertTail priv.heap priv.calibResults res
  .ok { priv with calibResults := queue }

/-- `iwl_calib_set` when there is memory. -/
def setResult (priv : CalibPriv) (res : Nat) : Except Stop CalibPriv := do
  match ← walk priv.heap priv.calibResults (sameOpCode priv res) priv.turns priv.calibResults.first () with
  | .inr tmp => replaceResult priv tmp res
  | .inl () => appendResult priv res

/-- `iwl_calib_set`. `alloc` says whether there is memory. -/
def iwlCalibSet (priv : CalibPriv) (cmd : List UInt8) (alloc : Bool) : Except Stop (Int × CalibPriv) :=
  if alloc = false then .ok (enomem, priv)
  else (setResult (priv.allocate cmd) priv.made).map fun priv => (0, priv)

/-- `REPLY_PHY_CALIBRATION_CMD`. -/
def replyPhyCalibrationCmd : BitVec 32 := 0xb0#32

/-- The fragment of the command for a result. Its length is a `u16`. -/
def CalibResult.fragment (res : CalibResult) : Pcie.IwlFragment where
  data := res.hdr.take (res.cmdLen % 2 ^ 16)
  len_lt := Nat.lt_of_le_of_lt (List.length_take_le _ _) (Nat.mod_lt _ (by decide))
  nocopy := true
  dup := false

/-- The body of `iwl_send_calib_results`, where the state is what was sent so far. -/
def sendResult (priv : CalibPriv) (answer : Nat → Int) (res : Nat) (sent : List Pcie.IwlFragment) :
    List Pcie.IwlFragment ⊕ Int × List Pcie.IwlFragment :=
  let ret := answer sent.length
  let sent := sent ++ [(priv.block res).fragment]
  if ret ≠ 0 then .inr (ret, sent) else .inl sent

/-- `iwl_send_calib_results`, with the fragments of its commands. `answer` is what `iwl_dvm_send_cmd` returns for
each command of this call. -/
def iwlSendCalibResults (priv : CalibPriv) (answer : Nat → Int) : Except Stop (Int × List Pcie.IwlFragment) := do
  match ← walk priv.heap priv.calibResults (sendResult priv answer) priv.turns priv.calibResults.first [] with
  | .inr failed => .ok failed
  | .inl sent => .ok (0, sent)

/-- `STAILQ_FOREACH_SAFE` of `iwl_calib_free_results`: the next result is read before this one is released. -/
def freeLoop : Nat → Pointer Nat → CalibPriv → Except Stop CalibPriv
  | 0, _, _ => .error .endless
  | _ + 1, none, priv => .ok priv
  | turns + 1, some res, priv => do
    let res ← follow priv.heap (some res)
    let tmp := priv.calibResults.next res
    let queue ← remove priv.heap priv.turns priv.calibResults res
    let heap ← (release priv.heap (some res)).mapError .memory
    freeLoop turns tmp { priv with heap := heap, calibResults := queue }

/-- `iwl_calib_free_results`. -/
def iwlCalibFreeResults (priv : CalibPriv) : Except Stop CalibPriv :=
  freeLoop priv.turns priv.calibResults.first priv

/-- Calls of `iwl_calib_set`, each with its result and whether there is memory for it. -/
def setAll : List (List UInt8 × Bool) → CalibPriv → Except Stop CalibPriv
  | [], priv => .ok priv
  | (cmd, alloc) :: later, priv => do
    let (_, priv) ← iwlCalibSet priv cmd alloc
    setAll later priv

/-- The elements of the list. -/
def readNames (priv : CalibPriv) : Except Stop (List Nat) := do
  match ← walk priv.heap priv.calibResults (fun res names => (.inl (names ++ [res]) : List Nat ⊕ Empty)) priv.turns
    priv.calibResults.first [] with
  | .inl names => .ok names

/-- What the list holds. -/
def readResults (priv : CalibPriv) : Except Stop (List CalibResult) :=
  (readNames priv).map fun names => names.map priv.block

/-! ### What is on the list -/

variable {priv priv' : CalibPriv} {names : List Nat} {cmd : List UInt8}

/-- The list is some blocks, which are all that is allocated, each with a result of the length it says. -/
structure Lists (priv : CalibPriv) (names : List Nat) : Prop where
  holds : Holds priv.heap priv.calibResults names
  owned : ∀ name, priv.heap name = .live → name ∈ names
  fresh : ∀ name, priv.made ≤ name → priv.heap name = .fresh
  whole : ∀ name ∈ names, (priv.block name).cmdLen = (priv.block name).hdr.length

/-- The results on the list. -/
def contents (priv : CalibPriv) (names : List Nat) : List (List UInt8) := names.map fun name => (priv.block name).hdr

theorem init_lists : Lists .init [] where
  holds := init_holds _
  owned := fun _ live => (nomatch live)
  fresh := fun _ _ => rfl
  whole := fun _ member => (nomatch member)

theorem Lists.lt_made (lists : Lists priv names) {name : Nat} (member : name ∈ names) : name < priv.made := by
  by_contra new
  have fresh := lists.fresh name (Nat.le_of_not_lt new)
  rw [lists.holds.live name member] at fresh
  cases fresh

/-- The bound on the turns is enough. -/
theorem Lists.length_le (lists : Lists priv names) : names.length ≤ priv.made := by
  have inside : names ⊆ List.range priv.made := fun name member => List.mem_range.mpr (lists.lt_made member)
  simpa using (lists.holds.distinct.subperm inside).length_le

theorem Lists.length_lt (lists : Lists priv names) : names.length < priv.turns :=
  Nat.lt_succ_of_le lists.length_le

/-- Where the list is read. -/
theorem Lists.walk {State Result : Type} (lists : Lists priv names) (visit : Nat → State → State ⊕ Result)
    (state : State) : TailQueue.walk priv.heap priv.calibResults visit priv.turns priv.calibResults.first state =
      .ok (visitAll visit names state) :=
  walk_ok visit lists.holds.chain lists.holds.live lists.length_lt state

/-- The new block is not on the list. -/
theorem Lists.new (lists : Lists priv names) : priv.made ∉ names := fun member =>
  Nat.lt_irrefl _ (lists.lt_made member)

theorem allocate_old (cmd : List UInt8) {name : Nat} (old : name ≠ priv.made) :
    (priv.allocate cmd).heap name = priv.heap name ∧ (priv.allocate cmd).block name = priv.block name :=
  ⟨Function.update_of_ne old _ _, Function.update_of_ne old _ _⟩

theorem allocate_new (priv : CalibPriv) (cmd : List UInt8) :
    (priv.allocate cmd).heap priv.made = .live ∧ (priv.allocate cmd).block priv.made = ⟨cmd.length, cmd⟩ :=
  ⟨Function.update_self _ _ _, Function.update_self _ _ _⟩

/-- A walk that looks for a result. -/
theorem visitAll_sameOpCode (res : Nat) : visitAll (sameOpCode priv res) names () =
    match names.find? fun tmp => (priv.block tmp).opCode = (priv.block res).opCode with
    | some tmp => .inr tmp
    | none => .inl () := by
  induction names with
  | nil => rfl
  | cons tmp later ih =>
    rw [visitAll, sameOpCode]
    by_cases same : (priv.block tmp).opCode = (priv.block res).opCode
    · simp [same]
    · simp [same, ih]

/-! ### What the calls do to the list -/

theorem putCalib_append {res : List UInt8} {before : List (List UInt8)}
    (others : ∀ old ∈ before, byteAt old 0 ≠ byteAt res 0) (after : List (List UInt8)) :
    putCalib res (before ++ after) = before ++ putCalib res after := by
  induction before with
  | nil => rfl
  | cons old later ih =>
    rw [List.cons_append, putCalib, if_neg (others old List.mem_cons_self),
      ih fun other member => others other (List.mem_cons_of_mem _ member), List.cons_append]

/-- What is on the list besides the new block is as it was. -/
theorem contents_allocate (lists : Lists priv names) (cmd : List UInt8) {kept : List Nat} (among : kept ⊆ names) :
    contents (priv.allocate cmd) kept = contents priv kept := by
  refine List.map_congr_left fun name member => ?_
  rw [(allocate_old cmd (Nat.ne_of_lt (lists.lt_made (among member)))).2]

theorem contents_new (priv : CalibPriv) (cmd : List UInt8) : contents (priv.allocate cmd) [priv.made] = [cmd] := by
  rw [contents, List.map_singleton, (allocate_new priv cmd).2]

theorem contents_append (before after : List Nat) :
    contents priv (before ++ after) = contents priv before ++ contents priv after := List.map_append

/-- The list as the walk of `iwl_calib_set` finds it. -/
theorem Lists.allocate (lists : Lists priv names) (cmd : List UInt8) :
    Holds (priv.allocate cmd).heap (priv.allocate cmd).calibResults names :=
  lists.holds.frame fun _ member => (allocate_old cmd (Nat.ne_of_lt (lists.lt_made member))).1

/-- The new block is a whole one too. -/
theorem Lists.wholeAllocate (lists : Lists priv names) (cmd : List UInt8) {name : Nat}
    (known : name = priv.made ∨ name ∈ names) :
    ((priv.allocate cmd).block name).cmdLen = ((priv.allocate cmd).block name).hdr.length := by
  by_cases made : name = priv.made
  · rw [made, (allocate_new priv cmd).2]
  · rw [(allocate_old cmd made).2]
    exact lists.whole name (known.resolve_left made)

theorem Lists.freshAllocate (lists : Lists priv names) (cmd : List UInt8) {name : Nat} (new : priv.made < name) :
    (priv.allocate cmd).heap name = .fresh := by
  rw [(allocate_old cmd (by omega)).1]
  exact lists.fresh name (by omega)

/-- Blocks are as they were before the call, except the new one and one that was released. -/
theorem Lists.replaced (lists : Lists priv names) {queue : Queue Nat} {before after : List Nat} {tmp : Nat}
    (list : names = before ++ tmp :: after)
    (holds : Holds (priv.allocate cmd).heap queue (before ++ priv.made :: after)) :
    Lists { priv.allocate cmd with
      heap := Function.update (priv.allocate cmd).heap tmp .freed, calibResults := queue }
      (before ++ priv.made :: after) := by
  have old : tmp < priv.made := lists.lt_made (list ▸ List.mem_append_right _ List.mem_cons_self)
  have gone : tmp ∉ before ++ priv.made :: after := by
    have apart := List.nodup_append.mp (list ▸ lists.holds.distinct)
    have later := (List.nodup_cons.mp apart.2.1).1
    have first : tmp ∉ before := fun member => apart.2.2 tmp member tmp List.mem_cons_self rfl
    simp [first, later, Nat.ne_of_lt old]
  refine ⟨holds.frame fun name member => Function.update_of_ne (ne_of_mem_of_not_mem member gone) _ _,
    fun name live => ?_, fun name new => ?_, fun name member => ?_⟩
  · change Function.update (priv.allocate cmd).heap tmp .freed name = .live at live
    by_cases same : name = tmp
    · subst same
      rw [Function.update_self] at live
      cases live
    · rw [Function.update_of_ne same] at live
      by_cases made : name = priv.made
      · simp [made]
      · rw [(allocate_old cmd made).1] at live
        have member := lists.owned name live
        rw [list] at member
        simpa [same, made] using member
  · have later : priv.made < name := new
    show Function.update (priv.allocate cmd).heap tmp .freed name = .fresh
    rw [Function.update_of_ne (by omega), lists.freshAllocate cmd later]
  · refine lists.wholeAllocate cmd ?_
    simp only [list, List.mem_append, List.mem_cons] at member ⊢
    tauto

theorem Lists.appended (lists : Lists priv names) {queue : Queue Nat}
    (holds : Holds (priv.allocate cmd).heap queue (names ++ [priv.made])) :
    Lists { priv.allocate cmd with calibResults := queue } (names ++ [priv.made]) := by
  refine ⟨holds, fun name live => ?_, fun name new => ?_, fun name member => ?_⟩
  · change (priv.allocate cmd).heap name = .live at live
    by_cases made : name = priv.made
    · simp [made]
    · rw [(allocate_old cmd made).1] at live
      exact List.mem_append_left _ (lists.owned name live)
  · exact lists.freshAllocate cmd new
  · refine lists.wholeAllocate cmd ?_
    rw [List.mem_append, List.mem_singleton] at member
    exact member.symm

/-- The results after a replacement. -/
theorem contents_replaced (lists : Lists priv names) {before after : List Nat} {tmp : Nat}
    (list : names = before ++ tmp :: after) : contents (priv.allocate cmd) (before ++ priv.made :: after) =
      contents priv before ++ cmd :: contents priv after := by
  have inside : before ⊆ names ∧ after ⊆ names := by
    constructor <;> intro name member <;> simp [list, member]
  rw [← List.singleton_append, contents_append, contents_append, contents_new,
    contents_allocate lists cmd inside.1, contents_allocate lists cmd inside.2, List.singleton_append]

/-- The same `op_code` before the allocation. -/
theorem sameOpCode_iff (lists : Lists priv names) {tmp : Nat} (member : tmp ∈ names) :
    ((priv.allocate cmd).block tmp).opCode = ((priv.allocate cmd).block priv.made).opCode ↔
      byteAt (priv.block tmp).hdr 0 = byteAt cmd 0 := by
  rw [(allocate_old cmd (Nat.ne_of_lt (lists.lt_made member))).2, (allocate_new priv cmd).2]
  rfl

/-- **At the tail.** -/
theorem appendResult_ok (lists : Lists priv names) (cmd : List UInt8) :
    ∃ priv', appendResult (priv.allocate cmd) priv.made = .ok priv' ∧ Lists priv' (names ++ [priv.made]) ∧
      priv'.block = (priv.allocate cmd).block := by
  obtain ⟨queue, inserted, holds⟩ := insertTail_ok (lists.allocate cmd) (allocate_new priv cmd).1 lists.new
  refine ⟨{ priv.allocate cmd with calibResults := queue }, ?_, lists.appended holds, rfl⟩
  rw [appendResult, inserted]
  rfl

/-- **In the place of another one**, which is released. -/
theorem replaceResult_ok (lists : Lists priv names) (cmd : List UInt8) {before after : List Nat} {tmp : Nat}
    (list : names = before ++ tmp :: after) :
    ∃ priv', replaceResult (priv.allocate cmd) tmp priv.made = .ok priv' ∧
      Lists priv' (before ++ priv.made :: after) ∧ priv'.block = (priv.allocate cmd).block := by
  have started := lists.allocate cmd
  have new := lists.new
  have enough : names.length < (priv.allocate cmd).turns := Nat.lt_succ_of_lt lists.length_lt
  rw [list, List.length_append] at enough
  rw [list] at started new
  obtain ⟨queue, inserted, between⟩ := insertAfter_ok started (allocate_new priv cmd).1 new
  obtain ⟨queue', removed, holds⟩ := remove_ok between (show before.length ≤ (priv.allocate cmd).turns by omega)
  have tmpLive := started.live tmp (List.mem_append_right _ List.mem_cons_self)
  refine ⟨_, ?_, lists.replaced list holds, rfl⟩
  rw [replaceResult, inserted]
  show Except.bind (remove _ _ queue tmp) _ = _
  rw [removed]
  show Except.bind ((release _ (some tmp)).mapError _) _ = _
  rw [release_ok tmpLive]
  rfl

/-- The results depend on the blocks alone. -/
theorem contents_congr {priv' : CalibPriv} (same : priv'.block = priv.block) (names : List Nat) :
    contents priv' names = contents priv names := by
  rw [contents, contents, same]

/-- **`iwl_calib_set` puts the result in the place of the one with its `op_code`**, which it releases, or at the
tail. -/
theorem iwlCalibSet_ok (lists : Lists priv names) (cmd : List UInt8) :
    ∃ priv' names', iwlCalibSet priv cmd true = .ok (0, priv') ∧ Lists priv' names' ∧
      contents priv' names' = putCalib cmd (contents priv names) := by
  have started := lists.allocate cmd
  have enough : names.length < (priv.allocate cmd).turns := Nat.lt_succ_of_lt lists.length_lt
  have walked := walk_ok (sameOpCode (priv.allocate cmd) priv.made) started.chain started.live enough ()
  rw [visitAll_sameOpCode] at walked
  have unfolded : iwlCalibSet priv cmd true =
      (setResult (priv.allocate cmd) priv.made).map fun priv => (0, priv) := if_neg (by decide)
  rw [unfolded, setResult, walked]
  cases found : names.find? fun tmp => ((priv.allocate cmd).block tmp).opCode =
      ((priv.allocate cmd).block priv.made).opCode with
  | none =>
    obtain ⟨priv', appended, lists', same⟩ := appendResult_ok lists cmd
    refine ⟨priv', _, congrArg (Except.map _) appended, lists', ?_⟩
    have others : ∀ old ∈ contents priv names, byteAt old 0 ≠ byteAt cmd 0 := by
      intro old member
      obtain ⟨tmp, listed, rfl⟩ := List.mem_map.mp member
      have differs := List.find?_eq_none.mp found tmp listed
      rw [decide_eq_true_iff, sameOpCode_iff lists listed] at differs
      exact differs
    rw [contents_congr same, contents_append, contents_new, contents_allocate lists cmd (List.Subset.refl _)]
    simpa [putCalib] using (putCalib_append others []).symm
  | some tmp =>
    obtain ⟨same, before, after, list, others⟩ := List.find?_eq_some_iff_append.mp found
    rw [decide_eq_true_iff] at same
    have listed : tmp ∈ names := list ▸ List.mem_append_right _ List.mem_cons_self
    obtain ⟨priv', replaced, lists', blocks⟩ := replaceResult_ok lists cmd list
    refine ⟨priv', _, congrArg (Except.map _) replaced, lists', ?_⟩
    rw [contents_congr blocks, contents_replaced lists list, list, contents_append, putCalib_append]
    · show _ = contents priv before ++ putCalib cmd ((priv.block tmp).hdr :: contents priv after)
      rw [putCalib, if_pos ((sameOpCode_iff lists listed).mp same)]
    · intro old member
      obtain ⟨other, among, rfl⟩ := List.mem_map.mp member
      have differs := others other among
      rw [Bool.not_eq_true', decide_eq_false_iff_not,
        sameOpCode_iff lists (list ▸ List.mem_append_left _ among)] at differs
      exact differs

theorem iwlCalibSet_enomem (priv : CalibPriv) (cmd : List UInt8) :
    iwlCalibSet priv cmd false = .ok (enomem, priv) := if_pos rfl

/-! ### Reading, sending and releasing the list -/

theorem Lists.readNames (lists : Lists priv names) : readNames priv = .ok names := by
  have visits : ∀ later before : List Nat,
      visitAll (fun res names => (.inl (names ++ [res]) : List Nat ⊕ Empty)) later before = .inl (before ++ later) := by
    intro later
    induction later with
    | nil => simp [visitAll]
    | cons res later ih => simp [visitAll, ih]
  rw [CalibList.readNames, lists.walk, visits]
  rfl

theorem Lists.readResults (lists : Lists priv names) :
    readResults priv = .ok ((contents priv names).map fun res => ⟨res.length, res⟩) := by
  rw [CalibList.readResults, lists.readNames, contents, List.map_map]
  refine congrArg Except.ok (List.map_congr_left fun name member => ?_)
  show priv.block name = ⟨(priv.block name).hdr.length, (priv.block name).hdr⟩
  rw [← lists.whole name member]

/-- The fragments of the commands for some results. -/
def fragments (priv : CalibPriv) (names : List Nat) : List Pcie.IwlFragment :=
  names.map fun name => (priv.block name).fragment

variable {answer : Nat → Int} {sent : List Pcie.IwlFragment}

theorem sendAll_ok (accepted : ∀ k < names.length, answer (sent.length + k) = 0) :
    visitAll (sendResult priv answer) names sent = .inl (sent ++ fragments priv names) := by
  induction names generalizing sent with
  | nil => simp [visitAll, fragments]
  | cons res later ih =>
    rw [visitAll, sendResult, show answer sent.length = 0 from accepted 0 (Nat.zero_lt_succ _), if_neg (by decide)]
    have rest := @ih (sent ++ [(priv.block res).fragment]) fun k small => by
      rw [List.length_append, List.length_singleton, Nat.add_assoc, Nat.add_comm 1]
      exact accepted (k + 1) (Nat.succ_lt_succ small)
    simpa [fragments] using rest

/-- Nothing is sent after a command that fails. -/
theorem sendAll_failed {k : Nat} (small : k < names.length) (accepted : ∀ j < k, answer (sent.length + j) = 0)
    (failed : answer (sent.length + k) ≠ 0) : visitAll (sendResult priv answer) names sent =
      .inr (answer (sent.length + k), sent ++ (fragments priv names).take (k + 1)) := by
  induction names generalizing sent k with
  | nil => cases small
  | cons res later ih =>
    rw [visitAll, sendResult]
    cases k with
    | zero =>
      rw [Nat.add_zero] at failed ⊢
      simp [failed, fragments]
    | succ k =>
      rw [show answer sent.length = 0 from accepted 0 (Nat.zero_lt_succ k), if_neg (by decide)]
      have length : ∀ j, (sent ++ [(priv.block res).fragment]).length + j = sent.length + (j + 1) := by
        intro j
        rw [List.length_append, List.length_singleton]
        omega
      have rest := @ih (sent ++ [(priv.block res).fragment]) k (Nat.lt_of_succ_lt_succ small)
        (fun j before => by rw [length]; exact accepted (j + 1) (Nat.succ_lt_succ before)) (by rwa [length])
      rw [length] at rest
      simpa [fragments] using rest

/-- The lengths of the results are those of their commands. -/
theorem fragments_data (lists : Lists priv names) (short : ∀ res ∈ contents priv names, res.length < 2 ^ 16) :
    (fragments priv names).map (·.data) = contents priv names := by
  rw [fragments, contents, List.map_map]
  refine List.map_congr_left fun name member => ?_
  have fits := short _ (List.mem_map_of_mem member)
  show (priv.block name).hdr.take ((priv.block name).cmdLen % 2 ^ 16) = _
  rw [lists.whole name member, Nat.mod_eq_of_lt fits, List.take_length]

/-- **`iwl_send_calib_results` sends the list in its order**, up to the first command that fails. -/
theorem iwlSendCalibResults_ok (lists : Lists priv names) (answer : Nat → Int) :
    (∀ k < names.length, answer k = 0) ∧ iwlSendCalibResults priv answer = .ok (0, fragments priv names) ∨
    ∃ k < names.length, (∀ j < k, answer j = 0) ∧ answer k ≠ 0 ∧
      iwlSendCalibResults priv answer = .ok (answer k, (fragments priv names).take (k + 1)) := by
  have ran : iwlSendCalibResults priv answer = match visitAll (sendResult priv answer) names [] with
      | .inr failed => .ok failed
      | .inl sent => .ok (0, sent) := by
    rw [iwlSendCalibResults, lists.walk]
    rfl
  rw [ran]
  by_cases all : ∀ k < names.length, answer k = 0
  · refine .inl ⟨all, ?_⟩
    rw [sendAll_ok fun k small => by simpa using all k small]
    rfl
  · push Not at all
    obtain ⟨small, failed⟩ := Nat.find_spec all
    have accepted : ∀ j < Nat.find all, answer j = 0 := fun j before => by
      by_contra other
      exact Nat.find_min all before ⟨Nat.lt_trans before small, other⟩
    refine .inr ⟨Nat.find all, small, accepted, failed, ?_⟩
    rw [sendAll_failed small (fun j before => by simpa using accepted j before) (by simpa using failed)]
    simp

/-- **`iwl_calib_free_results` releases the list** and leaves it empty. -/
theorem freeLoop_ok {turns : Nat} (lists : Lists priv names) (enough : names.length < turns) :
    ∃ last, freeLoop turns priv.calibResults.first priv = .ok last ∧ Lists last [] ∧
      last.heap = freeAll names priv.heap := by
  induction names generalizing priv turns with
  | nil =>
    obtain ⟨turns, rfl⟩ := Nat.exists_eq_succ_of_ne_zero (Nat.ne_of_gt enough)
    rw [lists.holds.chain.start_eq]
    exact ⟨priv, rfl, lists, funext fun name => (if_neg List.not_mem_nil).symm⟩
  | cons res later ih =>
    obtain ⟨turns, rfl⟩ := Nat.exists_eq_succ_of_ne_zero (Nat.ne_of_gt (Nat.zero_lt_of_lt enough))
    obtain ⟨queue, removed, rest⟩ := @remove_ok _ _ [] later _ _ _ priv.turns lists.holds (Nat.zero_le _)
    have live := lists.holds.live res List.mem_cons_self
    have new : res ∉ later := (List.nodup_cons.mp lists.holds.distinct).1
    have next : Lists { priv with heap := Function.update priv.heap res .freed, calibResults := queue } later := by
      refine ⟨rest.frame fun name member => Function.update_of_ne (ne_of_mem_of_not_mem member new) _ _,
        fun name stays => ?_, fun name made => ?_, fun name member => lists.whole name (List.mem_cons_of_mem _ member)⟩
      · change Function.update priv.heap res .freed name = .live at stays
        have other : name ≠ res := by
          rintro rfl
          rw [Function.update_self] at stays
          cases stays
        rw [Function.update_of_ne other] at stays
        exact (List.mem_cons.mp (lists.owned name stays)).resolve_left other
      · have other : name ≠ res := Nat.ne_of_gt (Nat.lt_of_lt_of_le (lists.lt_made List.mem_cons_self) made)
        exact (Function.update_of_ne other _ _).trans (lists.fresh name made)
    obtain ⟨last, ran, empty, released⟩ := ih next (Nat.lt_of_succ_lt_succ enough)
    refine ⟨last, ?_, empty, ?_⟩
    · rw [lists.holds.chain.1, ← ran]
      show (follow _ _).bind _ = _
      rw [follow_ok live]
      show Except.bind (remove _ _ _ res) _ = _
      rw [removed]
      show Except.bind ((release _ (some res)).mapError _) _ = _
      rw [release_ok live]
      show freeLoop turns (priv.calibResults.next res) _ = freeLoop turns queue.first _
      rw [rest.chain.start_eq, lists.holds.chain.2.start_eq]
      rfl
    · rw [released]
      funext name
      by_cases here : name = res
      · subst here
        simp [freeAll, new]
      · simp [freeAll, here]

/-! ### The list after any calls -/

/-- A payload has a header. It is that of a packet, or one of the driver's own commands, which are shorter. -/
def WellFormed (cmd : List UInt8) : Prop := calibHdrSize ≤ cmd.length ∧ cmd.length < 2 ^ 14

instance (cmd : List UInt8) : Decidable (WellFormed cmd) := inferInstanceAs (Decidable (_ ∧ _))

/-- What `iwlagn_wait_calib` takes from a packet whose payload has a header. -/
theorem payload_wellFormed {pkt : RxMemory} (header : 8 ≤ rxPacketLen pkt) (inside : packetEnd pkt ≤ pkt.length) :
    WellFormed (slice pkt 8 (rxPacketPayloadLen pkt).toNat) := by
  have small : rxPacketLen pkt < 2 ^ 14 := Nat.mod_lt _ (by decide)
  have len : (rxPacketPayloadLen pkt).toNat = rxPacketLen pkt - 4 := by
    rw [rxPacketPayloadLen, BitVec.toNat_sub, BitVec.toNat_ofNat, BitVec.toNat_ofNat]
    omega
  unfold packetEnd at inside
  have length : (slice pkt 8 (rxPacketPayloadLen pkt).toNat).length = rxPacketLen pkt - 4 := by
    rw [len, slice, List.length_take, List.length_drop]
    omega
  unfold WellFormed calibHdrSize
  omega

/-- The copy of a payload is inside the new block. -/
theorem payload_fits {cmd : List UInt8} (wellFormed : WellFormed cmd) :
    hdrOffset + cmd.length ≤ allocSize cmd.length := by
  have header := wellFormed.1
  unfold hdrOffset allocSize resultSize calibHdrSize at *
  omega

/-- The results that were stored. -/
def stored (calls : List (List UInt8 × Bool)) : List (List UInt8) := (calls.filter (·.2)).map (·.1)

/-- The last result with an `op_code`. -/
def lastStored (results : List (List UInt8)) (op : Nat) : List UInt8 :=
  (results.reverse.find? fun res => byteAt res 0 = op).getD []

/-- **The last result of each `op_code`**, in the order in which these first came. -/
def latest (results : List (List UInt8)) : List (List UInt8) :=
  (results.map (byteAt · 0)).eraseDups.map (lastStored results)

section Latest

variable {results : List (List UInt8)} {res : List UInt8} {op : Nat} {ops : List Nat}

theorem lastStored_concat : lastStored (results ++ [res]) op =
    if byteAt res 0 = op then res else lastStored results op := by
  unfold lastStored
  by_cases same : byteAt res 0 = op <;> simp [same]

theorem lastStored_opCode (member : op ∈ results.map (byteAt · 0)) : byteAt (lastStored results op) 0 = op := by
  obtain ⟨res, listed, same⟩ := List.mem_map.mp member
  unfold lastStored
  cases found : results.reverse.find? fun res => byteAt res 0 = op with
  | none => exact absurd (List.find?_eq_none.mp found res (List.mem_reverse.mpr listed)) (by simp [same])
  | some last => simpa using List.find?_some found

theorem eraseDups_concat : (ops ++ [op]).eraseDups = if op ∈ ops then ops.eraseDups else ops.eraseDups ++ [op] := by
  rw [List.eraseDups_append]
  by_cases member : op ∈ ops <;> simp [member, List.removeAll, List.eraseDups_cons]

theorem eraseDups_nodup (ops : List Nat) : ops.eraseDups.Nodup := by
  induction ops using List.reverseRecOn with
  | nil => exact List.nodup_nil
  | append_singleton ops op ih =>
    rw [eraseDups_concat]
    split
    · exact ih
    case isFalse new =>
      exact List.concat_eq_append ▸ ih.concat (mt List.mem_eraseDups.mp new)

/-- A result that is put takes its place, or the last one. -/
theorem putCalib_map {value : Nat → List UInt8} (own : ∀ op ∈ ops, byteAt (value op) 0 = op) (distinct : ops.Nodup) :
    putCalib res (ops.map value) = (if byteAt res 0 ∈ ops then ops else ops ++ [byteAt res 0]).map
      fun op => if byteAt res 0 = op then res else value op := by
  by_cases member : byteAt res 0 ∈ ops
  · obtain ⟨before, after, rfl⟩ := List.append_of_mem member
    have apart := List.nodup_append.mp distinct
    have notBefore : ∀ op ∈ before, byteAt res 0 ≠ op := fun op listed same =>
      apart.2.2 op listed _ List.mem_cons_self same.symm
    have notAfter : ∀ op ∈ after, byteAt res 0 ≠ op := fun op listed same =>
      (List.nodup_cons.mp apart.2.1).1 (same ▸ listed)
    rw [if_pos member, List.map_append, putCalib_append, List.map_cons, putCalib,
      if_pos (own _ (List.mem_append_right _ List.mem_cons_self)), List.map_append, List.map_cons, if_pos rfl]
    · congr 1
      · exact List.map_congr_left fun op listed => (if_neg (notBefore op listed)).symm
      · exact congrArg _ (List.map_congr_left fun op listed => (if_neg (notAfter op listed)).symm)
    · intro old listed
      obtain ⟨op, among, rfl⟩ := List.mem_map.mp listed
      rw [own op (List.mem_append_left _ among)]
      exact (notBefore op among).symm
  · have others : ∀ op ∈ ops, byteAt res 0 ≠ op := fun op listed same => member (same ▸ listed)
    have apart : ∀ old ∈ ops.map value, byteAt old 0 ≠ byteAt res 0 := by
      intro old listed
      obtain ⟨op, among, rfl⟩ := List.mem_map.mp listed
      rw [own op among]
      exact (others op among).symm
    have put := putCalib_append apart []
    rw [if_neg member, List.map_append, List.map_singleton, if_pos rfl, ← List.append_nil (ops.map value), put]
    exact congrArg (· ++ [res]) (List.map_congr_left fun op listed => (if_neg (others op listed)).symm)

theorem putCalib_latest : putCalib res (latest results) = latest (results ++ [res]) := by
  have own : ∀ op ∈ (results.map (byteAt · 0)).eraseDups, byteAt (lastStored results op) 0 = op :=
    fun op member => lastStored_opCode (List.mem_eraseDups.mp member)
  rw [latest, putCalib_map own (eraseDups_nodup _), latest, List.map_append, List.map_singleton, eraseDups_concat]
  simp only [List.mem_eraseDups]
  exact List.map_congr_left fun op _ => lastStored_concat.symm

theorem mem_latest (member : res ∈ latest results) : res ∈ results := by
  obtain ⟨op, listed, rfl⟩ := List.mem_map.mp member
  obtain ⟨other, among, same⟩ := List.mem_map.mp (List.mem_eraseDups.mp listed)
  unfold lastStored
  cases found : results.reverse.find? fun res => byteAt res 0 = op with
  | none => exact absurd (List.find?_eq_none.mp found other (List.mem_reverse.mpr among)) (by simp [same])
  | some last => exact List.mem_reverse.mp (List.mem_of_find?_eq_some found)

end Latest

/-- The bytes that some commands send. -/
def sentBytes (sent : List Pcie.IwlFragment) : List (List UInt8) := sent.map (·.data)

/-- The list is right for the results that were stored: it holds the latest ones, with their lengths; they are
sent in order, up to the first command that fails; each is released, and nothing else is allocated. -/
structure ListRight (priv : CalibPriv) (results : List (List UInt8)) : Prop where
  holds : readResults priv = .ok ((latest results).map fun res => ⟨res.length, res⟩)
  sends : ∀ answer : Nat → Int,
    (∀ k < (latest results).length, answer k = 0) ∧ (∃ sent,
      iwlSendCalibResults priv answer = .ok (0, sent) ∧ sentBytes sent = latest results) ∨
    ∃ k < (latest results).length, (∀ j < k, answer j = 0) ∧ answer k ≠ 0 ∧ ∃ sent,
      iwlSendCalibResults priv answer = .ok (answer k, sent) ∧ sentBytes sent = (latest results).take (k + 1)
  releases : ∃ names last, readNames priv = .ok names ∧ names.Nodup ∧
    (∀ name, priv.heap name = .live ↔ name ∈ names) ∧ iwlCalibFreeResults priv = .ok last ∧
    readResults last = .ok [] ∧ last.heap = freeAll names priv.heap

/-- A list of blocks with the latest results is right. -/
theorem Lists.right (lists : Lists priv names) {results : List (List UInt8)}
    (same : contents priv names = latest results) (short : ∀ res ∈ results, res.length < 2 ^ 16) :
    ListRight priv results := by
  have data := fragments_data lists fun res member => short res (mem_latest (same ▸ member))
  have length : names.length = (latest results).length := by rw [← same, contents, List.length_map]
  rw [same] at data
  refine ⟨same ▸ lists.readResults, fun answer => ?_, ?_⟩
  · rcases iwlSendCalibResults_ok lists answer with ⟨accepted, ran⟩ | ⟨k, small, accepted, failed, ran⟩
    · exact .inl ⟨length ▸ accepted, _, ran, data⟩
    · refine .inr ⟨k, length ▸ small, accepted, failed, _, ran, ?_⟩
      rw [sentBytes, List.map_take, data]
  · obtain ⟨last, ran, empty, released⟩ := freeLoop_ok lists lists.length_lt
    exact ⟨names, last, lists.readNames, lists.holds.distinct,
      fun name => ⟨lists.owned name, lists.holds.live name⟩, ran, empty.readResults, released⟩

/-- The calls one after the other. -/
theorem setAll_ok (calls : List (List UInt8 × Bool)) {results : List (List UInt8)} (lists : Lists priv names)
    (same : contents priv names = latest results) : ∃ last names', setAll calls priv = .ok last ∧
      Lists last names' ∧ contents last names' = latest (results ++ stored calls) := by
  induction calls generalizing priv names results with
  | nil => exact ⟨priv, names, rfl, lists, by rw [same, stored, List.filter_nil, List.map_nil, List.append_nil]⟩
  | cons call later ih =>
    obtain ⟨cmd, alloc⟩ := call
    cases alloc with
    | false =>
      obtain ⟨last, names', ran, rest⟩ := ih lists same
      refine ⟨last, names', ?_, rest⟩
      rw [← ran, setAll, iwlCalibSet_enomem]
      rfl
    | true =>
      obtain ⟨next, between, set, listed, now⟩ := iwlCalibSet_ok lists cmd
      rw [same, putCalib_latest] at now
      obtain ⟨last, names', ran, all, held⟩ := ih listed now
      refine ⟨last, names', ?_, all, ?_⟩
      · rw [← ran, setAll, set]
        rfl
      · rw [held, List.append_assoc]
        rfl

/-- **The list of calibration results is right after any calls**, whatever allocations fail. -/
theorem calibResults (calls : List (List UInt8 × Bool)) (wellFormed : ∀ call ∈ calls, WellFormed call.1) :
    ∃ priv, setAll calls .init = .ok priv ∧ ListRight priv (stored calls) := by
  obtain ⟨priv, names, ran, lists, same⟩ := @setAll_ok _ _ calls [] init_lists rfl
  refine ⟨priv, ran, lists.right same fun res member => ?_⟩
  obtain ⟨call, among, rfl⟩ := List.mem_map.mp member
  exact Nat.lt_trans (wellFormed call (List.mem_of_mem_filter among)).2 (by decide)

/-- Three `op_code`s, of which the first two are stored again, and one allocation that fails. -/
theorem calibResults_replaced :
    let calls : List (List UInt8 × Bool) := [([8, 0, 1, 1, 5], true), ([9, 0, 1, 1], true), ([12, 0, 1, 1, 7, 7], true),
      ([8, 0, 1, 1, 6, 6], true), ([15, 0, 1, 1], false), ([9, 0, 1, 1, 4], true)]
    (stored calls).length = 5 ∧ latest (stored calls) = [[8, 0, 1, 1, 6, 6], [9, 0, 1, 1, 4], [12, 0, 1, 1, 7, 7]] ∧
      ∃ priv, setAll calls .init = .ok priv ∧ ListRight priv (stored calls) :=
  ⟨rfl, by decide, calibResults _ (by decide)⟩

end IntelWifi.Dvm.CalibList
