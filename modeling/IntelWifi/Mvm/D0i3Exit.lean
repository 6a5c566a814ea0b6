/-
**Leaving D0i3.**

`iwl_mvm_d0i3_exit_work` takes `mvm->mutex`, asks for the WoWLAN status and calls `iwl_mvm_d0i3_enable_tx`, which
takes the same mutex again, and then `d0i3_tx_lock`. The line that takes a packet off `d0i3_tx` is commented out,
and so is the statement under `if (wake_queues)`: what stands under it is the unlock.

An `IOLock` is not recursive. A program stops where it takes a lock that is held, or where the loop over the
queue has not ended within its fuel. `events` is the record of the locks. What stands in `iwl_mvm_d0i3_exit_work`
behind `iwl_mvm_d0i3_enable_tx` is given.

* `enableTx_returns_iff`: `iwl_mvm_d0i3_enable_tx`, with both locks free, ends just when the queue is empty.
* `enableTx_keeps_locks`, `enableTx_seq`: when it ends it has kept both, and the sequence numbers are right.
* `d0i3Exit_never`: `iwl_mvm_d0i3_exit_work` never ends.
-/

import IntelWifi.Lib.Locks
import IntelWifi.Lib.Loop
import IntelWifi.Lib.Triples
import Mathlib.Logic.Function.Basic

namespace IntelWifi.Mvm.D0i3Exit

open IntelWifi.Locks IntelWifi.Loop IntelWifi.Triples

/-- `mvm->mutex` and `mvm->d0i3_tx_lock`. -/
inductive MvmLock where
  | mutex
  | d0i3TxLock
  deriving DecidableEq

/-- A pointer that `IS_ERR_OR_NULL` may be true of. -/
inductive Pointer (α : Type) where
  | null
  | err
  | to (target : α)

/-- What `IS_ERR_OR_NULL` lets through. -/
def Pointer.target {α : Type} : Pointer α → Option α
  | .to target => some target
  | _ => none

/-- `IWL_MAX_TID_COUNT`. -/
def iwlMaxTidCount : Nat := 8

/-- `IWL_MVM_INVALID_STA`. -/
def iwlMvmInvalidSta : BitVec 8 := 0xFF

/-- `struct iwl_wowlan_status`. -/
structure WowlanStatus where
  wakeupReasons : BitVec 32
  qosSeqCtr : Fin iwlMaxTidCount → BitVec 16

/-- The part of `struct iwl_mvm` that is used, with the stations' `seq_number`s. -/
structure IwlMvm (Sta Skb : Type) where
  held : MvmLock → Bool
  d0i3Tx : List Skb
  d0i3ApStaId : BitVec 8
  fwIdToMacId : BitVec 8 → Pointer Sta
  d0i3Offloading : Bool
  inD0i3 : Bool
  seqNumber : Sta → Fin iwlMaxTidCount → BitVec 16
  events : List (LockEvent MvmLock)

/-- Why a call does not return. -/
inductive Stop where
  | blocked (lock : MvmLock)
  /-- The queue is not empty yet. -/
  | unfinished
  deriving DecidableEq

variable {Sta Skb : Type} [DecidableEq Sta]

abbrev MvmM (Sta Skb α : Type) := StateT (IwlMvm Sta Skb) (Except Stop) α

/-! ### The two functions -/

/-- `IOLockLock` and `IOSimpleLockLock`. -/
def take (lock : MvmLock) : MvmM Sta Skb Unit := fun mvm =>
  if mvm.held lock then .error (.blocked lock)
  else
    .ok ((), { mvm with
      held := Function.update mvm.held lock true
      events := mvm.events ++ [.lock lock] })

/-- `IOLockUnlock` and `IOSimpleLockUnlock`. -/
def give (lock : MvmLock) : MvmM Sta Skb Unit :=
  modify fun mvm => { mvm with
    held := Function.update mvm.held lock false
    events := mvm.events ++ [.unlock lock] }

/-- The station of `d0i3_ap_sta_id`. -/
def IwlMvm.station (mvm : IwlMvm Sta Skb) : Option Sta :=
  if mvm.d0i3ApStaId = iwlMvmInvalidSta then none else (mvm.fwIdToMacId mvm.d0i3ApStaId).target

/-- The sequence numbers of a station: the firmware stores the last one that was used. -/
def IwlMvm.setSeq (mvm : IwlMvm Sta Skb) (sta : Sta) (qosSeq : Fin iwlMaxTidCount → BitVec 16) : IwlMvm Sta Skb :=
  { mvm with seqNumber := Function.update mvm.seqNumber sta fun tid => qosSeq tid + 0x10 }

/-- `iwl_mvm_d0i3_enable_tx`, up to `out`. -/
def updateSeq (qosSeq : Option (Fin iwlMaxTidCount → BitVec 16)) (mvm : IwlMvm Sta Skb) : IwlMvm Sta Skb :=
  match mvm.station, qosSeq with
  | some sta, some qosSeq => if mvm.d0i3Offloading then mvm.setSeq sta qosSeq else mvm
  | _, _ => mvm

/-- The loop over the queue, with `wake_queues`. -/
def drainTurn (loop : List Skb × Bool) : Turn (List Skb × Bool) Bool :=
  if loop.1.isEmpty then .leave loop.2 else .again (loop.1, true)

/-- At most `fuel` turns of it. -/
def drain (fuel : Nat) : MvmM Sta Skb Bool := fun mvm =>
  match run drainTurn fuel (mvm.d0i3Tx, false) with
  | some wakeQueues => .ok (wakeQueues, mvm)
  | none => .error .unfinished

/-- `iwl_mvm_d0i3_enable_tx`. -/
def iwlMvmD0i3EnableTx (fuel : Nat) (qosSeq : Option (Fin iwlMaxTidCount → BitVec 16)) : MvmM Sta Skb Unit := do
  take .mutex
  take .d0i3TxLock
  modify (updateSeq qosSeq)
  let wakeQueues ← drain fuel
  modify ({ · with inD0i3 := false, d0i3ApStaId := iwlMvmInvalidSta })
  if wakeQueues then give .d0i3TxLock else return ()

/-- `iwl_mvm_d0i3_exit_work`. `behind` is what the calls do behind `iwl_mvm_d0i3_enable_tx`. -/
def iwlMvmD0i3ExitWork (behind : IwlMvm Sta Skb → IwlMvm Sta Skb) (fuel : Nat) (status : Pointer WowlanStatus) :
    MvmM Sta Skb Unit := do
  take .mutex
  iwlMvmD0i3EnableTx fuel (status.target.map WowlanStatus.qosSeqCtr)
  modify behind
  give .mutex

/-! ### The property -/

/-- **An exit that is right.** -/
structure Exited (status : Pointer WowlanStatus) (before after : IwlMvm Sta Skb) : Prop where
  empty : after.d0i3Tx = []
  balanced : ∀ lock, Balanced lock after.events
  once : ∀ lock, after.events.count (.unlock lock) = 1
  out : after.inD0i3 = false
  seq : before.d0i3Offloading = true → ∀ sta, before.station = some sta →
    ∀ reported, status.target = some reported → ∀ tid, after.seqNumber sta tid = reported.qosSeqCtr tid + 0x10

/-- The call returns, and the exit is right. -/
def ExitRight (behind : IwlMvm Sta Skb → IwlMvm Sta Skb) (status : Pointer WowlanStatus) (mvm : IwlMvm Sta Skb) :
    Prop :=
  ∃ fuel after, (iwlMvmD0i3ExitWork behind fuel status).run { mvm with events := [] } = .ok ((), after) ∧
    Exited status mvm after

/-! ### `iwl_mvm_d0i3_enable_tx` -/

variable {mvm : IwlMvm Sta Skb} {qosSeq : Option (Fin iwlMaxTidCount → BitVec 16)}

omit [DecidableEq Sta] in
theorem take_free {lock : MvmLock} (free : mvm.held lock = false) :
    (take lock).run mvm = .ok ((), { mvm with
      held := Function.update mvm.held lock true, events := mvm.events ++ [.lock lock] }) :=
  if_neg (by rw [free]; exact Bool.false_ne_true)

omit [DecidableEq Sta] in
theorem take_held {lock : MvmLock} (held : mvm.held lock = true) :
    (take lock).run mvm = .error (.blocked lock) := if_pos held

/-- The loop ends at once, or never: it leaves the queue as it is. -/
theorem run_drain (fuel : Nat) (queue : List Skb) (wakeQueues : Bool) :
    run drainTurn (fuel + 1) (queue, wakeQueues) = if queue.isEmpty then some wakeQueues else none := by
  cases queue with
  | nil => rfl
  | cons skb later =>
    rw [List.isEmpty_cons, if_neg Bool.false_ne_true]
    induction fuel generalizing wakeQueues with
    | zero => rfl
    | succ fuel ih => exact ih true

omit [DecidableEq Sta] in
theorem drain_empty (empty : mvm.d0i3Tx = []) (fuel : Nat) :
    (drain (fuel + 1)).run mvm = .ok (false, mvm) := by
  show drain (fuel + 1) mvm = _
  rw [drain, empty, run_drain]
  rfl

omit [DecidableEq Sta] in
theorem drain_unfinished (more : mvm.d0i3Tx ≠ []) (fuel : Nat) : (drain fuel).run mvm = .error .unfinished := by
  show drain fuel mvm = _
  rw [drain]
  cases fuel with
  | zero => rfl
  | succ fuel => rw [run_drain, if_neg (by simpa using more)]

/-- Only the sequence numbers change. -/
theorem updateSeq_d0i3Tx (qosSeq : Option (Fin iwlMaxTidCount → BitVec 16)) (mvm : IwlMvm Sta Skb) :
    (updateSeq qosSeq mvm).d0i3Tx = mvm.d0i3Tx := by
  unfold updateSeq
  split
  · split <;> rfl
  · rfl

/-- Behind the two locks. -/
def IwlMvm.locked (mvm : IwlMvm Sta Skb) : IwlMvm Sta Skb :=
  { mvm with
    held := Function.update (Function.update mvm.held .mutex true) .d0i3TxLock true
    events := mvm.events ++ [.lock .mutex] ++ [.lock .d0i3TxLock] }

/-- Both locks are taken where they are free. -/
theorem enableTx_locked (free : ∀ lock, mvm.held lock = false) (fuel : Nat) :
    (iwlMvmD0i3EnableTx fuel qosSeq).run mvm = (drain fuel >>= fun wakeQueues => do
      modify ({ · with inD0i3 := false, d0i3ApStaId := iwlMvmInvalidSta })
      if wakeQueues then give .d0i3TxLock else return ()).run (updateSeq qosSeq mvm.locked) := by
  unfold iwlMvmD0i3EnableTx
  rw [run_bind_ok (take_free (free .mutex))]
  exact run_bind_ok (take_free (free .d0i3TxLock))

/-- **With both locks free and an empty queue** `iwl_mvm_d0i3_enable_tx` ends: nothing is woken, and nothing is
unlocked. -/
theorem enableTx_empty (free : ∀ lock, mvm.held lock = false) (empty : mvm.d0i3Tx = []) (fuel : Nat) :
    (iwlMvmD0i3EnableTx (fuel + 1) qosSeq).run mvm = .ok ((), { updateSeq qosSeq mvm.locked with
      inD0i3 := false, d0i3ApStaId := iwlMvmInvalidSta }) := by
  rw [enableTx_locked free, run_bind_ok (drain_empty ((updateSeq_d0i3Tx qosSeq mvm.locked).trans empty) fuel)]
  rfl

/-- **`iwl_mvm_d0i3_enable_tx` ends just when the queue is empty.** -/
theorem enableTx_returns_iff (free : ∀ lock, mvm.held lock = false) :
    (∃ fuel after, (iwlMvmD0i3EnableTx fuel qosSeq).run mvm = .ok ((), after)) ↔ mvm.d0i3Tx = [] := by
  constructor
  · rintro ⟨fuel, after, ran⟩
    by_contra more
    rw [enableTx_locked free, run_bind_error (drain_unfinished (by rwa [updateSeq_d0i3Tx]) fuel)] at ran
    cases ran
  · intro empty
    exact ⟨1, _, enableTx_empty free empty 0⟩

/-- The state in which it ends. -/
theorem enableTx_after {fuel : Nat} {after : IwlMvm Sta Skb} (free : ∀ lock, mvm.held lock = false)
    (ran : (iwlMvmD0i3EnableTx fuel qosSeq).run mvm = .ok ((), after)) :
    after = { updateSeq qosSeq mvm.locked with inD0i3 := false, d0i3ApStaId := iwlMvmInvalidSta } := by
  have empty := (enableTx_returns_iff free).mp ⟨fuel, after, ran⟩
  cases fuel with
  | zero =>
    rw [enableTx_locked free] at ran
    cases ran
  | succ fuel =>
    rw [enableTx_empty free empty] at ran
    exact (Prod.mk.inj (Except.ok.inj ran)).2.symm

/-- The locks are no matter of the sequence numbers. -/
theorem updateSeq_held (qosSeq : Option (Fin iwlMaxTidCount → BitVec 16)) (mvm : IwlMvm Sta Skb) :
    (updateSeq qosSeq mvm).held = mvm.held := by
  unfold updateSeq
  split
  · split <;> rfl
  · rfl

/-- **When it ends it has kept both locks.** -/
theorem enableTx_keeps_locks {fuel : Nat} {after : IwlMvm Sta Skb} (free : ∀ lock, mvm.held lock = false)
    (ran : (iwlMvmD0i3EnableTx fuel qosSeq).run mvm = .ok ((), after)) (lock : MvmLock) :
    after.held lock = true := by
  rw [enableTx_after free ran]
  dsimp only
  rw [updateSeq_held]
  cases lock <;> rfl

/-- **The sequence numbers are right when it ends.** -/
theorem enableTx_seq {fuel : Nat} {after : IwlMvm Sta Skb} {reported : Fin iwlMaxTidCount → BitVec 16} {sta : Sta}
    (free : ∀ lock, mvm.held lock = false)
    (ran : (iwlMvmD0i3EnableTx fuel (some reported)).run mvm = .ok ((), after))
    (offloading : mvm.d0i3Offloading = true) (known : mvm.station = some sta) (tid : Fin iwlMaxTidCount) :
    after.seqNumber sta tid = reported tid + 0x10 := by
  have station : mvm.locked.station = some sta := known
  have updated : updateSeq (some reported) mvm.locked = mvm.locked.setSeq sta reported := by
    unfold updateSeq
    rw [station]
    exact if_pos offloading
  rw [enableTx_after free ran, updated]
  dsimp only [IwlMvm.setSeq]
  rw [Function.update_self]

/-! ### `iwl_mvm_d0i3_exit_work` -/

/-- **The mutex is taken twice.** -/
theorem exitWork_blocked (behind : IwlMvm Sta Skb → IwlMvm Sta Skb) (fuel : Nat) (status : Pointer WowlanStatus)
    (mvm : IwlMvm Sta Skb) :
    (iwlMvmD0i3ExitWork behind fuel status).run mvm = .error (.blocked .mutex) := by
  unfold iwlMvmD0i3ExitWork
  cases held : mvm.held .mutex with
  | true => exact run_bind_error (take_held held)
  | false =>
    rw [run_bind_ok (take_free held)]
    refine run_bind_error ?_
    unfold iwlMvmD0i3EnableTx
    exact run_bind_error (take_held rfl)

/-- **No exit is right**: `iwl_mvm_d0i3_exit_work` never returns. -/
theorem d0i3Exit_never (behind : IwlMvm Sta Skb → IwlMvm Sta Skb) (status : Pointer WowlanStatus)
    (mvm : IwlMvm Sta Skb) : ¬ ExitRight behind status mvm := by
  rintro ⟨fuel, after, ran, -⟩
  rw [exitWork_blocked] at ran
  cases ran

/-- D0i3 with an empty queue and no station. -/
def idleMvm : IwlMvm Nat Nat :=
  ⟨fun _ => false, [], iwlMvmInvalidSta, fun _ => .null, false, true, fun _ _ => 0, []⟩

/-- **The simplest exit** waits for its own mutex. -/
theorem idleExit_blocked : (∀ fuel, (iwlMvmD0i3ExitWork id fuel .null).run idleMvm = .error (.blocked .mutex)) ∧
    ¬ ExitRight id .null idleMvm := by
  refine ⟨fun fuel => exitWork_blocked id fuel .null idleMvm, ?_⟩
  rintro ⟨fuel, after, ran, -⟩
  rw [exitWork_blocked] at ran
  cases ran

end IntelWifi.Mvm.D0i3Exit
