/-
**The thread that waits for the firmware.**

`iwl_request_firmware` asks for the file with a lock held and sleeps on it; there is no deadline. The
answer arrives in another thread, which runs the callback; at the end of the callback it takes the lock
and wakes the sleeper. The labels the callback leaves through do not, and its request for the next file
is commented out.

* `requesterWoken_iff`: where the callback returns, the requesting thread is awake in every order of
  steps exactly when the delivery passes every check.
* `shortFile_hangs`: a file of three bytes.
-/

import IntelWifi.Lib.Machine
import IntelWifi.Fw.Callback

namespace IntelWifi.Fw

open IntelWifi.Machine IntelWifi.Checked IntelWifi.Porting

/-- One answer to the request: the bytes of the resource (none, when it was not found), whether the two
blocks of `firmwareLoadComplete` are there, and what the callback meets. -/
structure Delivery where
  env : LoadEnv
  resourceData : List UInt8
  length_lt : resourceData.length < 2 ^ 32
  fwBlock : Bool
  dataBlock : Bool

/-- The file the callback is called with. -/
def Delivery.file (d : Delivery) : Firmware where
  data := d.resourceData
  size_lt := Nat.lt_trans d.length_lt (by decide)

/-- `firmwareLoadComplete`: neither block is looked at before it is written to. -/
def firmwareLoadComplete [WideShift] (d : Delivery) : Outcome Exit LoadedFw :=
  if !d.fwBlock then .error .fault
  else if !d.dataBlock && d.resourceData.length ≠ 0 then .error .fault
  else loadFirmware d.env (some d.file)

/-- `drv->fw_index`. -/
def fwIndex (cfg : IwlCfg) (first : Bool) (index : Int) : Int :=
  if first then cfg.ucodeApiMax else index - 1

inductive Thread where
  | requester | callback
  deriving DecidableEq, Repr

/-- Where the thread in `iwl_request_firmware` is. -/
inductive RequesterPc where
  | entered
  /-- It holds the lock. -/
  | locked
  /-- `OSKextRequestResource` has taken the request; the lock is still held. -/
  | requested
  /-- In `IOLockSleep`, which has released the lock. -/
  | asleep
  /-- On the way out of `IOLockSleep`, which takes the lock again. -/
  | awake
  | relocked
  | returned
  /-- It has returned an error, with nothing requested. -/
  | refused
  deriving DecidableEq, Repr

/-- Where the thread that delivers the file is. -/
inductive CallbackPc where
  | notCalled
  | called
  /-- Every check has passed. -/
  | loaded
  | locked
  /-- `IOLockWakeup` has been called; the lock is still held. -/
  | signalled
  | returned
  deriving DecidableEq, Repr

structure RequestState where
  lock : Option Thread
  requester : RequesterPc
  callback : CallbackPc
  deriving DecidableEq, Repr

def RequestState.start : RequestState where
  lock := none
  requester := .entered
  callback := .notCalled

/-- What happens next. `interrupt` ends a sleep that is `THREAD_INTERRUPTIBLE`. -/
inductive RequestAct where
  | requester (granted : Bool)
  | callback
  | interrupt
  deriving DecidableEq, Repr

/-- A step of `iwl_request_firmware(drv, true)`. -/
def requesterStep (d : Delivery) (granted : Bool) (s : RequestState) : Option RequestState :=
  match s.requester with
  | .entered =>
    if fwIndex d.env.cfg true 0 < d.env.cfg.ucodeApiMin then some { s with requester := .refused }
    else if s.lock.isSome then none
    else some { s with lock := some .requester, requester := .locked }
  | .locked =>
    if granted then some { s with requester := .requested }
    else some { s with lock := none, requester := .refused }
  | .requested => some { s with lock := none, requester := .asleep }
  | .asleep => none
  | .awake =>
    if s.lock.isSome then none else some { s with lock := some .requester, requester := .relocked }
  | .relocked => some { s with lock := none, requester := .returned }
  | .returned | .refused => none

/-- The request has been taken. -/
def RequesterPc.asked : RequesterPc → Bool
  | .entered | .locked | .refused => false
  | _ => true

/-- `IOLockWakeup`: a thread that is not asleep is not woken later. -/
def RequesterPc.wakeup : RequesterPc → RequesterPc
  | .asleep => .awake
  | pc => pc

/-- A step of the thread that delivers the file. Every label ends in the return. -/
def callbackStep [WideShift] (d : Delivery) (s : RequestState) : Option RequestState :=
  match s.callback with
  | .notCalled => if s.requester.asked then some { s with callback := .called } else none
  | .called =>
    match firmwareLoadComplete d with
    | .ok _ => some { s with callback := .loaded }
    | .error (.error _) => some { s with callback := .returned }
    | .error .fault => none
  | .loaded =>
    if s.lock.isSome then none else some { s with lock := some .callback, callback := .locked }
  | .locked => some { s with requester := s.requester.wakeup, callback := .signalled }
  | .signalled => some { s with lock := none, callback := .returned }
  | .returned => none

/-- One step of either thread. -/
def requestStep [WideShift] (d : Delivery) (s : RequestState) : RequestAct → Option RequestState
  | .requester granted => requesterStep d granted s
  | .callback => callbackStep d s
  | .interrupt => if s.requester = .asleep then some { s with requester := .awake } else none

/-- Some order of steps leads here. -/
def Reachable [WideShift] (d : Delivery) (s : RequestState) : Prop :=
  ∃ acts, run (requestStep d) .start acts = some s

/-- It has been woken, and is on its way out. -/
def RequesterPc.woken : RequesterPc → Bool
  | .awake | .relocked | .returned => true
  | _ => false

/-- **Once the callback has returned, the thread that waited for it is awake.** -/
def Woken (s : RequestState) : Prop := s.callback = .returned → s.requester.woken = true

/-- The callback runs to its end: it does not touch memory that is not there. -/
def Delivery.Returns [WideShift] (d : Delivery) : Prop := Safe (firmwareLoadComplete d)

/-! ### A delivery that is accepted -/

def RequesterPc.holds : RequesterPc → Bool
  | .locked | .requested | .relocked => true
  | _ => false

def CallbackPc.holds : CallbackPc → Bool
  | .locked | .signalled => true
  | _ => false

/-- The lock is its holder's, the callback runs after the request, and its wakeup after the sleep. -/
structure Orderly (s : RequestState) : Prop where
  requester : s.lock = some .requester ↔ s.requester.holds = true
  callback : s.lock = some .callback ↔ s.callback.holds = true
  asked : s.callback ≠ .notCalled → s.requester.asked = true
  woken : s.callback = .signalled ∨ s.callback = .returned → s.requester.woken = true

theorem orderly_start : Orderly .start where
  requester := by decide
  callback := by decide
  asked := by decide
  woken := by decide

/-- A thread that has asked and does not hold the lock is asleep or past its sleep. -/
theorem asleep_or_woken {pc : RequesterPc} (asked : pc.asked = true) (released : pc.holds = false) :
    pc.wakeup.woken = true := by
  cases pc <;> simp_all [RequesterPc.asked, RequesterPc.holds, RequesterPc.wakeup, RequesterPc.woken]

theorem wakeup_holds (pc : RequesterPc) : pc.wakeup.holds = pc.holds := by
  cases pc <;> rfl

theorem wakeup_asked {pc : RequesterPc} (asked : pc.asked = true) : pc.wakeup.asked = true := by
  cases pc <;> exact asked

variable {d : Delivery} {s s' : RequestState} {granted : Bool}

/-- Before the request is taken there is no callback. -/
theorem Orderly.notCalled (orderly : Orderly s) (before : s.requester.asked = false) :
    s.callback = .notCalled := by
  by_contra called
  rw [orderly.asked called] at before
  cases before

/-- A free lock is held by neither thread. -/
theorem Orderly.free (orderly : Orderly s) (free : s.lock = none) :
    s.requester.holds = false ∧ s.callback.holds = false := by
  have requester := orderly.requester
  have callback := orderly.callback
  rw [free] at requester callback
  exact ⟨by simpa using requester, by simpa using callback⟩

/-- While the requester holds the lock, the callback does not. -/
theorem Orderly.requesterHolds (orderly : Orderly s) (holds : s.requester.holds = true) :
    s.lock = some .requester ∧ s.callback.holds = false := by
  have owned := orderly.requester.mpr holds
  have callback := orderly.callback
  rw [owned] at callback
  exact ⟨owned, by simpa using callback⟩

/-- While the callback holds the lock, the requester does not. -/
theorem Orderly.callbackHolds (orderly : Orderly s) (holds : s.callback.holds = true) :
    s.lock = some .callback ∧ s.requester.holds = false := by
  have owned := orderly.callback.mpr holds
  have requester := orderly.requester
  rw [owned] at requester
  exact ⟨owned, by simpa using requester⟩

/-- The requester takes or leaves the lock, or keeps it, and goes on. -/
theorem Orderly.requesterMoves (orderly : Orderly s) {lock : Option Thread} {pc : RequesterPc}
    (owns : lock = some .requester ↔ pc.holds = true) (other : lock ≠ some .callback)
    (released : s.callback.holds = false)
    (asked : s.callback ≠ .notCalled → pc.asked = true)
    (woken : s.requester.woken = true → pc.woken = true) :
    Orderly { s with lock := lock, requester := pc } where
  requester := owns
  callback := by simp [other, released]
  asked := asked
  woken := fun late => woken (orderly.woken late)

theorem Orderly.requesterStep (orderly : Orderly s) (stepped : requesterStep d granted s = some s') :
    Orderly s' := by
  have own := orderly.requester
  have other := orderly.callback
  unfold Fw.requesterStep at stepped
  split at stepped
  · next here =>
    have idle := orderly.notCalled (by rw [here]; rfl)
    have released : s.callback.holds = false := by rw [idle]; rfl
    rw [here] at own
    rw [released] at other
    split at stepped
    · cases stepped
      refine orderly.requesterMoves own (by simpa using other) released ?_ ?_
      · exact fun called => absurd idle called
      · simp [here, RequesterPc.woken]
    · split at stepped
      · cases stepped
      · cases stepped
        refine orderly.requesterMoves (by decide) (by decide) released ?_ ?_
        · exact fun called => absurd idle called
        · simp [here, RequesterPc.woken]
  · next here =>
    have idle := orderly.notCalled (by rw [here]; rfl)
    obtain ⟨owned, released⟩ := orderly.requesterHolds (by rw [here]; rfl)
    split at stepped
    · cases stepped
      refine orderly.requesterMoves (by simp [owned, RequesterPc.holds]) (by simp [owned]) released ?_ ?_
      · exact fun _ => rfl
      · simp [here, RequesterPc.woken]
    · cases stepped
      refine orderly.requesterMoves (by decide) (by decide) released ?_ ?_
      · exact fun called => absurd idle called
      · simp [here, RequesterPc.woken]
  · next here =>
    obtain ⟨_, released⟩ := orderly.requesterHolds (by rw [here]; rfl)
    cases stepped
    refine orderly.requesterMoves (by decide) (by decide) released (fun _ => rfl) ?_
    simp [here, RequesterPc.woken]
  · cases stepped
  · split at stepped
    · cases stepped
    · next taken =>
      cases stepped
      obtain ⟨_, released⟩ := orderly.free (by simpa using taken)
      exact orderly.requesterMoves (by decide) (by decide) released (fun _ => rfl) fun _ => rfl
  · next here =>
    obtain ⟨_, released⟩ := orderly.requesterHolds (by rw [here]; rfl)
    cases stepped
    exact orderly.requesterMoves (by decide) (by decide) released (fun _ => rfl) fun _ => rfl
  · cases stepped
  · cases stepped

/-- A sleep that is interrupted. -/
theorem Orderly.interrupted (orderly : Orderly s) (asleep : s.requester = .asleep) :
    Orderly { s with requester := .awake } where
  requester := by
    have own := orderly.requester
    rw [asleep] at own
    exact own
  callback := orderly.callback
  asked := fun _ => rfl
  woken := fun _ => rfl

/-- **A step of the callback**, where every check passes. -/
theorem Orderly.callbackStep [WideShift] (orderly : Orderly s) {loaded : LoadedFw}
    (accepted : firmwareLoadComplete d = .ok loaded) (stepped : callbackStep d s = some s') :
    Orderly s' := by
  have own := orderly.requester
  have other := orderly.callback
  unfold Fw.callbackStep at stepped
  split at stepped
  · next here =>
    rw [here] at other
    split at stepped
    · next asked =>
      cases stepped
      exact ⟨own, other, fun _ => asked, by simp⟩
    · cases stepped
  · next here =>
    rw [here] at other
    rw [accepted] at stepped
    cases stepped
    exact ⟨own, other, fun _ => orderly.asked (by simp [here]), by simp⟩
  · next here =>
    split at stepped
    · cases stepped
    · next taken =>
      cases stepped
      obtain ⟨released, _⟩ := orderly.free (by simpa using taken)
      exact ⟨by simp [released], by simp [CallbackPc.holds], fun _ => orderly.asked (by simp [here]),
        by simp⟩
  · next here =>
    -- The lock is held, so the requester has released it: it is asleep, or awake already.
    cases stepped
    obtain ⟨owned, released⟩ := orderly.callbackHolds (by rw [here]; rfl)
    have asked := orderly.asked (by simp [here])
    have woken := asleep_or_woken asked released
    exact ⟨by simp [owned, wakeup_holds, released], by simp [owned, CallbackPc.holds],
      fun _ => wakeup_asked asked, fun _ => woken⟩
  · next here =>
    cases stepped
    obtain ⟨_, released⟩ := orderly.callbackHolds (by rw [here]; rfl)
    exact ⟨by simp [released], by simp [CallbackPc.holds], fun _ => orderly.asked (by simp [here]),
      fun _ => orderly.woken (.inl here)⟩
  · cases stepped

/-- **Every run keeps the order**, where every check passes. -/
theorem orderly_of_reachable [WideShift] {loaded : LoadedFw} (accepted : firmwareLoadComplete d = .ok loaded)
    (reached : Reachable d s) : Orderly s := by
  obtain ⟨acts, ran⟩ := reached
  refine run_invariant Orderly (fun state act next orderly stepped => ?_) orderly_start ran
  cases act with
  | requester granted => exact orderly.requesterStep stepped
  | callback => exact orderly.callbackStep accepted stepped
  | interrupt =>
    dsimp only [requestStep] at stepped
    split at stepped
    · next asleep =>
      cases stepped
      exact orderly.interrupted asleep
    · cases stepped

/-! ### A delivery that is not -/

/-- The requester asleep for good: the callback has returned through a label. -/
def RequestState.hung : RequestState where
  lock := none
  requester := .asleep
  callback := .returned

/-- **A label leaves the requester asleep.** -/
theorem hangs_of_exit [WideShift] {exit : Exit} (left : firmwareLoadComplete d = .error (.error exit)) :
    Reachable d .hung := by
  refine ⟨[.requester true, .requester true, .requester true, .callback, .callback], ?_⟩
  have ordered : ¬ fwIndex d.env.cfg true 0 < d.env.cfg.ucodeApiMin := by
    have ordered := d.env.cfg.apiOrdered
    simp only [fwIndex, if_pos]
    omega
  simp only [run, requestStep, requesterStep, RequestState.start, if_neg ordered, Option.isSome_none,
    Bool.false_eq_true, if_false, if_true, Option.bind_some, callbackStep, RequesterPc.asked, left]
  rfl

/-- Nothing but an interrupt happens after it. -/
theorem hung_stuck [WideShift] (act : RequestAct) (stepped : requestStep d .hung act = some s) :
    act = .interrupt := by
  cases act with
  | requester granted => cases stepped
  | callback => cases stepped
  | interrupt => rfl

/-- **When the sleeper is woken**: a callback that returns has woken it in every order of steps exactly
when the delivery passes every check. -/
theorem requesterWoken_iff [WideShift] (d : Delivery) (returns : d.Returns) :
    (∀ s, Reachable d s → Woken s) ↔ Accepted d.env (some d.file) := by
  have decides : Decides (firmwareLoadComplete d) (Accepted d.env (some d.file)) := by
    unfold firmwareLoadComplete
    split
    · exact decides_fault
    · split
      · exact decides_fault
      · exact loadFirmware_decides d.env (some d.file)
  rw [← decides.value_iff returns]
  constructor
  · intro woken
    rcases outcome : firmwareLoadComplete d with (_ | exit) | loaded
    · exact absurd outcome returns
    · have awake := woken .hung (hangs_of_exit outcome) rfl
      cases awake
    · exact ⟨loaded, rfl⟩
  · rintro ⟨loaded, accepted⟩ s reached returned
    exact (orderly_of_reachable accepted reached).woken (.inr returned)

/-- Memory enough for every request. -/
def Memory.enough : Memory where
  pieces := true
  blocks := .all
  descs := fun _ => true
  desc := fun _ _ => true
  freshSize := fun _ _ => 0
  freshOffset := fun _ _ => 0

/-- A resource that arrives, for a driver of API versions 1 to 5 with no op mode registered. -/
def deliveryOf (bytes : List UInt8) (length_lt : bytes.length < 2 ^ 32) : Delivery where
  env :=
    { cfg := ⟨5, 1, 16, 16, 0, by decide⟩
      memory := .enough
      opMode := fun _ => none }
  resourceData := bytes
  length_lt := length_lt
  fwBlock := true
  dataBlock := true

/-- Three bytes. -/
def shortDelivery : Delivery := deliveryOf [0, 0, 0] (by decide)

/-- A v1 file of API version 1 with four sections of one byte. -/
def v1Delivery : Delivery :=
  deliveryOf [0, 1, 0, 0, 1, 0, 0, 0, 1, 0, 0, 0, 1, 0, 0, 0, 1, 0, 0, 0, 0, 0, 0, 0, 1, 2, 3, 4]
    (by decide)

section Processor

attribute [local instance] processorShift

theorem shortDelivery_leaves : firmwareLoadComplete shortDelivery = .error (.error .tryAgain) := by
  rfl

theorem v1Delivery_loads : ∃ loaded, firmwareLoadComplete v1Delivery = .ok loaded :=
  ⟨_, by rfl⟩

theorem requesterWoken_iff_instances :
    (∀ s, Reachable v1Delivery s → Woken s) ∧ ¬ ∀ s, Reachable shortDelivery s → Woken s := by
  obtain ⟨loaded, accepted⟩ := v1Delivery_loads
  have returns : v1Delivery.Returns := by
    unfold Delivery.Returns
    rw [accepted]
    exact safe_ok loaded
  have leaves : shortDelivery.Returns := by
    unfold Delivery.Returns
    rw [shortDelivery_leaves]
    exact safe_error _
  have takes := (loadFirmware_decides v1Delivery.env (some v1Delivery.file)).given loaded accepted
  refine ⟨(requesterWoken_iff v1Delivery returns).mpr takes, fun woken => ?_⟩
  obtain ⟨_, file, same, enough, _⟩ := (requesterWoken_iff shortDelivery leaves).mp woken
  obtain rfl := Option.some.inj same
  exact absurd enough (by decide)

/-- **A file of three bytes hangs the driver**: the callback returns, and of all steps only an interrupt
can take the thread out of its sleep. -/
theorem shortFile_hangs :
    ¬ (∀ d : Delivery, d.Returns → ∀ s, Reachable d s → Woken s) ∧
      Reachable shortDelivery .hung ∧
      ∀ act s, requestStep shortDelivery .hung act = some s → act = .interrupt := by
  have hangs := hangs_of_exit shortDelivery_leaves
  refine ⟨fun woken => ?_, hangs, fun act s stepped => hung_stuck act stepped⟩
  have leaves : shortDelivery.Returns := by
    unfold Delivery.Returns
    rw [shortDelivery_leaves]
    exact safe_error _
  exact absurd (woken shortDelivery leaves .hung hangs rfl) (by decide)

end Processor

end IntelWifi.Fw
