/-
**Whose wait is removed.**

`iwl_remove_notification` names an entry and takes the first one off the list, whichever that is. A new entry
is put first, so that waits which are nested are removed in the right order.

* `loadUcode_keeps`, `runInitUcode_keeps`: the two functions that wait for the firmware leave the list as it
  was, whatever happens meanwhile.
* `waitsKept_iff`: an entry is removed, and no other, just when it is the first one.
-/

import IntelWifi.Fw.NotifWait

namespace IntelWifi.NotifWait

/-- What the functions that start the firmware return, but for 0. -/
inductive UcodeError where
  | einval
  | eio
  | etimedout
  /-- An error of `start_fw` or of a command. -/
  | code (ret : Int)
  deriving DecidableEq, Repr

def WaitResult.error : WaitResult → Option UcodeError
  | .ok => none
  | .eio => some .eio
  | .etimedout => some .etimedout

/-- The part of `struct iwl_priv` that is used. -/
structure IwlPriv (Entry : Type) where
  notifWait : NotifWaitData Entry
  curUcode : Nat
  ucodeLoaded : Bool

/-- What a sleep ends with: the entries as packets and aborts left them, and whether it ended in
`THREAD_AWAKENED`. -/
structure Slept (Entry : Type) where
  entry : Entry → WaitEntry
  awakened : Bool

/-- What happens while the alive notification is waited for; `valid` is what `iwl_alive_fn` found. -/
structure AliveOutcome (Entry : Type) where
  startFw : Option UcodeError
  slept : Slept Entry
  valid : Bool
  aliveNotify : Option UcodeError

/-- `IWL_UCODE_INIT`, `IWL_UCODE_WOWLAN` is after it, and `IWL_UCODE_TYPE_MAX`. -/
def iwlUcodeInit : Nat := 1
def iwlUcodeTypeMax : Nat := 4

/-- `REPLY_ALIVE`, `CALIBRATION_RES_NOTIFICATION` and `CALIBRATION_COMPLETE_NOTIFICATION`. -/
def replyAlive : Nat := 0x1
def calibrationResNotification : Nat := 0x66
def calibrationCompleteNotification : Nat := 0x67

section Calls

variable {Entry : Type} [DecidableEq Entry]

/-- `iwl_wait_notification`: the result, and the data after the entry is removed. -/
def iwlWaitNotification (data : NotifWaitData Entry) (w : Entry) (slept : Slept Entry) :
    Option (WaitResult × NotifWaitData Entry) := do
  let data ← iwlRemoveNotification { data with entry := slept.entry }
  some (waitResult (data.entry w).aborted slept.awakened, data)

/-- `iwl_load_ucode_wait_alive`; its entry is on the stack. -/
def iwlLoadUcodeWaitAlive (priv : IwlPriv Entry) (aliveWait : Entry) (ucodeType : Nat)
    (outcome : AliveOutcome Entry) : Option (Option UcodeError × IwlPriv Entry) :=
  if iwlUcodeTypeMax ≤ ucodeType then some (some .einval, priv)
  else
    let oldType := priv.curUcode
    let notifWait := iwlInitNotificationWait priv.notifWait aliveWait [replyAlive] true
    match outcome.startFw with
    | some error => do
      let notifWait ← iwlRemoveNotification notifWait
      some (some error, ⟨notifWait, oldType, false⟩)
    | none => do
      let (result, notifWait) ← iwlWaitNotification notifWait aliveWait outcome.slept
      match result.error with
      | some error => some (some error, ⟨notifWait, oldType, false⟩)
      | none =>
        if !outcome.valid then some (some .eio, ⟨notifWait, oldType, false⟩)
        else
          match outcome.aliveNotify with
          | some error => some (some error, ⟨notifWait, oldType, true⟩)
          | none => some (none, ⟨notifWait, ucodeType, true⟩)

/-- `calib_complete`. -/
def calibComplete : List Nat := [calibrationResNotification, calibrationCompleteNotification]

/-- `iwl_run_init_ucode`, with the sections of the init image, how `iwl_load_ucode_wait_alive` and
`iwl_init_alive_start` end, and the second sleep. -/
def iwlRunInitUcode (priv : IwlPriv Entry) (calibWait aliveWait : Entry) (numSec : Nat)
    (alive : AliveOutcome Entry) (aliveStart : Option UcodeError) (slept : Slept Entry) :
    Option (Option UcodeError × IwlPriv Entry) :=
  if numSec = 0 then some (none, priv)
  else do
    let (ret, priv) ← iwlLoadUcodeWaitAlive
      { priv with notifWait := iwlInitNotificationWait priv.notifWait calibWait calibComplete true }
      aliveWait iwlUcodeInit alive
    match ret.or aliveStart with
    | some error => do
      let notifWait ← iwlRemoveNotification priv.notifWait
      some (some error, { priv with notifWait, ucodeLoaded := false })
    | none => do
      let (result, notifWait) ← iwlWaitNotification priv.notifWait calibWait slept
      some (result.error, { priv with notifWait, ucodeLoaded := false })

end Calls

/-! ### Nested waits -/

variable {Entry : Type}

/-- The call returns, and then these entries are in the list. -/
def Leaves (call : Option (Option UcodeError × IwlPriv Entry)) (waits : List Entry) : Prop :=
  ∃ ret priv, call = some (ret, priv) ∧ priv.notifWait.notifWaits = waits

section Nested

variable {data : NotifWaitData Entry} {priv : IwlPriv Entry} {w : Entry} {waits : List Entry}

/-- The removal, where an entry is first. -/
theorem removeNotification_first (first : data.notifWaits = w :: waits) :
    iwlRemoveNotification data = some { data with notifWaits := waits } := by
  unfold iwlRemoveNotification
  rw [first]

theorem leaves_some (ret : Option UcodeError) (same : priv.notifWait.notifWaits = waits) :
    Leaves (some (ret, priv)) waits :=
  ⟨ret, priv, rfl, same⟩

theorem waitNotification_first (first : data.notifWaits = w :: waits) (slept : Slept Entry) :
    iwlWaitNotification data w slept = some (waitResult (slept.entry w).aborted slept.awakened,
      { data with entry := slept.entry, notifWaits := waits }) := by
  unfold iwlWaitNotification
  have here : ({ data with entry := slept.entry } : NotifWaitData Entry).notifWaits = w :: waits := first
  rw [removeNotification_first here]
  rfl

variable [DecidableEq Entry]

/-- **Loading the firmware** leaves the list as it was. -/
theorem loadUcode_keeps (priv : IwlPriv Entry) (aliveWait : Entry) (ucodeType : Nat)
    (outcome : AliveOutcome Entry) :
    Leaves (iwlLoadUcodeWaitAlive priv aliveWait ucodeType outcome) priv.notifWait.notifWaits := by
  unfold iwlLoadUcodeWaitAlive
  by_cases missing : iwlUcodeTypeMax ≤ ucodeType
  · rw [if_pos missing]
    exact leaves_some _ rfl
  rw [if_neg missing]
  have first : (iwlInitNotificationWait priv.notifWait aliveWait [replyAlive] true).notifWaits =
    aliveWait :: priv.notifWait.notifWaits := rfl
  cases outcome.startFw with
  | some error =>
    dsimp only
    rw [removeNotification_first first]
    exact leaves_some _ rfl
  | none =>
    dsimp only
    rw [waitNotification_first first]
    dsimp only [Option.bind_eq_bind, Option.bind_some]
    cases (waitResult (outcome.slept.entry aliveWait).aborted outcome.slept.awakened).error with
    | some error => exact leaves_some _ rfl
    | none =>
      cases outcome.valid with
      | false => exact leaves_some _ rfl
      | true =>
        cases outcome.aliveNotify with
        | some error => exact leaves_some _ rfl
        | none => exact leaves_some _ rfl

/-- **The init firmware** is waited for twice, one wait in the other, and the list is as it was. -/
theorem runInitUcode_keeps (priv : IwlPriv Entry) (calibWait aliveWait : Entry) (numSec : Nat)
    (alive : AliveOutcome Entry) (aliveStart : Option UcodeError) (slept : Slept Entry) :
    Leaves (iwlRunInitUcode priv calibWait aliveWait numSec alive aliveStart slept)
      priv.notifWait.notifWaits := by
  unfold iwlRunInitUcode
  by_cases none : numSec = 0
  · rw [if_pos none]
    exact leaves_some _ rfl
  rw [if_neg none]
  obtain ⟨ret, loaded, same, waits⟩ := loadUcode_keeps
    { priv with notifWait := iwlInitNotificationWait priv.notifWait calibWait calibComplete true }
    aliveWait iwlUcodeInit alive
  rw [same]
  dsimp only [Option.bind_eq_bind, Option.bind_some]
  have first : loaded.notifWait.notifWaits = calibWait :: priv.notifWait.notifWaits := waits
  cases ret.or aliveStart with
  | some error =>
    dsimp only
    rw [removeNotification_first first]
    exact leaves_some _ rfl
  | none =>
    dsimp only
    rw [waitNotification_first first]
    exact leaves_some _ rfl

/-- A waiter that wakes leaves the list like this: the step is the end of `iwl_wait_notification`. -/
theorem resume_eq {awakened : Bool} (woken : (data.entry w).pc = .woken awakened) :
    notifStep data (.resume w) = (iwlWaitNotification data w
      ⟨(data.setEntry w { data.entry w with pc := .removed awakened }).entry, awakened⟩).map Prod.snd := by
  unfold notifStep
  dsimp only
  rw [woken]
  unfold iwlWaitNotification iwlRemoveNotification NotifWaitData.setEntry
  dsimp only
  cases data.notifWaits with
  | nil => rfl
  | cons first later => rfl

end Nested

/-! ### Any entry -/

/-- **The entry is removed and no other**, by itself and after a wait for it, and where the firmware is
started every wait that was there is kept. -/
structure WaitsKept [DecidableEq Entry] (data : NotifWaitData Entry) (w : Entry) : Prop where
  removed : iwlRemoveNotification data = some { data with notifWaits := data.notifWaits.erase w }
  waited : ∀ slept, iwlWaitNotification data w slept = some (waitResult (slept.entry w).aborted slept.awakened,
    { data with entry := slept.entry, notifWaits := data.notifWaits.erase w })
  loaded : ∀ priv : IwlPriv Entry, priv.notifWait = data → ∀ aliveWait ucodeType outcome,
    Leaves (iwlLoadUcodeWaitAlive priv aliveWait ucodeType outcome) data.notifWaits
  ran : ∀ priv : IwlPriv Entry, priv.notifWait = data → ∀ calibWait aliveWait numSec alive aliveStart slept,
    Leaves (iwlRunInitUcode priv calibWait aliveWait numSec alive aliveStart slept) data.notifWaits

variable [DecidableEq Entry] {data : NotifWaitData Entry} {w : Entry}

/-- Without its first entry a list has all but `w` just when that entry is `w`. -/
theorem later_eq_erase_iff {first : Entry} {later : List Entry} (listed : w ∈ first :: later) :
    later = (first :: later).erase w ↔ first = w := by
  constructor
  · intro same
    by_contra apart
    have inLater : w ∈ later := (List.mem_cons.mp listed).resolve_left fun is => apart is.symm
    have count := congrArg (List.count w) same
    rw [List.erase_cons_tail (by simpa using apart), List.count_cons_of_ne apart, List.count_erase_self] at count
    have some := List.count_pos_iff.mpr inLater
    omega
  · rintro rfl
    exact (List.erase_cons_head ..).symm

/-- **When an entry that is in the list is removed and no other**: just when it is the first. -/
theorem waitsKept_iff (listed : w ∈ data.notifWaits) : WaitsKept data w ↔ data.notifWaits.head? = some w := by
  cases waits : data.notifWaits with
  | nil =>
    rw [waits] at listed
    exact absurd listed List.not_mem_nil
  | cons first later =>
    rw [waits] at listed
    rw [List.head?_cons, Option.some_inj]
    constructor
    · intro kept
      have removed := kept.removed
      rw [removeNotification_first waits, waits] at removed
      exact (later_eq_erase_iff listed).mp (congrArg NotifWaitData.notifWaits (Option.some.inj removed))
    · rintro rfl
      constructor
      · rw [removeNotification_first waits, waits, List.erase_cons_head]
      · intro slept
        rw [waitNotification_first waits, waits, List.erase_cons_head]
      · rintro priv rfl aliveWait ucodeType outcome
        exact loadUcode_keeps priv aliveWait ucodeType outcome
      · rintro priv rfl calibWait aliveWait numSec alive aliveStart slept
        exact runInitUcode_keeps priv calibWait aliveWait numSec alive aliveStart slept

/-- The waits 0 and 1 of two callers, 1 registered last. -/
def twoRegistered : NotifWaitData Nat :=
  iwlInitNotificationWait (iwlInitNotificationWait .start 0 [replyAlive] true) 1 calibComplete true

theorem waitsKept_iff_last : WaitsKept twoRegistered 1 ↔ [1, 0].head? = some 1 :=
  waitsKept_iff (by decide)

/-- **The first wait of two**, when it ends first, stays in the list, and the other one is off it. -/
theorem otherWait_removed : (0 : Nat) ∈ twoRegistered.notifWaits ∧
    (iwlRemoveNotification twoRegistered).map (·.notifWaits) = some [0] ∧ ¬ WaitsKept twoRegistered 0 := by
  refine ⟨by decide, rfl, fun kept => ?_⟩
  have removed := congrArg (Option.map (·.notifWaits)) kept.removed
  revert removed
  decide

end IntelWifi.NotifWait
