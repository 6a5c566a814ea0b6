/-
**Removing a station.**

`iwl_remove_station` takes `IWL_STA_DRIVER_ACTIVE` from the entry and counts it off before it sends the
command; `iwl_send_remove_station` clears the entry when the device has answered with success. When the
command fails or is refused nothing is put back: the entry keeps `IWL_STA_UCODE_ACTIVE`, so it is not free,
and it is not driver-active, so the same call is answered with `-EINVAL` from then on. A device that is not
ready is left alone, with success.

* `allocatable_of_unused`: an entry without flags is prepared again.
* `removesWell_iff`: the calls that leave a station or a free entry.
-/

import IntelWifi.Dvm.Stations

namespace IntelWifi.Dvm

/-- The error comes from the command. -/
def StaError.ofCommand : StaError → Bool
  | .command | .eio => true
  | .einval | .eexist | .enomem | .enoent | .enospc => false

/-- **The entry can be allocated again**: it is prepared for whatever station it is chosen for, and adding
that station succeeds when the device takes it; and an ordinary entry is chosen for a new address when
those before it are used. -/
structure Allocatable (priv : IwlPriv) (id : StaId) : Prop where
  prepared : ∀ ctx addr isAp, choosesSta priv ctx addr isAp = some id →
    iwlPrepStation priv ctx addr isAp = (some id, prepareEntry priv ctx addr id)
  added : ∀ ctx addr isAp, choosesSta priv ctx addr isAp = some id →
    ∃ after, iwlAddStationCommon priv ctx addr isAp (.status staSuccessMsk) = (none, id, after)
  chosen : id ∈ scanIds → ∀ ctx addr, isBroadcastEtherAddr addr = false →
    (∀ i ∈ scanIds, (priv.stations i).addr ≠ addr) →
    (∀ i ∈ scanIds, i < id → (priv.stations i).used.any = true) →
    choosesSta priv ctx addr false = some id

/-- The entry describes the station as before, with the same flags. -/
def SameStation (before after : IwlStationEntry) : Prop :=
  after.addr = before.addr ∧ after.staId = before.staId ∧ after.ctxid = before.ctxid ∧ after.used = before.used

/-- **What a removal leaves**: when the command failed or was refused, the station with its flags, or a call
that succeeds when it is made again and accepted; on success, an entry without flags, which can be
allocated again. -/
structure RemovesWell (priv : IwlPriv) (ready : Bool) (staId : Option StaId) (answer : StaAnswer) : Prop where
  failed : ∀ id error, staId = some id → (iwlRemoveStation priv ready staId answer).1 = some error →
    error.ofCommand = true →
    SameStation (priv.stations id) ((iwlRemoveStation priv ready staId answer).2.stations id) ∨
      (iwlRemoveStation (iwlRemoveStation priv ready staId answer).2 true staId
        (.status staSuccessMsk)).1 = none
  done : ∀ id, staId = some id → (iwlRemoveStation priv ready staId answer).1 = none →
    ((iwlRemoveStation priv ready staId answer).2.stations id).used.any = false ∧
      Allocatable (iwlRemoveStation priv ready staId answer).2 id

/-- A station that is removed from a ready device is removed by the device; where the device is not ready,
the entry is not used. -/
def removalTaken (priv : IwlPriv) (ready : Bool) (staId : Option StaId) (answer : StaAnswer) : Prop :=
  ∀ id, staId = some id →
    if ready then
      (priv.stations id).used.driverActive = true → (priv.stations id).used.ucodeActive = true →
        answer.passed = true
    else (priv.stations id).used.any = false

/-! ### A free entry -/

section Unused

variable {priv : IwlPriv} {id : StaId} {addr : EthAddr}

theorem unused_absent (unused : (priv.stations id).used.any = false) (addr : EthAddr) :
    alreadyThere priv id addr = false := by
  unfold StaUsed.any at unused
  simp only [Bool.or_eq_false_iff] at unused
  unfold alreadyThere
  simp [unused]

/-- With no entry for the address, the first free entry is the one that the scan finds. -/
theorem scanStations_keeps (ids : List StaId) (absent : ∀ i ∈ ids, (priv.stations i).addr ≠ addr) :
    scanStations priv addr ids (some id) = some id := by
  induction ids with
  | nil => rfl
  | cons i later ih =>
    unfold scanStations
    rw [if_neg (absent i List.mem_cons_self), Option.isNone_some, Bool.and_false, if_neg Bool.false_ne_true]
    exact ih fun other member => absent other (List.mem_cons_of_mem _ member)

theorem scanStations_first (before later : List StaId)
    (absent : ∀ i ∈ before ++ id :: later, (priv.stations i).addr ≠ addr)
    (taken : ∀ i ∈ before, (priv.stations i).used.any = true)
    (unused : (priv.stations id).used.any = false) :
    scanStations priv addr (before ++ id :: later) none = some id := by
  induction before with
  | nil =>
    rw [List.nil_append] at absent ⊢
    unfold scanStations
    rw [if_neg (absent id List.mem_cons_self), unused]
    exact scanStations_keeps later fun i member => absent i (List.mem_cons_of_mem _ member)
  | cons i rest ih =>
    rw [List.cons_append] at absent ⊢
    unfold scanStations
    rw [if_neg (absent i List.mem_cons_self), taken i List.mem_cons_self]
    exact ih (fun other member => absent other (List.mem_cons_of_mem _ member))
      fun other member => taken other (List.mem_cons_of_mem _ member)

theorem scanIds_sorted : scanIds.Pairwise (· < ·) := by decide

/-- **An entry without flags** can be allocated. -/
theorem allocatable_of_unused (unused : (priv.stations id).used.any = false) : Allocatable priv id where
  prepared := by
    intro ctx addr isAp chosen
    unfold iwlPrepStation
    rw [chosen]
    dsimp only
    rw [unused_absent unused, if_neg Bool.false_ne_true]
  added := by
    intro ctx addr isAp chosen
    rw [addStationCommon_eq, chosen]
    dsimp only
    rw [unused_absent unused]
    exact ⟨_, rfl⟩
  chosen := by
    intro member ctx addr unicast absent taken
    obtain ⟨before, later, split⟩ := List.append_of_mem member
    have sorted := scanIds_sorted
    rw [split] at sorted absent taken
    unfold choosesSta
    rw [if_neg Bool.false_ne_true, unicast, if_neg Bool.false_ne_true, split]
    refine scanStations_first before later absent (fun i there => ?_) unused
    exact taken i (List.mem_append_left _ there)
      ((List.pairwise_append.mp sorted).2.2 i there id List.mem_cons_self)

end Unused

/-! ### The calls -/

/-- The table when the command is sent. -/
def removalSent (priv : IwlPriv) (id : StaId) : IwlPriv :=
  { priv with numStations := oneLess priv.numStations }.setEntry id
    { priv.stations id with
      lq := (priv.stations id).lq && !(priv.stations id).used.isLocal
      used := { (priv.stations id).used with driverActive := false } }

section Calls

variable {priv : IwlPriv} {id : StaId} {answer : StaAnswer}

/-- **The three ways of `iwl_remove_station`** for an entry of a ready device. -/
theorem removeStation_refused
    (idle : ¬ ((priv.stations id).used.driverActive = true ∧ (priv.stations id).used.ucodeActive = true)) :
    iwlRemoveStation priv true (some id) answer = (some .einval, priv) := by
  unfold iwlRemoveStation
  cases driver : (priv.stations id).used.driverActive with
  | false => simp [driver]
  | true =>
    cases ucode : (priv.stations id).used.ucodeActive with
    | false => simp [driver, ucode]
    | true => exact absurd ⟨driver, ucode⟩ idle

theorem removeStation_sent (driver : (priv.stations id).used.driverActive = true)
    (ucode : (priv.stations id).used.ucodeActive = true) :
    iwlRemoveStation priv true (some id) answer =
      (answer.error, if answer.passed then iwlStaUcodeDeactivate (removalSent priv id) id
        else removalSent priv id) := by
  rw [← sendRemoveStation_eq]
  unfold iwlRemoveStation removalSent
  simp [driver, ucode]

theorem removalSent_same (priv : IwlPriv) (id : StaId) :
    ((removalSent priv id).stations id).used = { (priv.stations id).used with driverActive := false } := by
  unfold removalSent
  rw [setEntry_same]

/-- A removal that is not taken cannot be made again. -/
theorem removalSent_refuses (priv : IwlPriv) (id : StaId) (answer : StaAnswer) :
    iwlRemoveStation (removalSent priv id) true (some id) answer = (some .einval, removalSent priv id) := by
  refine removeStation_refused ?_
  rw [removalSent_same]
  exact fun both => nomatch both.1

theorem error_ofCommand {error : StaError} (failed : answer.error = some error) : error.ofCommand = true := by
  cases answer with
  | failed =>
    cases failed
    rfl
  | status code =>
    unfold StaAnswer.error at failed
    dsimp only at failed
    split at failed
    · cases failed
    · cases failed
      rfl

theorem removesWell_notReady :
    RemovesWell priv false (some id) answer ↔ (priv.stations id).used.any = false := by
  constructor
  · exact fun well => (well.done id rfl rfl).1
  · intro unused
    refine ⟨fun _ _ _ failed => (nomatch failed), fun other same _ => ?_⟩
    obtain rfl := Option.some.inj same
    exact ⟨unused, allocatable_of_unused unused⟩

theorem removesWell_refused
    (idle : ¬ ((priv.stations id).used.driverActive = true ∧ (priv.stations id).used.ucodeActive = true)) :
    RemovesWell priv true (some id) answer := by
  have ran : iwlRemoveStation priv true (some id) answer = (some .einval, priv) := removeStation_refused idle
  constructor
  · intro _ error _ failed sent
    rw [ran] at failed
    cases failed
    cases sent
  · intro _ _ done
    rw [ran] at done
    cases done

/-- **The command is sent**: all is well just when the device takes the removal. -/
theorem removesWell_sent (driver : (priv.stations id).used.driverActive = true)
    (ucode : (priv.stations id).used.ucodeActive = true) :
    RemovesWell priv true (some id) answer ↔ answer.passed = true := by
  have ran : iwlRemoveStation priv true (some id) answer = (answer.error, if answer.passed then
      iwlStaUcodeDeactivate (removalSent priv id) id else removalSent priv id) := removeStation_sent driver ucode
  cases passed : answer.passed with
  | true =>
    refine iff_of_true ?_ rfl
    rw [passed, if_pos rfl, answer.error_none_iff.mpr passed] at ran
    constructor
    · intro _ error _ failed
      rw [ran] at failed
      cases failed
    · intro other same _
      obtain rfl := Option.some.inj same
      have unused : ((iwlStaUcodeDeactivate (removalSent priv id) id).stations id).used.any = false := by
        unfold iwlStaUcodeDeactivate
        rw [setEntry_same]
        rfl
      rw [ran]
      exact ⟨unused, allocatable_of_unused unused⟩
  | false =>
    rw [passed, if_neg Bool.false_ne_true] at ran
    refine iff_of_false (fun well => ?_) Bool.false_ne_true
    cases failed : answer.error with
    | none => cases passed.symm.trans (answer.error_none_iff.mp failed)
    | some error =>
      rw [failed] at ran
      have left := well.failed id error rfl (by rw [ran]) (error_ofCommand failed)
      rw [ran] at left
      rcases left with ⟨_, _, _, used⟩ | again
      · rw [removalSent_same] at used
        rw [← used] at driver
        cases driver
      · rw [removalSent_refuses] at again
        cases again

end Calls

/-- **Which removals leave a station or a free entry**: those of a station of a ready device that the device
takes or that are refused before anything is sent, and, on a device that is not ready, those of an
entry that is not used. -/
theorem removesWell_iff (priv : IwlPriv) (ready : Bool) (staId : Option StaId) (answer : StaAnswer) :
    RemovesWell priv ready staId answer ↔ removalTaken priv ready staId answer := by
  unfold removalTaken
  cases staId with
  | none =>
    refine iff_of_true ⟨?_, ?_⟩ ?_
    · exact fun _ _ same => (nomatch same)
    · exact fun _ same => (nomatch same)
    · exact fun _ same => (nomatch same)
  | some id =>
    simp only [Option.some.injEq, forall_eq']
    cases ready with
    | false => exact removesWell_notReady
    | true =>
      rw [if_pos rfl]
      by_cases active :
          (priv.stations id).used.driverActive = true ∧ (priv.stations id).used.ucodeActive = true
      · refine (removesWell_sent active.1 active.2).trans ?_
        exact ⟨fun passed _ _ => passed, fun passed => passed active.1 active.2⟩
      · exact iff_of_true (removesWell_refused active) fun driver ucode => absurd ⟨driver, ucode⟩ active

theorem bssidStation_size : (#[2, 0, 0, 0, 0, 1] : Array UInt8).size = 6 := rfl

/-- The BSSID station of an empty table, as `iwlagn_add_bssid_station` leaves it. -/
def bssidStation : IwlPriv :=
  (StaOp.addBssid .bss ⟨#[2, 0, 0, 0, 0, 1], bssidStation_size⟩ (.status staSuccessMsk) true).apply .empty

/-- The device refuses to remove the BSSID station: the entry is neither the station any more nor free, and the
same call is refused from then on. -/
theorem refusedRemoval_stuck : ¬ RemovesWell bssidStation true (some ⟨2, by decide⟩) (.status 2) := by
  intro well
  have left := well.failed ⟨2, by decide⟩ .eio rfl (by decide) rfl
  revert left
  unfold SameStation
  decide

end IntelWifi.Dvm
