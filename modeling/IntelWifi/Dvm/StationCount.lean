/-
**When `num_stations` is the number of active stations.**

`num_stations` goes up whenever an entry is prepared, also one that is active already, and the paths
that clear `IWL_STA_DRIVER_ACTIVE` after a failed `REPLY_ADD_STA` leave it as it is.

* `countKept`: the calls that keep the count right, in the state before them.
* `stationCount_iff`: `num_stations` is right all along a run just when all its calls are such.
* `failedAdd_counted`: one station that the device refuses counts for ever.
-/

import IntelWifi.Dvm.Stations
import IntelWifi.Lib.Machine
import IntelWifi.Lib.Tally

namespace IntelWifi.Dvm

open IntelWifi.Tally

/-- The number of entries with `IWL_STA_DRIVER_ACTIVE`. -/
@[irreducible] def activeCount (stations : StaId → IwlStationEntry) : Nat :=
  tally (fun i => some (stations i).used.driverActive) true

/-- The property: `num_stations` is the number of active entries, and not negative. -/
def Counted (priv : IwlPriv) : Prop :=
  priv.numStations = activeCount priv.stations ∧ 0 ≤ priv.numStations

/-- `iwl_prep_station` leaves the entry it chooses as it is, or the entry is not active yet. -/
def preparesInactive (priv : IwlPriv) (ctx : CtxId) (addr : EthAddr) (isAp : Bool) : Bool :=
  match choosesSta priv ctx addr isAp with
  | none => true
  | some id => alreadyThere priv id addr || !(priv.stations id).used.driverActive

/-- And the device accepts the station that is added. -/
def addsInactive (priv : IwlPriv) (ctx : CtxId) (addr : EthAddr) (isAp : Bool)
    (answer : StaAnswer) : Bool :=
  match choosesSta priv ctx addr isAp with
  | none => true
  | some id =>
    alreadyThere priv id addr || !(priv.stations id).used.driverActive && answer.passed

/-- The broadcast station is prepared in an inactive entry, or is active in the one that is left. -/
def allocatesInactive (priv : IwlPriv) (ctx : CtxId) : Bool :=
  match choosesSta priv ctx iwlBcastAddr false with
  | none => true
  | some id => alreadyThere priv id iwlBcastAddr == (priv.stations id).used.driverActive

/-- The station that is deactivated is active, or there is nothing to take away. -/
def deactivatesActive (priv : IwlPriv) (ready : Bool) (staId : Option StaId) : Bool :=
  !ready || staId.all fun id => (priv.stations id).used.driverActive || decide (priv.numStations = 0)

/-- `iwl_restore_stations` sends a command for this station. -/
def restores (priv : IwlPriv) (ctx : CtxId) (i : StaId) : Bool :=
  ((marksRestored priv ctx).stations i).used.ucodeInprogress

/-- The device accepts each active station that is restored. -/
def restoresAll (priv : IwlPriv) (ready : Bool) (ctx : CtxId) (answers : StaId → StaAnswer) : Bool :=
  !ready || (List.finRange iwlagnStationCount).all fun i =>
    !restores priv ctx i || !(priv.stations i).used.driverActive || (answers i).passed

/-- There is no broadcast station, or nothing to take away. -/
def deallocatesNone (priv : IwlPriv) : Bool :=
  ((List.finRange iwlagnStationCount).all fun i => !(priv.stations i).used.bcast) ||
    decide (priv.numStations = 0)

/-- The calls that keep the count right. -/
def countKept (priv : IwlPriv) : StaOp → Bool
  | .prep ctx addr isAp => preparesInactive priv ctx addr isAp
  | .add ctx addr isAp answer => addsInactive priv ctx addr isAp answer
  | .addBssid ctx addr answer _ => addsInactive priv ctx addr false answer
  | .deactivate ready staId => deactivatesActive priv ready staId
  | .restore ready ctx answers => restoresAll priv ready ctx answers
  | .allocBcast ctx _ => allocatesInactive priv ctx
  | .deallocBcast => deallocatesNone priv
  | _ => true

/-! ### Counting entries -/

/-- **What writing one entry does to the count.** -/
theorem activeCount_update (stations : StaId → IwlStationEntry) (id : StaId)
    (entry : IwlStationEntry) :
    activeCount (Function.update stations id entry) +
        (if (stations id).used.driverActive then 1 else 0) =
      activeCount stations + if entry.used.driverActive then 1 else 0 := by
  have moved := tally_update (fun i => some (stations i).used.driverActive) id
    (some entry.used.driverActive) true
  have written : Function.update (fun i => some (stations i).used.driverActive) id
      (some entry.used.driverActive) =
      fun i => some (Function.update stations id entry i).used.driverActive := by
    funext i
    by_cases here : i = id
    · subst here
      rw [Function.update_self, Function.update_self]
    · rw [Function.update_of_ne here, Function.update_of_ne here]
  rw [written] at moved
  unfold activeCount
  simpa using moved

/-- Two tables with the same active entries. -/
theorem activeCount_congr {stations stations' : StaId → IwlStationEntry}
    (same : ∀ i, (stations' i).used.driverActive = (stations i).used.driverActive) :
    activeCount stations' = activeCount stations := by
  unfold activeCount
  congr 1
  funext i
  rw [same i]

/-- Writing an entry that is active as before. -/
theorem activeCount_keep {stations : StaId → IwlStationEntry} {id : StaId} {entry : IwlStationEntry}
    (same : entry.used.driverActive = (stations id).used.driverActive) :
    activeCount (Function.update stations id entry) = activeCount stations := by
  have moved := activeCount_update stations id entry
  rw [same] at moved
  omega

/-- An active entry counts. -/
theorem activeCount_pos {stations : StaId → IwlStationEntry} {id : StaId}
    (active : (stations id).used.driverActive = true) : 0 < activeCount stations := by
  have moved := activeCount_update stations id .zero
  rw [active] at moved
  simp only [if_true, IwlStationEntry.zero, StaUsed.zero, Bool.false_eq_true, if_false] at moved
  omega

/-- The number of stations and the active entries are as before. -/
structure SameCount (priv priv' : IwlPriv) : Prop where
  numStations : priv'.numStations = priv.numStations
  active : activeCount priv'.stations = activeCount priv.stations

theorem SameCount.counted_iff {priv priv' : IwlPriv} (same : SameCount priv priv') :
    Counted priv' ↔ Counted priv := by
  unfold Counted
  rw [same.numStations, same.active]

theorem setEntry_sameCount {priv : IwlPriv} {id : StaId} {entry : IwlStationEntry}
    (same : entry.used.driverActive = (priv.stations id).used.driverActive) :
    SameCount priv (priv.setEntry id entry) :=
  ⟨rfl, activeCount_keep same⟩

theorem ucodeActivate_same (priv : IwlPriv) (id : StaId) :
    SameCount priv (iwlStaUcodeActivate priv id) := by
  unfold iwlStaUcodeActivate
  split
  · exact ⟨rfl, rfl⟩
  · exact ⟨rfl, activeCount_keep rfl⟩

theorem sendLqCmd_same (priv : IwlPriv) (id : StaId) : SameCount priv (iwlSendLqCmd priv id) := by
  unfold iwlSendLqCmd
  split
  · exact ⟨rfl, activeCount_keep rfl⟩
  · exact ⟨rfl, rfl⟩

theorem SameCount.trans {priv priv' priv'' : IwlPriv} (first : SameCount priv priv')
    (second : SameCount priv' priv'') : SameCount priv priv'' :=
  ⟨second.numStations.trans first.numStations, second.active.trans first.active⟩

/-! ### Preparing and adding -/

/-- An entry is prepared and its flags written: the number goes up, and the entry counts or not. -/
theorem prepared_count (priv : IwlPriv) (ctx : CtxId) (addr : EthAddr) (id : StaId) (used : StaUsed) :
    ((prepareEntry priv ctx addr id).setUsed id used).numStations = priv.numStations + 1 ∧
      activeCount ((prepareEntry priv ctx addr id).setUsed id used).stations +
          (if (priv.stations id).used.driverActive then 1 else 0) =
        activeCount priv.stations + if used.driverActive then 1 else 0 := by
  refine ⟨rfl, ?_⟩
  unfold IwlPriv.setUsed prepareEntry
  rw [setEntry_setEntry]
  exact activeCount_update priv.stations id _

/-- **Preparing keeps the count** just when the prepared entry counts and did not before. -/
theorem prepared_counted_iff {priv : IwlPriv} (counted : Counted priv) (ctx : CtxId) (addr : EthAddr)
    (id : StaId) (used : StaUsed) :
    Counted ((prepareEntry priv ctx addr id).setUsed id used) ↔
      (priv.stations id).used.driverActive = false ∧ used.driverActive = true := by
  obtain ⟨number, active⟩ := prepared_count priv ctx addr id used
  obtain ⟨equal, least⟩ := counted
  unfold Counted
  rw [number, equal]
  cases before : (priv.stations id).used.driverActive <;> cases after : used.driverActive <;>
    simp only [before, after, if_true, Bool.false_eq_true, if_false] at active <;>
    simp <;> omega

theorem prepareEntry_setUsed (priv : IwlPriv) (ctx : CtxId) (addr : EthAddr) (id : StaId) :
    (prepareEntry priv ctx addr id).setUsed id { StaUsed.zero with driverActive := true } =
      prepareEntry priv ctx addr id := by
  unfold IwlPriv.setUsed
  rw [prepareEntry_same]
  unfold prepareEntry
  rw [setEntry_setEntry]

theorem prepStation_counted_iff {priv : IwlPriv} (counted : Counted priv) (ctx : CtxId)
    (addr : EthAddr) (isAp : Bool) :
    Counted (iwlPrepStation priv ctx addr isAp).2 ↔ preparesInactive priv ctx addr isAp = true := by
  unfold iwlPrepStation preparesInactive
  cases choosesSta priv ctx addr isAp with
  | none => exact ⟨fun _ => rfl, fun _ => counted⟩
  | some id =>
    dsimp only
    by_cases there : alreadyThere priv id addr = true
    · rw [if_pos there, there, Bool.true_or]
      exact ⟨fun _ => rfl, fun _ => counted⟩
    · rw [if_neg there, Bool.eq_false_iff.mpr there, Bool.false_or, ← prepareEntry_setUsed,
        prepared_counted_iff counted]
      simp

theorem addStationCommon_counted_iff {priv : IwlPriv} (counted : Counted priv) (ctx : CtxId)
    (addr : EthAddr) (isAp : Bool) (answer : StaAnswer) :
    Counted (iwlAddStationCommon priv ctx addr isAp answer).2.2 ↔
      addsInactive priv ctx addr isAp answer = true := by
  rw [addStationCommon_eq]
  unfold addsInactive
  cases choosesSta priv ctx addr isAp with
  | none => exact ⟨fun _ => rfl, fun _ => counted⟩
  | some id =>
    dsimp only
    by_cases there : alreadyThere priv id addr = true
    · rw [if_pos there, there, Bool.true_or]
      exact ⟨fun _ => rfl, fun _ => counted⟩
    · rw [if_neg there, Bool.eq_false_iff.mpr there, Bool.false_or, prepared_counted_iff counted]
      unfold addedUsed
      cases answer.passed <;> simp [StaUsed.zero]

theorem addBssid_counted_iff {priv : IwlPriv} (counted : Counted priv) (ctx : CtxId) (addr : EthAddr)
    (answer : StaAnswer) (lqRoom : Bool) :
    Counted (iwlagnAddBssidStation priv ctx addr answer lqRoom).2 ↔
      addsInactive priv ctx addr false answer = true := by
  rw [← addStationCommon_counted_iff counted]
  unfold iwlagnAddBssidStation
  rcases iwlAddStationCommon priv ctx addr false answer with ⟨_ | e, id, added⟩
  · -- What follows a success leaves the active entries as they are.
    dsimp only
    cases lqRoom with
    | false =>
      rw [if_neg Bool.false_ne_true]
      refine SameCount.counted_iff (setEntry_sameCount ?_)
      rfl
    | true =>
      rw [if_pos rfl]
      refine SameCount.counted_iff (SameCount.trans (setEntry_sameCount ?_)
        (SameCount.trans (sendLqCmd_same _ id) (setEntry_sameCount ?_))) <;> rfl
  · exact Iff.rfl

/-- **The broadcast station**: its entry is active afterwards, whether it was prepared or left. -/
theorem allocBcast_counted_iff {priv : IwlPriv} (counted : Counted priv) (ctx : CtxId)
    (lqRoom : Bool) :
    Counted (iwlagnAllocBcastStation priv ctx lqRoom).2 ↔ allocatesInactive priv ctx = true := by
  -- The link quality command does not matter.
  have lq (priv' : IwlPriv) (id : StaId) :
      Counted ((if lqRoom then (none, priv'.setEntry id { priv'.stations id with lq := true })
        else (some StaError.enomem, priv') : Option StaError × IwlPriv).2) ↔ Counted priv' := by
    cases lqRoom with
    | false => exact Iff.rfl
    | true =>
      rw [if_pos rfl]
      refine SameCount.counted_iff (setEntry_sameCount ?_)
      rfl
  unfold iwlagnAllocBcastStation iwlPrepStation allocatesInactive
  cases choosesSta priv ctx iwlBcastAddr false with
  | none => exact ⟨fun _ => rfl, fun _ => counted⟩
  | some id =>
    dsimp only
    by_cases there : alreadyThere priv id iwlBcastAddr = true
    · rw [if_pos there, there]
      dsimp only
      rw [lq]
      have moved := activeCount_update priv.stations id { priv.stations id with
        used := { (priv.stations id).used with driverActive := true, bcast := true } }
      obtain ⟨equal, least⟩ := counted
      unfold Counted IwlPriv.setUsed IwlPriv.setEntry
      dsimp only
      rw [equal]
      cases before : (priv.stations id).used.driverActive <;>
        simp only [before, if_true, Bool.false_eq_true, if_false] at moved <;>
        simp <;> omega
    · rw [if_neg there, Bool.eq_false_iff.mpr there]
      dsimp only
      rw [lq, prepareEntry_same, prepared_counted_iff counted]
      simp

/-! ### Removing -/

theorem oneLess_of_pos {numStations : Int} (some : 0 < numStations) :
    oneLess numStations = numStations - 1 := by
  unfold oneLess
  rw [if_neg (by omega)]

theorem sendRemoveStation_same {priv : IwlPriv} {id : StaId} (answer : StaAnswer)
    (inactive : (priv.stations id).used.driverActive = false) :
    SameCount priv (iwlSendRemoveStation priv id answer).2 := by
  rw [sendRemoveStation_eq]
  dsimp only
  split
  · exact ⟨rfl, activeCount_keep inactive.symm⟩
  · exact ⟨rfl, rfl⟩

/-- **Removing keeps the count**: only an active station is removed. -/
theorem removeStation_counted {priv : IwlPriv} (counted : Counted priv) (ready : Bool)
    (staId : Option StaId) (answer : StaAnswer) :
    Counted (iwlRemoveStation priv ready staId answer).2 := by
  unfold iwlRemoveStation
  cases ready with
  | false => exact counted
  | true =>
    cases staId with
    | none => exact counted
    | some id =>
      simp only [Bool.not_true, Bool.false_eq_true, if_false]
      split
      · exact counted
      · rename_i active
        have active : (priv.stations id).used.driverActive = true := by simpa using active
        split
        · exact counted
        · refine (sendRemoveStation_same answer ?_).counted_iff.mpr ?_
          · rw [setEntry_same]
          · obtain ⟨equal, _⟩ := counted
            have some := activeCount_pos active
            have moved := activeCount_update priv.stations id { priv.stations id with
              lq := (priv.stations id).lq && !(priv.stations id).used.isLocal
              used := { (priv.stations id).used with driverActive := false } }
            simp only [active, if_true, Bool.false_eq_true, if_false] at moved
            unfold Counted IwlPriv.setEntry
            dsimp only
            rw [oneLess_of_pos (by omega)]
            omega

theorem deactivateStation_counted_iff {priv : IwlPriv} (counted : Counted priv) (ready : Bool)
    (staId : Option StaId) :
    Counted (iwlDeactivateStation priv ready staId) ↔
      deactivatesActive priv ready staId = true := by
  unfold iwlDeactivateStation deactivatesActive
  cases ready with
  | false => exact ⟨fun _ => rfl, fun _ => counted⟩
  | true =>
    cases staId with
    | none => exact ⟨fun _ => rfl, fun _ => counted⟩
    | some id =>
      obtain ⟨equal, least⟩ := counted
      have moved := activeCount_update priv.stations id { priv.stations id with
        used := { (priv.stations id).used with driverActive := false, ucodeInprogress := false } }
      have some := @activeCount_pos priv.stations id
      simp only [Bool.not_true, Bool.false_eq_true, if_false, Bool.false_or, Option.all_some]
      unfold Counted oneLess IwlPriv.setUsed IwlPriv.setEntry
      dsimp only
      cases before : (priv.stations id).used.driverActive <;>
        simp only [before, if_true, Bool.false_eq_true, if_false, true_implies] at moved some <;>
        split <;> simp <;> omega

theorem clearUcodeStations_same (priv : IwlPriv) (ctx : Option CtxId) :
    SameCount priv (iwlClearUcodeStations priv ctx) := by
  refine ⟨rfl, activeCount_congr fun i => ?_⟩
  unfold iwlClearUcodeStations
  dsimp only
  split <;> rfl

/-! ### Restoring -/

/-- The active entries are as before, and the additions under way, but for one station. -/
structure KeepsOthers (i : StaId) (priv priv' : IwlPriv) : Prop where
  numStations : priv'.numStations = priv.numStations
  active : ∀ j, (priv'.stations j).used.driverActive = (priv.stations j).used.driverActive
  progress : ∀ j, j ≠ i →
    (priv'.stations j).used.ucodeInprogress = (priv.stations j).used.ucodeInprogress

theorem KeepsOthers.trans {i : StaId} {priv priv' priv'' : IwlPriv} (first : KeepsOthers i priv priv')
    (second : KeepsOthers i priv' priv'') : KeepsOthers i priv priv'' where
  numStations := second.numStations.trans first.numStations
  active := fun j => (second.active j).trans (first.active j)
  progress := fun j apart => (second.progress j apart).trans (first.progress j apart)

/-- Another entry than `i` keeps its addition, and `i` and it keep being active. -/
theorem keepsOthers_setUsed {i id : StaId} {priv : IwlPriv} {used : StaUsed}
    (active : used.driverActive = (priv.stations id).used.driverActive)
    (progress : id ≠ i → used.ucodeInprogress = (priv.stations id).used.ucodeInprogress) :
    KeepsOthers i priv (priv.setUsed id used) := by
  refine ⟨rfl, fun j => ?_, fun j apart => ?_⟩
  · by_cases here : j = id
    · subst here
      rw [setUsed_same]
      exact active
    · rw [setUsed_other here]
  · by_cases here : j = id
    · subst here
      rw [setUsed_same]
      exact progress apart
    · rw [setUsed_other here]

theorem ucodeActivate_keepsOthers (i id : StaId) (priv : IwlPriv) :
    KeepsOthers i priv (iwlStaUcodeActivate priv id) := by
  unfold iwlStaUcodeActivate
  split
  · exact ⟨rfl, fun _ => rfl, fun _ _ => rfl⟩
  · exact keepsOthers_setUsed rfl fun _ => rfl

theorem sendLqCmd_keepsOthers (i : StaId) (priv : IwlPriv) : KeepsOthers i priv (iwlSendLqCmd priv i) := by
  unfold iwlSendLqCmd
  split
  · exact keepsOthers_setUsed rfl fun apart => absurd rfl apart
  · exact ⟨rfl, fun _ => rfl, fun _ _ => rfl⟩

/-- A station is restored that does not pass, and was active. -/
def losesActive (answers : StaId → StaAnswer) (priv : IwlPriv) (i : StaId) : Bool :=
  (priv.stations i).used.ucodeInprogress && (priv.stations i).used.driverActive &&
    !(answers i).passed

/-- **One station is restored**: it is lost to the count just when it was active and fails. -/
theorem restoreStation_spec (answers : StaId → StaAnswer) (priv : IwlPriv) (i : StaId) :
    (restoreStation answers priv i).numStations = priv.numStations ∧
      activeCount (restoreStation answers priv i).stations +
        (if losesActive answers priv i then 1 else 0) = activeCount priv.stations ∧
      ∀ j, j ≠ i → losesActive answers (restoreStation answers priv i) j =
        losesActive answers priv j := by
  -- From what is kept, the three parts where the station is not lost.
  have kept {priv' : IwlPriv} (keeps : KeepsOthers i priv priv')
      (stays : losesActive answers priv i = false) :
      priv'.numStations = priv.numStations ∧
        activeCount priv'.stations + (if losesActive answers priv i then 1 else 0) =
          activeCount priv.stations ∧
        ∀ j, j ≠ i → losesActive answers priv' j = losesActive answers priv j := by
    refine ⟨keeps.numStations, ?_, fun j apart => ?_⟩
    · rw [stays, if_neg Bool.false_ne_true, Nat.add_zero, activeCount_congr keeps.active]
    · unfold losesActive
      rw [keeps.active j, keeps.progress j apart]
  rw [restoreStation_eq]
  by_cases progress : (priv.stations i).used.ucodeInprogress = true
  · rw [if_pos progress]
    cases passed : (answers i).passed with
    | true =>
      rw [if_pos rfl]
      have sent := ucodeActivate_keepsOthers i (priv.stations i).staId priv
      have ended (priv' : IwlPriv) : KeepsOthers i priv' (priv'.setUsed i
          { (priv'.stations i).used with ucodeInprogress := false }) :=
        keepsOthers_setUsed rfl fun apart => absurd rfl apart
      refine kept ?_ (by simp [losesActive, passed])
      unfold restoredStation
      dsimp only
      split
      · exact (sent.trans (sendLqCmd_keepsOthers i _)).trans (ended _)
      · exact sent.trans (ended _)
    | false =>
      rw [if_neg Bool.false_ne_true]
      refine ⟨rfl, ?_, fun j apart => ?_⟩
      · have moved := activeCount_update priv.stations i { priv.stations i with
          used := { (priv.stations i).used with driverActive := false, ucodeInprogress := false } }
        unfold losesActive
        rw [progress, passed]
        unfold IwlPriv.setUsed IwlPriv.setEntry
        simp only [Bool.true_and, Bool.not_false, Bool.and_true, Bool.false_eq_true, if_false] at moved ⊢
        exact moved
      · unfold losesActive
        rw [setUsed_other apart]
  · rw [if_neg progress]
    exact kept ⟨rfl, fun _ => rfl, fun _ _ => rfl⟩ (by simp [losesActive, progress])

/-- All of them: the count goes down by the number of those that are lost. -/
theorem restoreStations_spec (answers : StaId → StaAnswer) {ids : List StaId} (distinct : ids.Nodup)
    (priv : IwlPriv) :
    (ids.foldl (restoreStation answers) priv).numStations = priv.numStations ∧
      activeCount (ids.foldl (restoreStation answers) priv).stations +
        ids.countP (losesActive answers priv) = activeCount priv.stations := by
  induction ids generalizing priv with
  | nil => exact ⟨rfl, rfl⟩
  | cons i later ih =>
    obtain ⟨apart, distinct⟩ := List.nodup_cons.mp distinct
    obtain ⟨number, count, others⟩ := restoreStation_spec answers priv i
    obtain ⟨number', count'⟩ := ih distinct (restoreStation answers priv i)
    have same : later.countP (losesActive answers (restoreStation answers priv i)) =
        later.countP (losesActive answers priv) := by
      refine List.countP_congr fun j member => ?_
      rw [others j fun here => apart (here ▸ member)]
    rw [List.foldl_cons, List.countP_cons]
    exact ⟨number'.trans number, by omega⟩

theorem restoreStations_counted_iff {priv : IwlPriv} (counted : Counted priv) (ready : Bool)
    (ctx : CtxId) (answers : StaId → StaAnswer) :
    Counted (iwlRestoreStations priv ready ctx answers) ↔
      restoresAll priv ready ctx answers = true := by
  have active (i : StaId) : ((marksRestored priv ctx).stations i).used.driverActive =
      (priv.stations i).used.driverActive := by
    unfold marksRestored
    dsimp only
    split <;> rfl
  unfold iwlRestoreStations restoresAll
  cases ready with
  | false => exact ⟨fun _ => rfl, fun _ => counted⟩
  | true =>
    simp only [Bool.not_true, Bool.false_eq_true, if_false, Bool.false_or]
    obtain ⟨number, count⟩ := restoreStations_spec answers (List.nodup_finRange iwlagnStationCount)
      (marksRestored priv ctx)
    have none : (List.finRange iwlagnStationCount).countP
          (losesActive answers (marksRestored priv ctx)) = 0 ↔
        ((List.finRange iwlagnStationCount).all fun i =>
          !restores priv ctx i || !(priv.stations i).used.driverActive || (answers i).passed) = true := by
      rw [List.countP_eq_zero, List.all_eq_true]
      refine forall₂_congr fun i _ => ?_
      unfold losesActive restores
      rw [active i]
      cases ((marksRestored priv ctx).stations i).used.ucodeInprogress <;>
        cases (priv.stations i).used.driverActive <;> cases (answers i).passed <;> decide
    rw [← none]
    have before : activeCount (marksRestored priv ctx).stations = activeCount priv.stations :=
      activeCount_congr active
    have same : (marksRestored priv ctx).numStations = priv.numStations := rfl
    obtain ⟨equal, least⟩ := counted
    unfold Counted
    omega

/-! ### The broadcast stations -/

theorem deallocStation_spec (priv : IwlPriv) (i : StaId) :
    (deallocStation priv i).numStations =
        (if (priv.stations i).used.bcast then oneLess priv.numStations else priv.numStations) ∧
      ∀ j, ((deallocStation priv i).stations j).used.driverActive =
          (priv.stations j).used.driverActive ∧
        ((deallocStation priv i).stations j).used.bcast = (priv.stations j).used.bcast := by
  unfold deallocStation
  dsimp only
  split
  · refine ⟨rfl, fun j => ?_⟩
    by_cases here : j = i
    · subst here
      rw [setEntry_same]
      exact ⟨rfl, rfl⟩
    · rw [setEntry_other here]
      exact ⟨rfl, rfl⟩
  · exact ⟨rfl, fun j => ⟨rfl, rfl⟩⟩

/-- The number goes down once for each broadcast station, as far as zero. -/
theorem deallocStations_spec (ids : List StaId) {priv : IwlPriv} (least : 0 ≤ priv.numStations) :
    activeCount (ids.foldl deallocStation priv).stations = activeCount priv.stations ∧
      (ids.foldl deallocStation priv).numStations =
        max 0 (priv.numStations - ids.countP fun i => (priv.stations i).used.bcast) := by
  induction ids generalizing priv with
  | nil => exact ⟨rfl, by simpa using least⟩
  | cons i later ih =>
    obtain ⟨number, same⟩ := deallocStation_spec priv i
    have least' : 0 ≤ (deallocStation priv i).numStations := by
      rw [number]
      unfold oneLess
      split <;> try split
      all_goals omega
    obtain ⟨active, rest⟩ := ih least'
    have bcasts : (later.countP fun j => ((deallocStation priv i).stations j).used.bcast) =
        later.countP fun j => (priv.stations j).used.bcast :=
      List.countP_congr fun j _ => by rw [(same j).2]
    refine ⟨active.trans (activeCount_congr fun j => (same j).1), ?_⟩
    rw [List.foldl_cons, rest, bcasts, number, List.countP_cons]
    unfold oneLess
    split <;> try split
    all_goals omega

theorem deallocBcastStations_counted_iff {priv : IwlPriv} (counted : Counted priv) :
    Counted (iwlDeallocBcastStations priv) ↔ deallocatesNone priv = true := by
  obtain ⟨equal, least⟩ := counted
  obtain ⟨active, number⟩ := deallocStations_spec (List.finRange iwlagnStationCount) least
  have none : ((List.finRange iwlagnStationCount).countP fun i => (priv.stations i).used.bcast) = 0 ↔
      ((List.finRange iwlagnStationCount).all fun i => !(priv.stations i).used.bcast) = true := by
    rw [List.countP_eq_zero, List.all_eq_true]
    refine forall₂_congr fun i _ => ?_
    cases (priv.stations i).used.bcast <;> decide
  unfold Counted deallocatesNone iwlDeallocBcastStations
  rw [active, number, Bool.or_eq_true, decide_eq_true_eq, ← none]
  omega

/-! ### Whole runs -/

/-- A call as a step of a machine. -/
def staStep (priv : IwlPriv) (op : StaOp) : Option IwlPriv := some (op.apply priv)

theorem empty_counted : Counted .empty := by
  have none : activeCount IwlPriv.empty.stations = 0 := by
    unfold activeCount IwlPriv.empty
    rfl
  unfold Counted
  rw [none]
  exact ⟨rfl, Int.le_refl 0⟩

/-- **Each call keeps the count** just when it is one of `countKept`. -/
theorem apply_counted_iff {priv : IwlPriv} (counted : Counted priv) (op : StaOp) :
    Counted (op.apply priv) ↔ countKept priv op = true := by
  cases op with
  | prep ctx addr isAp => exact prepStation_counted_iff counted ctx addr isAp
  | add ctx addr isAp answer => exact addStationCommon_counted_iff counted ctx addr isAp answer
  | addBssid ctx addr answer lqRoom => exact addBssid_counted_iff counted ctx addr answer lqRoom
  | activate id =>
    exact (ucodeActivate_same priv id).counted_iff.trans ⟨fun _ => rfl, fun _ => counted⟩
  | remove ready staId answer =>
    exact ⟨fun _ => rfl, fun _ => removeStation_counted counted ready staId answer⟩
  | deactivate ready staId => exact deactivateStation_counted_iff counted ready staId
  | clearUcode ctx =>
    exact (clearUcodeStations_same priv ctx).counted_iff.trans ⟨fun _ => rfl, fun _ => counted⟩
  | restore ready ctx answers => exact restoreStations_counted_iff counted ready ctx answers
  | allocBcast ctx lqRoom => exact allocBcast_counted_iff counted ctx lqRoom
  | updateBcast ctx lqRoom =>
    refine Iff.trans ?_ ⟨fun _ => rfl, fun _ => counted⟩
    show Counted (iwlUpdateBcastStation priv ctx lqRoom).2 ↔ Counted priv
    unfold iwlUpdateBcastStation
    split
    · refine SameCount.counted_iff (setEntry_sameCount ?_)
      rfl
    · exact Iff.rfl
  | deallocBcast => exact deallocBcastStations_counted_iff counted
  | clearDriver => exact ⟨fun _ => rfl, fun _ => empty_counted⟩

/-- **`num_stations` is right all along a run** from the empty table just when all calls of the run
keep it right. -/
theorem stationCount_iff (ops : List StaOp) :
    Machine.Always staStep Counted .empty ops ↔
      Machine.allowed staStep countKept .empty ops = true := by
  refine Machine.always_iff_allowed Counted (fun priv op next counted kept stepped => ?_)
    (fun _ counted => counted) (fun priv op next counted lost stepped after => ?_)
    (fun priv op => ⟨StaOp.apply priv op, rfl⟩) empty_counted
  · obtain rfl := Option.some.inj stepped
    exact (apply_counted_iff counted op).mpr kept
  · obtain rfl := Option.some.inj stepped
    rw [(apply_counted_iff counted op).mp after] at lost
    cases lost

/-- **A station that the device refuses** is counted, and there is none. -/
theorem failedAdd_counted :
    ¬ Machine.Always staStep Counted .empty
      [.add .bss #v[2, 0, 0, 0, 0, 1] false (.status 2)] := by
  intro always
  have after := (always.2 _ rfl).1
  revert after
  unfold activeCount
  decide

end IntelWifi.Dvm
