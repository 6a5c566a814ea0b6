/-
**The station table.**

The table has sixteen entries; `num_stations` is kept beside it. An id is a `StaId`, so it is inside
the table, and `none` stands for `IWL_INVALID_STATION`. What the device answers to each `REPLY_ADD_STA`
and `REPLY_REMOVE_STA` is an input, and so is `iwl_is_ready`.

Of an entry the model has what these functions read: the MAC address and the id in its command, the
flags, the context, and whether there is a link quality command, which is always filled with the id of
its entry.
-/

import Mathlib.Logic.Function.Basic
import Mathlib.Data.Fintype.Basic

namespace IntelWifi.Dvm

/-- `IWLAGN_STATION_COUNT`. -/
def iwlagnStationCount : Nat := 16

abbrev StaId := Fin iwlagnStationCount

abbrev EthAddr := Vector UInt8 6

/-- `iwl_bcast_addr`. -/
def iwlBcastAddr : EthAddr := #v[0xff, 0xff, 0xff, 0xff, 0xff, 0xff]

/-- The address after a `memset`. -/
def zeroAddr : EthAddr := #v[0, 0, 0, 0, 0, 0]

/-- `is_broadcast_ether_addr`: the conjunction of the three halfwords is `0xffff`. -/
def isBroadcastEtherAddr (addr : EthAddr) : Bool :=
  addr[0] &&& addr[2] &&& addr[4] == 0xff && addr[1] &&& addr[3] &&& addr[5] == 0xff

/-- `enum iwl_rxon_context_id`. -/
inductive CtxId where
  | bss
  | pan
  deriving DecidableEq, Repr

/-- `ap_sta_id`: `IWL_AP_ID` and `IWL_AP_ID_PAN`. -/
def CtxId.apStaId : CtxId → StaId
  | .bss => ⟨0, by decide⟩
  | .pan => ⟨1, by decide⟩

/-- `bcast_sta_id`: `IWLAGN_BROADCAST_ID` and `IWLAGN_PAN_BCAST_ID`. -/
def CtxId.bcastStaId : CtxId → StaId
  | .bss => ⟨15, by decide⟩
  | .pan => ⟨14, by decide⟩

/-- The flags of `used`, `IWL_STA_*`. -/
structure StaUsed where
  driverActive : Bool
  ucodeActive : Bool
  ucodeInprogress : Bool
  isLocal : Bool
  bcast : Bool
  deriving DecidableEq, Repr

/-- No flag is set. -/
def StaUsed.zero : StaUsed := ⟨false, false, false, false, false⟩

/-- `used` is not zero. -/
def StaUsed.any (used : StaUsed) : Bool :=
  used.driverActive || used.ucodeActive || used.ucodeInprogress || used.isLocal || used.bcast

/-- `struct iwl_station_entry`. -/
structure IwlStationEntry where
  addr : EthAddr
  staId : StaId
  used : StaUsed
  ctxid : CtxId
  lq : Bool
  deriving DecidableEq

/-- After a `memset`. -/
def IwlStationEntry.zero : IwlStationEntry := ⟨zeroAddr, ⟨0, by decide⟩, .zero, .bss, false⟩

/-- The station part of `struct iwl_priv`. -/
structure IwlPriv where
  stations : StaId → IwlStationEntry
  numStations : Int

/-- The table is empty, as after `iwl_clear_driver_stations`. -/
def IwlPriv.empty : IwlPriv := ⟨fun _ => .zero, 0⟩

/-- One entry is written. -/
def IwlPriv.setEntry (priv : IwlPriv) (id : StaId) (entry : IwlStationEntry) : IwlPriv :=
  { priv with stations := Function.update priv.stations id entry }

/-- `priv->stations[id].used` is written. -/
def IwlPriv.setUsed (priv : IwlPriv) (id : StaId) (used : StaUsed) : IwlPriv :=
  priv.setEntry id { priv.stations id with used := used }

/-- What goes wrong. -/
inductive StaError where
  | einval
  | eexist
  | eio
  | enomem
  | enoent
  | enospc
  /-- The command is not sent. -/
  | command
  deriving DecidableEq, Repr

/-- What comes of a command: it fails, or the device answers with a status. -/
inductive StaAnswer where
  | failed
  | status (code : UInt8)
  deriving DecidableEq, Repr

/-- `ADD_STA_SUCCESS_MSK` and `REM_STA_SUCCESS_MSK`. -/
def staSuccessMsk : UInt8 := 1

/-- The command is sent, and the device does what it says. -/
def StaAnswer.passed : StaAnswer → Bool
  | .failed => false
  | .status code => code == staSuccessMsk

/-! ### Commands -/

/-- `iwl_sta_ucode_activate`. -/
def iwlStaUcodeActivate (priv : IwlPriv) (id : StaId) : IwlPriv :=
  if (priv.stations id).used.ucodeActive then priv
  else priv.setUsed id { (priv.stations id).used with ucodeActive := true }

/-- `iwl_send_add_sta`, synchronously, with the id in the command. -/
def iwlSendAddSta (priv : IwlPriv) (id : StaId) : StaAnswer → Option StaError × IwlPriv
  | .failed => (some .command, priv)
  | .status code =>
    if code == staSuccessMsk then (none, iwlStaUcodeActivate priv id) else (some .eio, priv)

/-- `iwl_sta_ucode_deactivate`: the whole entry is cleared. -/
def iwlStaUcodeDeactivate (priv : IwlPriv) (id : StaId) : IwlPriv := priv.setEntry id .zero

/-- `iwl_send_remove_station`, not temporarily. -/
def iwlSendRemoveStation (priv : IwlPriv) (id : StaId) : StaAnswer → Option StaError × IwlPriv
  | .failed => (some .command, priv)
  | .status code =>
    if code == staSuccessMsk then (none, iwlStaUcodeDeactivate priv id) else (some .eio, priv)

/-- The link quality command of an entry, sent by `iwl_send_lq_cmd` with `init` set: whatever comes of
it, the addition of a driver-active station is over. -/
def iwlSendLqCmd (priv : IwlPriv) (id : StaId) : IwlPriv :=
  if (priv.stations id).used.driverActive then
    priv.setUsed id { (priv.stations id).used with ucodeInprogress := false }
  else priv

/-! ### Preparing and adding -/

/-- The ids from `IWL_STA_ID` on. -/
def scanIds : List StaId := (List.finRange iwlagnStationCount).drop 2

/-- The loop of `iwl_prep_station`: an entry with the address, else the first unused one. -/
def scanStations (priv : IwlPriv) (addr : EthAddr) : List StaId → Option StaId → Option StaId
  | [], staId => staId
  | i :: later, staId =>
    if (priv.stations i).addr = addr then some i
    else scanStations priv addr later
      (if !(priv.stations i).used.any && staId.isNone then some i else staId)

/-- The id that `iwl_prep_station` chooses. -/
def choosesSta (priv : IwlPriv) (ctx : CtxId) (addr : EthAddr) (isAp : Bool) : Option StaId :=
  if isAp then some ctx.apStaId
  else if isBroadcastEtherAddr addr then some ctx.bcastStaId
  else scanStations priv addr scanIds none

/-- `iwl_prep_station` returns early: the station is being added, or is there already. -/
def alreadyThere (priv : IwlPriv) (id : StaId) (addr : EthAddr) : Bool :=
  let entry := priv.stations id
  entry.used.ucodeInprogress ||
    entry.used.driverActive && entry.used.ucodeActive && decide (entry.addr = addr)

/-- What `iwl_prep_station` does to the entry it does not leave as it is. -/
def prepareEntry (priv : IwlPriv) (ctx : CtxId) (addr : EthAddr) (id : StaId) : IwlPriv :=
  { priv with numStations := priv.numStations + 1 }.setEntry id
    { priv.stations id with
      addr := addr
      staId := id
      used := { StaUsed.zero with driverActive := true }
      ctxid := ctx }

/-- `iwl_prep_station`. -/
def iwlPrepStation (priv : IwlPriv) (ctx : CtxId) (addr : EthAddr) (isAp : Bool) :
    Option StaId × IwlPriv :=
  match choosesSta priv ctx addr isAp with
  | none => (none, priv)
  | some id =>
    if alreadyThere priv id addr then (some id, priv) else (some id, prepareEntry priv ctx addr id)

/-- `iwl_add_station_common`, with what it leaves in `sta_id_r`. -/
def iwlAddStationCommon (priv : IwlPriv) (ctx : CtxId) (addr : EthAddr) (isAp : Bool)
    (answer : StaAnswer) : Option StaError × StaId × IwlPriv :=
  match iwlPrepStation priv ctx addr isAp with
  | (none, priv) => (some .einval, ⟨0, by decide⟩, priv)
  | (some id, priv) =>
    let used := (priv.stations id).used
    if used.ucodeInprogress then (some .eexist, ⟨0, by decide⟩, priv)
    else if used.driverActive && used.ucodeActive then (some .eexist, ⟨0, by decide⟩, priv)
    else
      let priv := priv.setUsed id { used with ucodeInprogress := true }
      match iwlSendAddSta priv (priv.stations id).staId answer with
      | (none, priv) => (none, id, priv)
      | (some e, priv) =>
        (some e, id, priv.setUsed id
          { (priv.stations id).used with driverActive := false, ucodeInprogress := false })

/-- `iwlagn_add_bssid_station`. `lqRoom`: the link quality command can be allocated. -/
def iwlagnAddBssidStation (priv : IwlPriv) (ctx : CtxId) (addr : EthAddr) (answer : StaAnswer)
    (lqRoom : Bool) : Option StaError × IwlPriv :=
  match iwlAddStationCommon priv ctx addr false answer with
  | (none, id, priv) =>
    let priv := priv.setUsed id { (priv.stations id).used with isLocal := true }
    if lqRoom then
      let priv := iwlSendLqCmd priv id
      (none, priv.setEntry id { priv.stations id with lq := true })
    else (some .enomem, priv)
  | (some e, _, priv) => (some e, priv)

/-- `iwlagn_alloc_bcast_station`. -/
def iwlagnAllocBcastStation (priv : IwlPriv) (ctx : CtxId) (lqRoom : Bool) :
    Option StaError × IwlPriv :=
  match iwlPrepStation priv ctx iwlBcastAddr false with
  | (none, priv) => (some .einval, priv)
  | (some id, priv) =>
    let priv := priv.setUsed id { (priv.stations id).used with driverActive := true, bcast := true }
    if lqRoom then (none, priv.setEntry id { priv.stations id with lq := true })
    else (some .enomem, priv)

/-- `iwl_update_bcast_station`. -/
def iwlUpdateBcastStation (priv : IwlPriv) (ctx : CtxId) (lqRoom : Bool) :
    Option StaError × IwlPriv :=
  if lqRoom then
    (none, priv.setEntry ctx.bcastStaId { priv.stations ctx.bcastStaId with lq := true })
  else (some .enomem, priv)

/-! ### Removing -/

/-- `num_stations` goes down, and a negative number is warned of and made zero. -/
def oneLess (numStations : Int) : Int := if numStations - 1 < 0 then 0 else numStations - 1

/-- `iwl_remove_station`. -/
def iwlRemoveStation (priv : IwlPriv) (ready : Bool) (staId : Option StaId) (answer : StaAnswer) :
    Option StaError × IwlPriv :=
  if !ready then (none, priv)
  else
    match staId with
    | none => (some .einval, priv)
    | some id =>
      let entry := priv.stations id
      if !entry.used.driverActive then (some .einval, priv)
      else if !entry.used.ucodeActive then (some .einval, priv)
      else
        let priv := { priv with numStations := oneLess priv.numStations }.setEntry id
          { entry with
            lq := entry.lq && !entry.used.isLocal
            used := { entry.used with driverActive := false } }
        iwlSendRemoveStation priv id answer

/-- `iwl_deactivate_station`. -/
def iwlDeactivateStation (priv : IwlPriv) (ready : Bool) (staId : Option StaId) : IwlPriv :=
  if !ready then priv
  else
    match staId with
    | none => priv
    | some id =>
      { priv with numStations := oneLess priv.numStations }.setUsed id
        { (priv.stations id).used with driverActive := false, ucodeInprogress := false }

/-- `iwl_clear_ucode_stations`, for one context or for all. -/
def iwlClearUcodeStations (priv : IwlPriv) (ctx : Option CtxId) : IwlPriv :=
  { priv with stations := fun i =>
      let entry := priv.stations i
      if ctx.any (· != entry.ctxid) then entry
      else { entry with used := { entry.used with ucodeActive := false } } }

/-- The first loop of `iwl_restore_stations`: which stations are to be restored. -/
def marksRestored (priv : IwlPriv) (ctx : CtxId) : IwlPriv :=
  { priv with stations := fun i =>
      let entry := priv.stations i
      if entry.ctxid = ctx ∧ entry.used.driverActive = true ∧ entry.used.ucodeActive = false then
        { entry with used := { entry.used with ucodeInprogress := true } }
      else entry }

/-- One turn of the second loop of `iwl_restore_stations`. -/
def restoreStation (answers : StaId → StaAnswer) (priv : IwlPriv) (i : StaId) : IwlPriv :=
  let entry := priv.stations i
  if entry.used.ucodeInprogress then
    match iwlSendAddSta priv entry.staId (answers i) with
    | (some _, priv) =>
      priv.setUsed i
        { (priv.stations i).used with driverActive := false, ucodeInprogress := false }
    | (none, priv) =>
      let priv := if entry.lq then iwlSendLqCmd priv i else priv
      priv.setUsed i { (priv.stations i).used with ucodeInprogress := false }
  else priv

/-- `iwl_restore_stations`. -/
def iwlRestoreStations (priv : IwlPriv) (ready : Bool) (ctx : CtxId) (answers : StaId → StaAnswer) :
    IwlPriv :=
  if !ready then priv
  else (List.finRange iwlagnStationCount).foldl (restoreStation answers) (marksRestored priv ctx)

/-- One turn of `iwl_dealloc_bcast_stations`. -/
def deallocStation (priv : IwlPriv) (i : StaId) : IwlPriv :=
  let entry := priv.stations i
  if entry.used.bcast then
    { priv with numStations := oneLess priv.numStations }.setEntry i
      { entry with lq := false, used := { entry.used with ucodeActive := false } }
  else priv

/-- `iwl_dealloc_bcast_stations`. -/
def iwlDeallocBcastStations (priv : IwlPriv) : IwlPriv :=
  (List.finRange iwlagnStationCount).foldl deallocStation priv

/-! ### Runs -/

/-- A call of a function of the station table. -/
inductive StaOp where
  | prep (ctx : CtxId) (addr : EthAddr) (isAp : Bool)
  | add (ctx : CtxId) (addr : EthAddr) (isAp : Bool) (answer : StaAnswer)
  | addBssid (ctx : CtxId) (addr : EthAddr) (answer : StaAnswer) (lqRoom : Bool)
  | activate (id : StaId)
  | remove (ready : Bool) (staId : Option StaId) (answer : StaAnswer)
  | deactivate (ready : Bool) (staId : Option StaId)
  | clearUcode (ctx : Option CtxId)
  | restore (ready : Bool) (ctx : CtxId) (answers : StaId → StaAnswer)
  | allocBcast (ctx : CtxId) (lqRoom : Bool)
  | updateBcast (ctx : CtxId) (lqRoom : Bool)
  | deallocBcast
  | clearDriver

/-- What the call does to the table. -/
def StaOp.apply (priv : IwlPriv) : StaOp → IwlPriv
  | .prep ctx addr isAp => (iwlPrepStation priv ctx addr isAp).2
  | .add ctx addr isAp answer => (iwlAddStationCommon priv ctx addr isAp answer).2.2
  | .addBssid ctx addr answer lqRoom => (iwlagnAddBssidStation priv ctx addr answer lqRoom).2
  | .activate id => iwlStaUcodeActivate priv id
  | .remove ready staId answer => (iwlRemoveStation priv ready staId answer).2
  | .deactivate ready staId => iwlDeactivateStation priv ready staId
  | .clearUcode ctx => iwlClearUcodeStations priv ctx
  | .restore ready ctx answers => iwlRestoreStations priv ready ctx answers
  | .allocBcast ctx lqRoom => (iwlagnAllocBcastStation priv ctx lqRoom).2
  | .updateBcast ctx lqRoom => (iwlUpdateBcastStation priv ctx lqRoom).2
  | .deallocBcast => iwlDeallocBcastStations priv
  | .clearDriver => .empty

/-! ### What the calls do to an entry -/

section Entries

variable {priv : IwlPriv} {id other : StaId} {entry : IwlStationEntry} {used : StaUsed}

@[simp] theorem setEntry_numStations : (priv.setEntry id entry).numStations = priv.numStations := rfl

@[simp] theorem setEntry_same : (priv.setEntry id entry).stations id = entry := by
  unfold IwlPriv.setEntry
  exact Function.update_self ..

@[simp] theorem setEntry_other (apart : other ≠ id) :
    (priv.setEntry id entry).stations other = priv.stations other := by
  unfold IwlPriv.setEntry
  exact Function.update_of_ne apart ..

@[simp] theorem setEntry_setEntry (again : IwlStationEntry) :
    (priv.setEntry id entry).setEntry id again = priv.setEntry id again := by
  unfold IwlPriv.setEntry
  rw [Function.update_idem]

@[simp] theorem setUsed_numStations : (priv.setUsed id used).numStations = priv.numStations := rfl

@[simp] theorem setUsed_same :
    (priv.setUsed id used).stations id = { priv.stations id with used := used } := setEntry_same

@[simp] theorem setUsed_other (apart : other ≠ id) :
    (priv.setUsed id used).stations other = priv.stations other := setEntry_other apart

@[simp] theorem setUsed_setUsed (again : StaUsed) :
    (priv.setUsed id used).setUsed id again = priv.setUsed id again := by
  unfold IwlPriv.setUsed
  rw [setEntry_same, setEntry_setEntry]

@[simp] theorem prepareEntry_same (priv : IwlPriv) (ctx : CtxId) (addr : EthAddr) (id : StaId) :
    (prepareEntry priv ctx addr id).stations id =
      ⟨addr, id, { StaUsed.zero with driverActive := true }, ctx, (priv.stations id).lq⟩ :=
  setEntry_same

end Entries

/-- The error of a command with this answer. -/
def StaAnswer.error : StaAnswer → Option StaError
  | .failed => some .command
  | .status code => if code == staSuccessMsk then none else some .eio

theorem StaAnswer.error_none_iff (answer : StaAnswer) : answer.error = none ↔ answer.passed = true := by
  cases answer with
  | failed => simp [error, passed]
  | status code =>
    unfold error passed
    split <;> simp_all

theorem sendAddSta_eq (priv : IwlPriv) (id : StaId) (answer : StaAnswer) :
    iwlSendAddSta priv id answer =
      (answer.error, if answer.passed then iwlStaUcodeActivate priv id else priv) := by
  cases answer with
  | failed => rfl
  | status code =>
    unfold iwlSendAddSta StaAnswer.error StaAnswer.passed
    dsimp only
    split <;> rfl

theorem sendRemoveStation_eq (priv : IwlPriv) (id : StaId) (answer : StaAnswer) :
    iwlSendRemoveStation priv id answer =
      (answer.error, if answer.passed then iwlStaUcodeDeactivate priv id else priv) := by
  cases answer with
  | failed => rfl
  | status code =>
    unfold iwlSendRemoveStation StaAnswer.error StaAnswer.passed
    dsimp only
    split <;> rfl

/-- The flags after `iwl_add_station_common` has prepared an entry and sent its command. -/
def addedUsed (answer : StaAnswer) : StaUsed :=
  if answer.passed then ⟨true, true, true, false, false⟩ else .zero

/-- The checks behind `iwl_prep_station` refuse a station that is there already. -/
theorem alreadyThere_refused {α : Type} {priv : IwlPriv} {id : StaId} {addr : EthAddr}
    (there : alreadyThere priv id addr = true) (refused added : α) :
    (if (priv.stations id).used.ucodeInprogress then refused
      else if (priv.stations id).used.driverActive && (priv.stations id).used.ucodeActive then refused
      else added) = refused := by
  by_cases progress : (priv.stations id).used.ucodeInprogress = true
  · rw [if_pos progress]
  · unfold alreadyThere at there
    rw [Bool.or_eq_true, Bool.and_eq_true] at there
    rw [if_neg progress, if_pos (there.resolve_left progress).1]

/-- **The cases of `iwl_add_station_common`**: nothing is prepared, the station is there already, or its
entry is prepared and its command sent. -/
theorem addStationCommon_eq (priv : IwlPriv) (ctx : CtxId) (addr : EthAddr) (isAp : Bool)
    (answer : StaAnswer) :
    iwlAddStationCommon priv ctx addr isAp answer =
      match choosesSta priv ctx addr isAp with
      | none => (some .einval, ⟨0, by decide⟩, priv)
      | some id =>
        if alreadyThere priv id addr then (some .eexist, ⟨0, by decide⟩, priv)
        else (answer.error, id, (prepareEntry priv ctx addr id).setUsed id (addedUsed answer)) := by
  unfold iwlAddStationCommon iwlPrepStation
  cases choosesSta priv ctx addr isAp with
  | none => rfl
  | some id =>
    dsimp only
    by_cases there : alreadyThere priv id addr = true
    · rw [if_pos there, if_pos there]
      exact alreadyThere_refused there _ _
    · rw [if_neg there, if_neg there]
      dsimp only
      rw [sendAddSta_eq]
      unfold addedUsed
      cases passed : answer.passed with
      | false =>
        cases error : answer.error with
        | none => rw [(answer.error_none_iff).mp error] at passed; cases passed
        | some e => simp [StaUsed.zero]
      | true => simp [(answer.error_none_iff).mpr passed, iwlStaUcodeActivate, StaUsed.zero]

/-- The entry that a turn of `iwl_restore_stations` leaves when the station passes. -/
def restoredStation (priv : IwlPriv) (i : StaId) : IwlPriv :=
  let sent := iwlStaUcodeActivate priv (priv.stations i).staId
  let sent := if (priv.stations i).lq then iwlSendLqCmd sent i else sent
  sent.setUsed i { (sent.stations i).used with ucodeInprogress := false }

theorem restoreStation_eq (answers : StaId → StaAnswer) (priv : IwlPriv) (i : StaId) :
    restoreStation answers priv i =
      if (priv.stations i).used.ucodeInprogress then
        if (answers i).passed then restoredStation priv i
        else priv.setUsed i
          { (priv.stations i).used with driverActive := false, ucodeInprogress := false }
      else priv := by
  unfold restoreStation
  dsimp only
  rw [sendAddSta_eq]
  cases passed : (answers i).passed with
  | true =>
    rw [((answers i).error_none_iff).mpr passed]
    rfl
  | false =>
    cases error : (answers i).error with
    | none =>
      rw [((answers i).error_none_iff).mp error] at passed
      cases passed
    | some e => rfl

end IntelWifi.Dvm
