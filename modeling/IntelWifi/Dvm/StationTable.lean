/-
**The station table and the firmware's.**

`IWL_STA_UCODE_ACTIVE` says that the firmware holds a station. Beside the driver's table the model has the
firmware's: `REPLY_ADD_STA` writes an entry, `REPLY_REMOVE_STA` drops what has its address, and an
un-associated RXON drops what is of its context, which the firmware knows from `STA_FLG_PAN_STATION`. A
command that fails in the driver may have been carried out all the same.

* `restoreStations_back`: what `iwl_restore_stations` leaves active is in the firmware.
* `table_sound_iff`: when a call keeps the flags sound and, if it disconnects a context, has its stations
  back.
* `stationTable_iff`: the runs that are sound all along are those whose calls all do.
-/

import IntelWifi.Dvm.Rxon
import IntelWifi.Lib.Shadow

namespace IntelWifi.Dvm.StationTable

open Rxon Shadow

/-- A station, as the firmware has it. -/
structure FwStation where
  addr : EthAddr
  ctxid : CtxId
  deriving DecidableEq

/-- What becomes of `REPLY_ADD_STA` or `REPLY_REMOVE_STA`. `unseen`: it fails in the driver, and the firmware
carries it out. -/
structure StaReply where
  answer : StaAnswer
  unseen : Bool

/-- The firmware carries it out. -/
def StaReply.done (reply : StaReply) : Bool :=
  match reply.answer with
  | .failed => reply.unseen
  | .status code => code == staSuccessMsk

/-- The driver's table and the firmware's. -/
structure Table where
  priv : IwlPriv
  firmware : StaId → Option FwStation

/-! ### Commands -/

/-- What an entry says of its station. -/
def stationOf (entry : IwlStationEntry) : FwStation := ⟨entry.addr, entry.ctxid⟩

/-- `REPLY_ADD_STA` with the command of an entry. -/
def takesAddSta (firmware : StaId → Option FwStation) (entry : IwlStationEntry) (reply : StaReply) :
    StaId → Option FwStation :=
  if reply.done then Function.update firmware entry.staId (some (stationOf entry)) else firmware

/-- `REPLY_REMOVE_STA` with an address. -/
def takesRemoveSta (firmware : StaId → Option FwStation) (addr : EthAddr) (reply : StaReply) :
    StaId → Option FwStation :=
  if reply.done then drop firmware (·.addr == addr) else firmware

/-- The entry whose command `iwl_add_station_common` sends. -/
def addCommand (priv : IwlPriv) (ctx : CtxId) (addr : EthAddr) (isAp : Bool) : Option IwlStationEntry :=
  match iwlPrepStation priv ctx addr isAp with
  | (none, _) => none
  | (some id, priv) =>
    let used := (priv.stations id).used
    if used.ucodeInprogress then none
    else if used.driverActive && used.ucodeActive then none
    else some (priv.stations id)

/-- `iwl_add_station_common`, as the firmware sees it. -/
def takesAddStation (table : Table) (ctx : CtxId) (addr : EthAddr) (isAp : Bool) (reply : StaReply) :
    StaId → Option FwStation :=
  match addCommand table.priv ctx addr isAp with
  | none => table.firmware
  | some entry => takesAddSta table.firmware entry reply

/-- `iwl_remove_station` gets to its command. -/
def removes (priv : IwlPriv) (ready : Bool) (staId : Option StaId) : Bool :=
  ready && staId.any fun id => (priv.stations id).used.driverActive && (priv.stations id).used.ucodeActive

/-- `iwl_remove_station`, with the address it is given. -/
def removeStation (table : Table) (ready : Bool) (staId : Option StaId) (addr : EthAddr) (reply : StaReply) :
    Table where
  priv := (iwlRemoveStation table.priv ready staId reply.answer).2
  firmware :=
    if removes table.priv ready staId then takesRemoveSta table.firmware addr reply else table.firmware

/-- One turn of the second loop of `iwl_restore_stations`. -/
def restoreOne (replies : StaId → StaReply) (table : Table) (i : StaId) : Table where
  priv := restoreStation (fun i => (replies i).answer) table.priv i
  firmware :=
    if (table.priv.stations i).used.ucodeInprogress then
      takesAddSta table.firmware (table.priv.stations i) (replies i)
    else table.firmware

/-- `iwl_restore_stations`. -/
def restoreStations (table : Table) (ready : Bool) (ctx : CtxId) (replies : StaId → StaReply) : Table :=
  if !ready then table
  else (List.finRange iwlagnStationCount).foldl (restoreOne replies)
    { table with priv := marksRestored table.priv ctx }

/-- The driver's part is `iwl_restore_stations` without the firmware. -/
theorem restoreStations_priv (table : Table) (ready : Bool) (ctx : CtxId) (replies : StaId → StaReply) :
    (restoreStations table ready ctx replies).priv =
      iwlRestoreStations table.priv ready ctx fun i => (replies i).answer := by
  have turns (ids : List StaId) (table : Table) : (ids.foldl (restoreOne replies) table).priv =
      ids.foldl (restoreStation fun i => (replies i).answer) table.priv := by
    induction ids generalizing table with
    | nil => rfl
    | cons i later ih => exact ih (restoreOne replies table i)
  unfold restoreStations iwlRestoreStations
  cases ready with
  | false => rfl
  | true => exact turns _ _

/-! ### Disconnecting -/

/-- A call of `iwlagn_commit_rxon`, with what becomes of the restoring. -/
structure TableCommit where
  call : CommitCall
  ready : Bool
  lqRoom : Bool
  replies : StaId → StaReply

/-- An RXON is sent: an un-associated one drops the stations of its context. -/
def Table.sendRxon (table : Table) (call : CommitCall) (command : CommitCommand) (image : RxonCmd) : Table :=
  if (call.reply command).accepted && !image.assoc then
    { table with firmware := drop table.firmware (·.ctxid == call.ctx) }
  else table

/-- `iwlagn_disable_bss`. -/
def disableBss (call : CommitCall) (table : Table) : Option CommitCommand × Table :=
  let table := table.sendRxon call .disableRxon call.image.withoutAssoc
  if !(call.reply .disableRxon).passed then (some .disableRxon, table) else (none, table)

/-- `iwlagn_disable_pan`, the timing and `iwlagn_disconn_pan`. -/
def disablePan (call : CommitCall) (table : Table) : Option CommitCommand × Table :=
  let table := table.sendRxon call .disableRxon call.image.disabledPan
  if !(call.reply .disableRxon).passed then (some .disableRxon, table)
  else if !(call.reply .panWait).passed then (some .panWait, table)
  else if call.vif.isNone then (none, table)
  else if !(call.reply .disconnTiming).passed then (some .disconnTiming, table)
  else
    let table := table.sendRxon call .disconnRxon call.image.withoutAssoc
    if !(call.reply .disconnRxon).passed then (some .disconnRxon, table) else (none, table)

/-- What `iwlagn_rxon_disconn` does to the tables once the firmware is disconnected. -/
def restores (commit : TableCommit) (table : Table) : Table :=
  let priv := iwlClearUcodeStations table.priv (some commit.call.ctx)
  let priv := (iwlUpdateBcastStation priv commit.call.ctx commit.lqRoom).2
  restoreStations { table with priv := priv } commit.ready commit.call.ctx commit.replies

/-- `iwlagn_rxon_disconn`. -/
def rxonDisconn (commit : TableCommit) (table : Table) : Option CommitCommand × Table :=
  let (failed, table) :=
    match commit.call.ctx with
    | .bss => disableBss commit.call table
    | .pan => disablePan commit.call table
  if failed.isSome then (failed, table)
  else
    let table := restores commit table
    if !(commit.call.reply .wepKeys).passed then (some .wepKeys, table) else (none, table)

/-- It fails just where it fails without the tables. -/
theorem rxonDisconn_fst (commit : TableCommit) (table : Table) (st : RxonState) :
    (rxonDisconn commit table).1 = (iwlagnRxonDisconn commit.call st).1 := by
  unfold rxonDisconn iwlagnRxonDisconn
  cases commit.call.ctx with
  | bss =>
    unfold disableBss disconnBss
    cases (commit.call.reply .disableRxon).passed <;> cases (commit.call.reply .wepKeys).passed <;> rfl
  | pan =>
    unfold disablePan disconnPan
    cases (commit.call.reply .disableRxon).passed <;> cases (commit.call.reply .panWait).passed <;>
      cases commit.call.vif.isNone <;> cases (commit.call.reply .disconnTiming).passed <;>
      cases (commit.call.reply .disconnRxon).passed <;> cases (commit.call.reply .wepKeys).passed <;> rfl

/-- `iwlagn_rxon_connect`, of which the tables see the RXON. -/
def rxonConnect (call : CommitCall) (table : Table) : Table :=
  if call.ctx = .bss ∧ (call.reply .connectTiming).passed = false then table
  else table.sendRxon call .connectRxon call.image

/-! ### Runs -/

/-- The tables, the RXONs, and the context that the last call has disconnected. -/
structure TableState where
  table : Table
  rxon : RxonState
  disconnected : Option CtxId

/-- `iwlagn_commit_rxon`. -/
def commitRxon (commit : TableCommit) (st : TableState) : TableState :=
  let call := commit.call
  let rxon := (iwlagnCommitRxon call st.rxon).2
  if !call.needsFull (st.rxon.active call.ctx) then ⟨st.table, rxon, none⟩
  else
    let (failed, table) := rxonDisconn commit st.table
    if failed.isSome then ⟨table, rxon, none⟩
    else if call.panActive && !(call.reply .panParams).passed then ⟨table, rxon, some call.ctx⟩
    else if call.staging.assoc then ⟨rxonConnect call table, rxon, some call.ctx⟩
    else ⟨table, rxon, some call.ctx⟩

/-- A call. -/
inductive TableOp where
  | add (ctx : CtxId) (addr : EthAddr) (isAp : Bool) (reply : StaReply)
  | addBssid (ctx : CtxId) (addr : EthAddr) (reply : StaReply) (lqRoom : Bool)
  | allocBcast (ctx : CtxId) (lqRoom : Bool)
  | remove (ready : Bool) (staId : Option StaId) (addr : EthAddr) (reply : StaReply)
  | deactivate (ready : Bool) (staId : Option StaId)
  | restore (ready : Bool) (ctx : CtxId) (replies : StaId → StaReply)
  | commit (commit : TableCommit)

/-- What the call does to the tables. -/
def TableOp.apply (st : TableState) : TableOp → TableState
  | .add ctx addr isAp reply =>
    { st with
      table := ⟨(iwlAddStationCommon st.table.priv ctx addr isAp reply.answer).2.2,
        takesAddStation st.table ctx addr isAp reply⟩
      disconnected := none }
  | .addBssid ctx addr reply lqRoom =>
    { st with
      table := ⟨(iwlagnAddBssidStation st.table.priv ctx addr reply.answer lqRoom).2,
        takesAddStation st.table ctx addr false reply⟩
      disconnected := none }
  | .allocBcast ctx lqRoom =>
    { st with
      table := ⟨(iwlagnAllocBcastStation st.table.priv ctx lqRoom).2, st.table.firmware⟩
      disconnected := none }
  | .remove ready staId addr reply =>
    { st with table := removeStation st.table ready staId addr reply, disconnected := none }
  | .deactivate ready staId =>
    { st with
      table := ⟨iwlDeactivateStation st.table.priv ready staId, st.table.firmware⟩
      disconnected := none }
  | .restore ready ctx replies =>
    { st with table := restoreStations st.table ready ctx replies, disconnected := none }
  | .commit given => commitRxon given st

def tableStep (st : TableState) (op : TableOp) : Option TableState := some (op.apply st)

/-- The firmware is just loaded, and no station is there yet. -/
def TableState.loaded (rxon : RxonState) : TableState := ⟨⟨.empty, fun _ => none⟩, rxon, none⟩

/-- **The flags are sound**: an entry that is active in the firmware is there, with its address; and when a
context was just disconnected, what is still active in the driver is active in the firmware. -/
structure TableSound (st : TableState) : Prop where
  held : ∀ i, (st.table.priv.stations i).used.ucodeActive = true →
    ∃ station, st.table.firmware i = some station ∧ station.addr = (st.table.priv.stations i).addr
  back : ∀ ctx, st.disconnected = some ctx → ∀ i, (st.table.priv.stations i).ctxid = ctx →
    (st.table.priv.stations i).used.driverActive = true → (st.table.priv.stations i).used.ucodeActive = true

/-! ### When a call keeps it -/

/-- No command of `iwlagn_rxon_disconn` fails before `iwl_clear_ucode_stations`. -/
def clears (call : CommitCall) : Bool :=
  (call.reply .disableRxon).passed &&
  (match call.ctx with
    | .bss => true
    | .pan => (call.reply .panWait).passed &&
        (call.vif.isNone || (call.reply .disconnTiming).passed && (call.reply .disconnRxon).passed))

/-- No entry of the context has a flag. -/
def noneOf (priv : IwlPriv) (ctx : CtxId) (flag : StaUsed → Bool) : Bool :=
  decide (∀ i, (priv.stations i).ctxid = ctx → flag (priv.stations i).used = false)

/-- **When a call keeps the flags sound.** A removal that the firmware carries out: the driver sees it, and no
other active entry has its address. A disconnection: if it fails before the flags are cleared, the firmware
has not accepted its RXON, or no entry of the context is active in the firmware; if it succeeds, the device is
ready, or no entry of the context is active in the driver. -/
def keepsTable (st : TableState) : TableOp → Bool
  | .remove ready staId addr reply =>
    !(removes st.table.priv ready staId && reply.done) ||
      decide (∀ j, (st.table.priv.stations j).used.ucodeActive = true → (st.table.priv.stations j).addr = addr →
        staId = some j ∧ reply.answer.passed = true)
  | .commit given =>
    let call := given.call
    if !call.needsFull (st.rxon.active call.ctx) then true
    else if !clears call then
      !(call.reply .disableRxon).accepted || noneOf st.table.priv call.ctx StaUsed.ucodeActive
    else
      !(call.reply .wepKeys).passed || given.ready || noneOf st.table.priv call.ctx StaUsed.driverActive
  | _ => true

/-! ### Entries -/

/-- What an entry claims of the firmware. -/
def claim (entry : IwlStationEntry) : Option FwStation :=
  if entry.used.ucodeActive then some (stationOf entry) else none

/-- A station that is active, or being added, has its own id in its command. -/
def Placed (i : StaId) (entry : IwlStationEntry) : Prop :=
  (entry.used.driverActive || entry.used.ucodeInprogress) = true → entry.staId = i

/-- **The tables are consistent.** -/
structure Consistent (table : Table) : Prop where
  placed : ∀ i, Placed i (table.priv.stations i)
  held : Sound (fun i => claim (table.priv.stations i)) table.firmware

/-- An entry claims no more than before, and is where it was. -/
structure Within (i : StaId) (entry entry' : IwlStationEntry) : Prop where
  fewer : ∀ station, claim entry' = some station → claim entry = some station
  placed : Placed i entry → Placed i entry'

section Entries

variable {i id : StaId} {entry entry' entry'' : IwlStationEntry} {priv priv' : IwlPriv}
  {firmware : StaId → Option FwStation} {station : FwStation}

theorem claim_eq_some : claim entry = some station ↔ entry.used.ucodeActive = true ∧ stationOf entry = station := by
  unfold claim
  cases entry.used.ucodeActive <;> simp

theorem Within.refl : Within i entry entry := ⟨fun _ claimed => claimed, fun placed => placed⟩

theorem Within.trans (first : Within i entry entry') (second : Within i entry' entry'') :
    Within i entry entry'' :=
  ⟨fun station claimed => first.fewer station (second.fewer station claimed),
    fun placed => second.placed (first.placed placed)⟩

/-- Flags are taken back, and the addition of an active station may begin. -/
theorem Within.used {used : StaUsed} {lq : Bool}
    (ucode : used.ucodeActive = true → entry.used.ucodeActive = true)
    (active : (used.driverActive || used.ucodeInprogress) = true →
      (entry.used.driverActive || entry.used.ucodeInprogress) = true) :
    Within i entry { entry with used := used, lq := lq } where
  fewer := by
    intro station claimed
    obtain ⟨set, same⟩ := claim_eq_some.mp claimed
    exact claim_eq_some.mpr ⟨ucode set, same⟩
  placed := fun placed set => placed (active set)

theorem within_zero : Within i entry .zero :=
  ⟨fun _ claimed => Bool.noConfusion (claim_eq_some.mp claimed).1, fun _ set => Bool.noConfusion set⟩

/-- One entry is written. -/
theorem within_setEntry (here : Within id (priv.stations id) entry) (i : StaId) :
    Within i (priv.stations i) ((priv.setEntry id entry).stations i) := by
  by_cases same : i = id
  · subst same
    rw [setEntry_same]
    exact here
  · rw [setEntry_other same]
    exact .refl

theorem within_setUsed {used : StaUsed}
    (ucode : used.ucodeActive = true → (priv.stations id).used.ucodeActive = true)
    (active : (used.driverActive || used.ucodeInprogress) = true →
      ((priv.stations id).used.driverActive || (priv.stations id).used.ucodeInprogress) = true) (i : StaId) :
    Within i (priv.stations i) ((priv.setUsed id used).stations i) :=
  within_setEntry (.used ucode active) i

/-- The addition of a station is over. -/
theorem within_over (priv : IwlPriv) (id i : StaId) : Within i (priv.stations i)
    ((priv.setUsed id { (priv.stations id).used with ucodeInprogress := false }).stations i) := by
  refine within_setUsed ?_ ?_ i
  · exact fun set => set
  · intro set
    rw [Bool.or_false] at set
    rw [set, Bool.true_or]

theorem within_sendLqCmd (priv : IwlPriv) (id i : StaId) :
    Within i (priv.stations i) ((iwlSendLqCmd priv id).stations i) := by
  unfold iwlSendLqCmd
  split
  · exact within_over priv id i
  · exact .refl

/-- Tables stay consistent when no entry claims more. -/
theorem Consistent.within (consistent : Consistent ⟨priv, firmware⟩)
    (within : ∀ i, Within i (priv.stations i) (priv'.stations i)) : Consistent ⟨priv', firmware⟩ :=
  ⟨fun i => (within i).placed (consistent.placed i),
    consistent.held.fewer fun i station claimed => (within i).fewer station claimed⟩

/-- **A station is written** in both tables. -/
theorem Consistent.write (consistent : Consistent ⟨priv, firmware⟩) (placed : Placed i entry)
    {held : StaId → Option FwStation}
    (written : held = Function.update firmware i (some (stationOf entry)) ∨
      held = firmware ∧ (entry.used.ucodeActive = true → claim (priv.stations i) = some (stationOf entry))) :
    Consistent ⟨priv.setEntry i entry, held⟩ := by
  refine ⟨fun j => ?_, ?_⟩
  · dsimp only
    by_cases same : j = i
    · subst same
      rw [setEntry_same]
      exact placed
    · rw [setEntry_other same]
      exact consistent.placed j
  · rcases written with rfl | ⟨rfl, claimed⟩
    · refine consistent.held.put (fun station claimed => ?_) fun j apart => ?_
      · dsimp only at claimed
        rw [setEntry_same] at claimed
        exact (claim_eq_some.mp claimed).2.symm
      · dsimp only
        rw [setEntry_other apart]
    · refine consistent.held.fewer fun j station after => ?_
      dsimp only at after ⊢
      by_cases same : j = i
      · subst same
        rw [setEntry_same] at after
        obtain ⟨set, rfl⟩ := claim_eq_some.mp after
        exact claimed set
      · rw [setEntry_other same] at after
        exact after

end Entries

theorem done_of_passed {reply : StaReply} (passed : reply.answer.passed = true) : reply.done = true := by
  unfold StaReply.done
  cases answer : reply.answer with
  | failed =>
    rw [answer] at passed
    cases passed
  | status code =>
    rw [answer] at passed
    exact passed

/-! ### Adding -/

/-- The command that is sent is the prepared entry's. -/
theorem addCommand_eq (priv : IwlPriv) (ctx : CtxId) (addr : EthAddr) (isAp : Bool) :
    addCommand priv ctx addr isAp =
      match choosesSta priv ctx addr isAp with
      | none => none
      | some id =>
        if alreadyThere priv id addr then none
        else some ⟨addr, id, { StaUsed.zero with driverActive := true }, ctx, (priv.stations id).lq⟩ := by
  unfold addCommand iwlPrepStation
  cases choosesSta priv ctx addr isAp with
  | none => rfl
  | some id =>
    dsimp only
    by_cases there : alreadyThere priv id addr = true
    · rw [if_pos there, if_pos there]
      exact alreadyThere_refused there _ _
    · rw [if_neg there, if_neg there]
      dsimp only
      rw [prepareEntry_same]
      rfl

variable {table : Table}

/-- **An addition.** -/
theorem addStation_consistent (consistent : Consistent table) (ctx : CtxId) (addr : EthAddr) (isAp : Bool)
    (reply : StaReply) :
    Consistent ⟨(iwlAddStationCommon table.priv ctx addr isAp reply.answer).2.2,
      takesAddStation table ctx addr isAp reply⟩ := by
  unfold takesAddStation
  rw [addStationCommon_eq, addCommand_eq]
  cases choosesSta table.priv ctx addr isAp with
  | none => exact consistent
  | some id =>
    dsimp only
    by_cases there : alreadyThere table.priv id addr = true
    · rw [if_pos there, if_pos there]
      exact consistent
    · rw [if_neg there, if_neg there]
      dsimp only
      unfold IwlPriv.setUsed
      rw [prepareEntry_same]
      unfold prepareEntry
      rw [setEntry_setEntry]
      refine @Consistent.write id _ { table.priv with numStations := table.priv.numStations + 1 }
        table.firmware ⟨consistent.placed, consistent.held⟩ (fun _ => rfl) _ ?_
      unfold takesAddSta
      cases done : reply.done with
      | true => exact .inl rfl
      | false =>
        refine .inr ⟨rfl, fun set => ?_⟩
        have fails : reply.answer.passed = false := by
          by_contra passed
          rw [done_of_passed (Bool.eq_true_of_not_eq_false passed)] at done
          cases done
        unfold addedUsed at set
        rw [fails] at set
        cases set

/-- What follows an addition claims nothing new. -/
theorem addBssid_within (priv : IwlPriv) (ctx : CtxId) (addr : EthAddr) (answer : StaAnswer) (lqRoom : Bool)
    (i : StaId) : Within i ((iwlAddStationCommon priv ctx addr false answer).2.2.stations i)
      ((iwlagnAddBssidStation priv ctx addr answer lqRoom).2.stations i) := by
  unfold iwlagnAddBssidStation
  generalize iwlAddStationCommon priv ctx addr false answer = result
  obtain ⟨error, id, added⟩ := result
  cases error with
  | some e => exact .refl
  | none =>
    dsimp only
    have marked := @within_setEntry id { added.stations id with
      used := { (added.stations id).used with isLocal := true } } added (.used (fun set => set) fun set => set) i
    cases lqRoom with
    | false => exact marked
    | true =>
      exact (marked.trans (within_sendLqCmd _ id i)).trans
        (within_setEntry (.used (fun set => set) fun set => set) i)

/-- **A broadcast station is allocated.** -/
theorem allocBcast_consistent (consistent : Consistent table) (ctx : CtxId) (lqRoom : Bool) :
    Consistent ⟨(iwlagnAllocBcastStation table.priv ctx lqRoom).2, table.firmware⟩ := by
  -- The entry that is marked is placed, be it prepared or there already.
  have marks {priv : IwlPriv} {id : StaId} (prepared : Consistent ⟨priv, table.firmware⟩)
      (staId : (priv.stations id).staId = id) (lq : Bool) :
      Consistent ⟨priv.setEntry id { priv.stations id with
        used := { (priv.stations id).used with driverActive := true, bcast := true }, lq := lq },
        table.firmware⟩ :=
    prepared.within (within_setEntry
      ⟨fun _ claimed => claim_eq_some.mpr (claim_eq_some.mp claimed), fun _ _ => staId⟩)
  unfold iwlagnAllocBcastStation iwlPrepStation
  cases choosesSta table.priv ctx iwlBcastAddr false with
  | none => exact consistent
  | some id =>
    dsimp only
    have ends {priv : IwlPriv} (prepared : Consistent ⟨priv, table.firmware⟩)
        (staId : (priv.stations id).staId = id) :
        Consistent ⟨(if lqRoom then (none, (priv.setUsed id
            { (priv.stations id).used with driverActive := true, bcast := true }).setEntry id
            { (priv.setUsed id { (priv.stations id).used with driverActive := true, bcast := true }).stations id with
              lq := true })
          else (some StaError.enomem, priv.setUsed id
            { (priv.stations id).used with driverActive := true, bcast := true })).2, table.firmware⟩ := by
      cases lqRoom with
      | false => exact marks prepared staId _
      | true =>
        rw [if_pos rfl]
        dsimp only
        unfold IwlPriv.setUsed
        rw [setEntry_setEntry, setEntry_same]
        exact marks prepared staId true
    by_cases there : alreadyThere table.priv id iwlBcastAddr = true
    · rw [if_pos there]
      refine ends consistent (consistent.placed id ?_)
      unfold alreadyThere at there
      rw [Bool.or_eq_true, Bool.and_eq_true, Bool.and_eq_true] at there
      rcases there with progress | ⟨⟨active, _⟩, _⟩
      · rw [progress, Bool.or_true]
      · rw [active, Bool.true_or]
    · rw [if_neg there]
      refine ends ?_ (by rw [prepareEntry_same])
      unfold prepareEntry
      exact @Consistent.write id _ { table.priv with numStations := table.priv.numStations + 1 }
        table.firmware ⟨consistent.placed, consistent.held⟩ (fun _ => rfl) _
        (.inr ⟨rfl, fun set => Bool.noConfusion set⟩)

/-! ### Removing -/

/-- **A removal, in the driver's table**: the entry is cleared when the command passes, else it is no longer
active in the driver. -/
theorem removeStation_eq (priv : IwlPriv) (ready : Bool) (staId : Option StaId) (answer : StaAnswer) :
    (iwlRemoveStation priv ready staId answer).2 =
      if removes priv ready staId then
        match staId with
        | none => priv
        | some id =>
          { priv with numStations := oneLess priv.numStations }.setEntry id
            (if answer.passed then .zero
            else { priv.stations id with
              lq := (priv.stations id).lq && !(priv.stations id).used.isLocal
              used := { (priv.stations id).used with driverActive := false } })
      else priv := by
  unfold iwlRemoveStation removes
  cases ready with
  | false => rfl
  | true =>
    cases staId with
    | none => rfl
    | some id =>
      simp only [Bool.not_true, Bool.false_eq_true, if_false, Option.any_some, Bool.true_and]
      cases driver : (priv.stations id).used.driverActive with
      | false => simp only [Bool.not_false, if_true, Bool.false_and, Bool.false_eq_true, if_false]
      | true =>
        cases ucode : (priv.stations id).used.ucodeActive with
        | false =>
          simp only [Bool.not_true, Bool.not_false, if_true, Bool.and_false, Bool.false_eq_true, if_false]
        | true =>
          simp only [Bool.not_true, Bool.false_eq_true, if_false, Bool.and_self, if_true]
          rw [sendRemoveStation_eq]
          cases answer.passed with
          | false => rfl
          | true =>
            show iwlStaUcodeDeactivate _ id = _
            unfold iwlStaUcodeDeactivate
            rw [setEntry_setEntry]
            rfl

/-- No entry claims more after a removal. -/
theorem removeStation_within (priv : IwlPriv) (ready : Bool) (staId : Option StaId) (answer : StaAnswer)
    (i : StaId) : Within i (priv.stations i) ((iwlRemoveStation priv ready staId answer).2.stations i) := by
  rw [removeStation_eq]
  split
  · cases staId with
    | none => exact .refl
    | some id =>
      refine @within_setEntry id _ { priv with numStations := oneLess priv.numStations } ?_ i
      split
      · exact within_zero
      · refine .used (fun set => set) fun set => ?_
        rw [Bool.false_or] at set
        rw [set, Bool.or_true]
  · exact .refl

/-- What is active after a removal was active before, and is not what the driver has seen removed. -/
theorem removeStation_active {priv : IwlPriv} {ready : Bool} {staId : Option StaId} {answer : StaAnswer}
    (reaches : removes priv ready staId = true) (j : StaId) :
    ((iwlRemoveStation priv ready staId answer).2.stations j).used.ucodeActive = true ↔
      (priv.stations j).used.ucodeActive = true ∧ ¬ (staId = some j ∧ answer.passed = true) := by
  rw [removeStation_eq, if_pos reaches]
  cases staId with
  | none => simp
  | some id =>
    dsimp only
    by_cases here : j = id
    · subst here
      rw [setEntry_same]
      cases passed : answer.passed with
      | false => simp
      | true => simp [IwlStationEntry.zero, StaUsed.zero]
    · rw [setEntry_other here]
      have apart : ¬ some id = some j := fun same => here (Option.some.inj same).symm
      simp [apart]

/-- The removal keeps the tables consistent. -/
def keepsRemoval (priv : IwlPriv) (ready : Bool) (staId : Option StaId) (addr : EthAddr) (reply : StaReply) :
    Prop :=
  removes priv ready staId = true → reply.done = true → ∀ j, (priv.stations j).used.ucodeActive = true →
    (priv.stations j).addr = addr → staId = some j ∧ reply.answer.passed = true

variable {ready : Bool} {staId : Option StaId} {addr : EthAddr} {reply : StaReply}

theorem removeStation_consistent (consistent : Consistent table)
    (keeps : keepsRemoval table.priv ready staId addr reply) :
    Consistent (removeStation table ready staId addr reply) := by
  have within := consistent.within (removeStation_within table.priv ready staId reply.answer)
  unfold removeStation
  by_cases reaches : removes table.priv ready staId = true
  · rw [if_pos reaches]
    unfold takesRemoveSta
    cases done : reply.done with
    | false => exact within
    | true =>
      refine ⟨within.placed, (sound_drop_iff within.held).mpr fun j station claimed => ?_⟩
      obtain ⟨active, rfl⟩ := claim_eq_some.mp claimed
      obtain ⟨before, stays⟩ := (removeStation_active reaches j).mp active
      have same := (removeStation_within table.priv ready staId reply.answer j).fewer _ claimed
      have addrs := congrArg FwStation.addr (claim_eq_some.mp same).2
      rw [beq_eq_false_iff_ne]
      intro isAddr
      exact stays (keeps reaches done j before (addrs.trans isAddr))
  · rw [if_neg reaches]
    exact within

/-- And else it loses a station that the driver has as active. -/
theorem removeStation_loses (consistent : Consistent table)
    (loses : ¬ keepsRemoval table.priv ready staId addr reply) :
    ∃ j, ((removeStation table ready staId addr reply).priv.stations j).used.ucodeActive = true ∧
      (removeStation table ready staId addr reply).firmware j = none := by
  unfold keepsRemoval at loses
  push Not at loses
  obtain ⟨reaches, done, j, active, isAddr, notSeen⟩ := loses
  refine ⟨j, (removeStation_active reaches j).mpr ⟨active, fun seen => notSeen seen.1 seen.2⟩, ?_⟩
  unfold removeStation takesRemoveSta
  rw [if_pos reaches, if_pos done]
  exact drop_gone (consistent.held j _ (claim_eq_some.mpr ⟨active, rfl⟩)) (beq_iff_eq.mpr isAddr)

/-! ### Restoring -/

/-- The flags that a turn leaves. -/
def restoredUsed (answer : StaAnswer) (used : StaUsed) : StaUsed :=
  if !used.ucodeInprogress then used
  else if answer.passed then { used with ucodeActive := true, ucodeInprogress := false }
  else { used with driverActive := false, ucodeInprogress := false }

theorem setUsed_self (priv : IwlPriv) (i : StaId) : priv.setUsed i (priv.stations i).used = priv := by
  unfold IwlPriv.setUsed IwlPriv.setEntry
  rw [Function.update_eq_self]

theorem ucodeActivate_eq (priv : IwlPriv) (i : StaId) : iwlStaUcodeActivate priv i =
    priv.setUsed i { (priv.stations i).used with ucodeActive := true } := by
  unfold iwlStaUcodeActivate
  split
  · rename_i active
    have same := setUsed_self priv i
    rw [← active]
    exact same.symm
  · rfl

/-- **A turn, in the driver's table**, of a station that is where its command says. -/
theorem restoreStation_used {answers : StaId → StaAnswer} {priv : IwlPriv} {i : StaId}
    (placed : Placed i (priv.stations i)) :
    restoreStation answers priv i = priv.setUsed i (restoredUsed (answers i) (priv.stations i).used) := by
  rw [restoreStation_eq]
  unfold restoredUsed
  cases progress : (priv.stations i).used.ucodeInprogress with
  | false => exact (setUsed_self priv i).symm
  | true =>
    rw [if_pos rfl]
    rw [Bool.not_true, if_neg Bool.false_ne_true]
    cases (answers i).passed with
    | false => rfl
    | true =>
      rw [if_pos rfl, if_pos rfl]
      unfold restoredStation
      rw [placed (by rw [progress, Bool.or_true]), ucodeActivate_eq]
      dsimp only
      split
      · unfold iwlSendLqCmd
        split
        · rw [setUsed_setUsed, setUsed_setUsed, setUsed_same, setUsed_same]
        · rw [setUsed_setUsed, setUsed_same]
      · rw [setUsed_setUsed, setUsed_same]

variable {replies : StaId → StaReply} {ctx : CtxId}

theorem restoreOne_priv {i : StaId} (placed : Placed i (table.priv.stations i)) :
    (restoreOne replies table i).priv =
      table.priv.setUsed i (restoredUsed (replies i).answer (table.priv.stations i).used) :=
  @restoreStation_used (fun i => (replies i).answer) table.priv i placed

theorem restoreOne_consistent (consistent : Consistent table) (i : StaId) :
    Consistent (restoreOne replies table i) := by
  have turn := @restoreOne_priv table replies i (consistent.placed i)
  have split : restoreOne replies table i = ⟨(restoreOne replies table i).priv,
    (restoreOne replies table i).firmware⟩ := rfl
  rw [split, turn]
  unfold restoreOne restoredUsed
  dsimp only
  cases progress : (table.priv.stations i).used.ucodeInprogress with
  | false =>
    rw [Bool.not_false, if_pos rfl, setUsed_self, if_neg Bool.false_ne_true]
    exact consistent
  | true =>
    have here : (table.priv.stations i).staId = i := consistent.placed i (by rw [progress, Bool.or_true])
    rw [Bool.not_true, if_neg Bool.false_ne_true, if_pos rfl]
    unfold takesAddSta IwlPriv.setUsed
    rw [here]
    refine Consistent.write consistent ?_ ?_
    · exact fun _ => here
    cases done : (replies i).done with
    | true => exact .inl rfl
    | false =>
      refine .inr ⟨rfl, fun active => ?_⟩
      cases passed : (replies i).answer.passed with
      | true =>
        rw [done_of_passed passed] at done
        cases done
      | false =>
        rw [passed] at active
        exact claim_eq_some.mpr ⟨active, rfl⟩

/-- A station of the context that is active in the driver is active in the firmware. -/
def Back (ctx : CtxId) (priv : IwlPriv) (i : StaId) : Prop :=
  (priv.stations i).ctxid = ctx → (priv.stations i).used.driverActive = true →
    (priv.stations i).used.ucodeActive = true

/-- Or it is being added. -/
def Pending (ctx : CtxId) (priv : IwlPriv) (i : StaId) : Prop :=
  (priv.stations i).ctxid = ctx → (priv.stations i).used.driverActive = true →
    (priv.stations i).used.ucodeActive = true ∨ (priv.stations i).used.ucodeInprogress = true

/-- **After its turn, a station is back.** -/
theorem restoreOne_back {i : StaId} (placed : Placed i (table.priv.stations i))
    (pending : Pending ctx table.priv i) : Back ctx (restoreOne replies table i).priv i := by
  unfold Back
  rw [restoreOne_priv placed, setUsed_same]
  unfold restoredUsed
  intro here
  cases progress : (table.priv.stations i).used.ucodeInprogress with
  | false =>
    intro driver
    refine (pending here driver).resolve_right fun set => ?_
    rw [progress] at set
    cases set
  | true =>
    cases (replies i).answer.passed with
    | false => exact fun driver => Bool.noConfusion driver
    | true => exact fun _ => rfl

/-- **The loop**, of which the stations behind are back. -/
theorem restoreLoop_back (ids : List StaId) (consistent : Consistent table)
    (pending : ∀ i, Pending ctx table.priv i) (behind : ∀ i, i ∉ ids → Back ctx table.priv i) :
    Consistent (ids.foldl (restoreOne replies) table) ∧
      ∀ i, Back ctx (ids.foldl (restoreOne replies) table).priv i := by
  induction ids generalizing table with
  | nil => exact ⟨consistent, fun i => behind i List.not_mem_nil⟩
  | cons id later ih =>
    have back : Back ctx (restoreOne replies table id).priv id :=
      restoreOne_back (consistent.placed id) (pending id)
    have others {i : StaId} (apart : i ≠ id) :
        (restoreOne replies table id).priv.stations i = table.priv.stations i := by
      rw [restoreOne_priv (consistent.placed id), setUsed_other apart]
    refine ih (restoreOne_consistent consistent id) (fun i => ?_) fun i after => ?_
    · by_cases same : i = id
      · subst same
        exact fun here driver => .inl (back here driver)
      · unfold Pending
        rw [others same]
        exact pending i
    · by_cases same : i = id
      · subst same
        exact back
      · unfold Back
        rw [others same]
        exact behind i fun member => (List.mem_cons.mp member).elim same after

theorem marksRestored_within (priv : IwlPriv) (ctx : CtxId) (i : StaId) :
    Within i (priv.stations i) ((marksRestored priv ctx).stations i) := by
  unfold marksRestored
  dsimp only
  split
  · rename_i marked
    exact .used (fun set => set) fun _ => by rw [marked.2.1, Bool.true_or]
  · exact .refl

theorem marksRestored_pending (priv : IwlPriv) (ctx : CtxId) (i : StaId) :
    Pending ctx (marksRestored priv ctx) i := by
  unfold Pending marksRestored
  dsimp only
  split
  · exact fun _ _ => .inr rfl
  · rename_i unmarked
    intro here driver
    refine .inl (by_contra fun inactive => unmarked ⟨here, driver, Bool.eq_false_of_not_eq_true inactive⟩)

/-- **After `iwl_restore_stations`** the tables are consistent, and when the device is ready, the stations of
the context are back. -/
theorem restoreStations_back (consistent : Consistent table) (ready : Bool) (ctx : CtxId)
    (replies : StaId → StaReply) :
    Consistent (restoreStations table ready ctx replies) ∧
      (ready = true → ∀ i, Back ctx (restoreStations table ready ctx replies).priv i) := by
  unfold restoreStations
  cases ready with
  | false => exact ⟨consistent, fun ready => Bool.noConfusion ready⟩
  | true =>
    obtain ⟨after, back⟩ := @restoreLoop_back { table with priv := marksRestored table.priv ctx } replies ctx
      (List.finRange iwlagnStationCount) (consistent.within (marksRestored_within table.priv ctx))
      (marksRestored_pending table.priv ctx) fun i outside => absurd (List.mem_finRange i) outside
    exact ⟨after, fun _ => back⟩

/-! ### Disconnecting -/

/-- The firmware drops the stations of a context. -/
def Table.dropped (table : Table) (ctx : CtxId) : Table :=
  { table with firmware := drop table.firmware (·.ctxid == ctx) }

variable {call : CommitCall} {given : TableCommit}

theorem sendRxon_unassoc {image : RxonCmd} (unassoc : image.assoc = false) (command : CommitCommand) :
    table.sendRxon call command image = if (call.reply command).accepted then table.dropped call.ctx else table := by
  unfold Table.sendRxon
  rw [unassoc, Bool.not_false, Bool.and_true]
  rfl

theorem dropped_dropped : (table.dropped ctx).dropped ctx = table.dropped ctx := by
  unfold Table.dropped
  rw [drop_drop]

/-- **The un-associated RXONs**: where they fail, and what the firmware has dropped by then. -/
theorem disable_spec (call : CommitCall) (table : Table) :
    (match call.ctx with
      | .bss => disableBss call table
      | .pan => disablePan call table).1.isSome = !clears call ∧
    (match call.ctx with
      | .bss => disableBss call table
      | .pan => disablePan call table).2 =
      if (call.reply .disableRxon).accepted then table.dropped call.ctx else table := by
  have bss := @sendRxon_unassoc table call call.image.withoutAssoc (assoc_withoutAssoc _)
  have pan := @sendRxon_unassoc table call call.image.disabledPan (assoc_withoutAssoc _) .disableRxon
  have again := @sendRxon_unassoc (table.dropped call.ctx) call call.image.withoutAssoc (assoc_withoutAssoc _)
    .disconnRxon
  rw [dropped_dropped, ite_self] at again
  unfold clears
  cases ctx : call.ctx with
  | bss =>
    rw [ctx] at bss
    unfold disableBss
    rw [bss]
    cases (call.reply .disableRxon).passed <;> exact ⟨rfl, rfl⟩
  | pan =>
    rw [ctx] at pan again
    unfold disablePan
    rw [pan]
    cases reply : call.reply .disableRxon with
    | refused => exact ⟨rfl, rfl⟩
    | lost => exact ⟨rfl, rfl⟩
    | ok =>
      show (if !(call.reply .panWait).passed then (some CommitCommand.panWait, table.dropped .pan) else _).1.isSome =
        _ ∧ (if !(call.reply .panWait).passed then (some CommitCommand.panWait, table.dropped .pan) else _).2 =
          table.dropped .pan
      dsimp only
      rw [if_pos (show Reply.ok.accepted = true from rfl), again]
      cases (call.reply .panWait).passed <;> cases call.vif.isNone <;>
        cases (call.reply .disconnTiming).passed <;> cases (call.reply .disconnRxon).passed <;> exact ⟨rfl, rfl⟩

theorem accepted_of_clears (passes : clears call = true) : (call.reply .disableRxon).accepted = true := by
  unfold clears at passes
  rw [Bool.and_eq_true] at passes
  exact passed_accepted passes.1

/-- **`iwlagn_rxon_disconn`**: it fails before the flags are cleared, or it clears and restores them. -/
theorem rxonDisconn_eq (given : TableCommit) (table : Table) :
    (clears given.call = false → (rxonDisconn given table).1.isSome = true ∧ (rxonDisconn given table).2 =
      if (given.call.reply .disableRxon).accepted then table.dropped given.call.ctx else table) ∧
    (clears given.call = true → rxonDisconn given table =
      (if (given.call.reply .wepKeys).passed then none else some .wepKeys,
        restores given (table.dropped given.call.ctx))) := by
  obtain ⟨fails, after⟩ := disable_spec given.call table
  unfold rxonDisconn
  generalize (match given.call.ctx with
    | .bss => disableBss given.call table
    | .pan => disablePan given.call table) = result at fails after
  obtain ⟨failed, mid⟩ := result
  dsimp only at fails after ⊢
  constructor
  · intro stuck
    rw [stuck, Bool.not_false] at fails
    rw [if_pos fails]
    exact ⟨fails, after⟩
  · intro passes
    rw [passes] at fails
    rw [accepted_of_clears passes, if_pos rfl] at after
    rw [fails, if_neg (by decide), after]
    cases (given.call.reply .wepKeys).passed <;> rfl

/-- The tables when the flags are cleared, before the restoring. -/
def cleared (given : TableCommit) (table : Table) : Table :=
  { table with
    priv := (iwlUpdateBcastStation (iwlClearUcodeStations table.priv (some given.call.ctx)) given.call.ctx
      given.lqRoom).2 }

/-- Only a link quality command is new. -/
theorem updateBcast_entry (priv : IwlPriv) (ctx : CtxId) (lqRoom : Bool) (i : StaId) :
    ∃ lq, (iwlUpdateBcastStation priv ctx lqRoom).2.stations i = { priv.stations i with lq := lq } := by
  unfold iwlUpdateBcastStation
  cases lqRoom with
  | false => exact ⟨_, rfl⟩
  | true =>
    rw [if_pos rfl]
    dsimp only
    by_cases same : i = ctx.bcastStaId
    · subst same
      exact ⟨true, setEntry_same⟩
    · exact ⟨_, setEntry_other same⟩

/-- An entry of the cleared table: its context's stations are no longer active in the firmware. -/
theorem cleared_entry (given : TableCommit) (table : Table) (i : StaId) :
    ∃ lq, (cleared given table).priv.stations i = { table.priv.stations i with
      used := { (table.priv.stations i).used with
        ucodeActive := (table.priv.stations i).used.ucodeActive &&
          decide ((table.priv.stations i).ctxid ≠ given.call.ctx) }
      lq := lq } := by
  have clear : (iwlClearUcodeStations table.priv (some given.call.ctx)).stations i =
      { table.priv.stations i with
        used := { (table.priv.stations i).used with
          ucodeActive := (table.priv.stations i).used.ucodeActive &&
            decide ((table.priv.stations i).ctxid ≠ given.call.ctx) } } := by
    unfold iwlClearUcodeStations
    dsimp only
    rw [Option.any_some]
    by_cases here : (table.priv.stations i).ctxid = given.call.ctx
    · rw [if_neg fun differ => bne_iff_ne.mp differ here.symm, decide_eq_false (not_not_intro here),
        Bool.and_false]
    · rw [if_pos (bne_iff_ne.mpr fun same => here same.symm), decide_eq_true here, Bool.and_true]
  obtain ⟨lq, filled⟩ := updateBcast_entry (iwlClearUcodeStations table.priv (some given.call.ctx))
    given.call.ctx given.lqRoom i
  refine ⟨lq, ?_⟩
  unfold cleared
  rw [filled, clear]

/-- **Clearing the flags** makes up for what the firmware has dropped. -/
theorem cleared_consistent (consistent : Consistent table) :
    Consistent (cleared given (table.dropped given.call.ctx)) := by
  refine ⟨fun i => ?_, fun i station claimed => ?_⟩
  · obtain ⟨lq, entry⟩ := cleared_entry given (table.dropped given.call.ctx) i
    rw [entry]
    exact consistent.placed i
  · dsimp only at claimed
    obtain ⟨lq, entry⟩ := cleared_entry given (table.dropped given.call.ctx) i
    rw [entry, claim_eq_some, Bool.and_eq_true, decide_eq_true_eq] at claimed
    obtain ⟨⟨active, apart⟩, rfl⟩ := claimed
    exact drop_kept (consistent.held i _ (claim_eq_some.mpr ⟨active, rfl⟩)) (beq_eq_false_iff_ne.mpr apart)

theorem restores_eq (given : TableCommit) (table : Table) : restores given table =
    restoreStations (cleared given table) given.ready given.call.ctx given.replies := rfl

/-- **When the stations are back** after the disconnection of their context: if the device is ready, or if none
is active in the driver. -/
theorem restores_back_iff (consistent : Consistent table) :
    (∀ i, Back given.call.ctx (restores given (table.dropped given.call.ctx)).priv i) ↔
      (given.ready || noneOf table.priv given.call.ctx StaUsed.driverActive) = true := by
  rw [restores_eq]
  cases ready : given.ready with
  | true =>
    have back := (restoreStations_back (@cleared_consistent table given consistent) given.ready given.call.ctx
      given.replies).2 ready
    rw [ready] at back
    exact iff_of_true back rfl
  | false =>
    show (∀ i, Back given.call.ctx (cleared given (table.dropped given.call.ctx)).priv i) ↔ _
    unfold noneOf Back
    rw [Bool.false_or, decide_eq_true_eq]
    refine forall_congr' fun i => ?_
    obtain ⟨lq, entry⟩ := cleared_entry given (table.dropped given.call.ctx) i
    rw [entry]
    show ((table.priv.stations i).ctxid = given.call.ctx → (table.priv.stations i).used.driverActive = true →
      ((table.priv.stations i).used.ucodeActive && decide ((table.priv.stations i).ctxid ≠ given.call.ctx)) =
        true) ↔ _
    refine forall_congr' fun here => ?_
    rw [decide_eq_false (not_not_intro here), Bool.and_false]
    cases (table.priv.stations i).used.driverActive <;> simp

/-- An associated RXON drops nothing. -/
theorem rxonConnect_eq (assoc : call.staging.assoc = true) : rxonConnect call table = table := by
  unfold rxonConnect Table.sendRxon
  rw [assoc_image, assoc, Bool.not_true, Bool.and_false, if_neg Bool.false_ne_true, ite_self]

/-! ### One call -/

variable {st : TableState}

theorem TableSound.of_consistent (consistent : Consistent st.table)
    (back : ∀ ctx, st.disconnected = some ctx → ∀ i, Back ctx st.table.priv i) : TableSound st where
  held := fun i active => ⟨_, consistent.held i _ (claim_eq_some.mpr ⟨active, rfl⟩), rfl⟩
  back := back

/-- **A commit**: it leaves the tables; or it fails before the flags are cleared; or it disconnects the
context. -/
theorem commitRxon_cases (given : TableCommit) (st : TableState) :
    let call := given.call
    let next := commitRxon given st
    (call.needsFull (st.rxon.active call.ctx) = false → next.table = st.table ∧ next.disconnected = none) ∧
    (call.needsFull (st.rxon.active call.ctx) = true → clears call = false → next.disconnected = none ∧
      next.table = if (call.reply .disableRxon).accepted then st.table.dropped call.ctx else st.table) ∧
    (call.needsFull (st.rxon.active call.ctx) = true → clears call = true →
      next.table = restores given (st.table.dropped call.ctx) ∧
      next.disconnected = if (call.reply .wepKeys).passed then some call.ctx else none) := by
  obtain ⟨stuck, passes⟩ := rxonDisconn_eq given st.table
  dsimp only
  unfold commitRxon
  dsimp only
  refine ⟨fun enough => ?_, fun full fails => ?_, fun full clear => ?_⟩
  · rw [enough]
    exact ⟨rfl, rfl⟩
  · obtain ⟨failed, after⟩ := stuck fails
    rw [full, Bool.not_true, if_neg Bool.false_ne_true]
    generalize rxonDisconn given st.table = result at failed after
    obtain ⟨error, table⟩ := result
    dsimp only at failed after ⊢
    rw [if_pos failed]
    exact ⟨rfl, after⟩
  · rw [full, Bool.not_true, if_neg Bool.false_ne_true, passes clear]
    cases (given.call.reply .wepKeys).passed with
    | false => exact ⟨rfl, rfl⟩
    | true =>
      dsimp only
      rw [if_pos rfl, Option.isSome_none, if_neg Bool.false_ne_true, if_pos rfl]
      cases assoc : given.call.staging.assoc with
      | false =>
        cases (given.call.panActive && !(given.call.reply .panParams).passed) <;> exact ⟨rfl, rfl⟩
      | true =>
        rw [rxonConnect_eq assoc]
        cases (given.call.panActive && !(given.call.reply .panParams).passed) <;> exact ⟨rfl, rfl⟩

/-- Where the tables stay and nothing is disconnected, the flags stay sound. -/
theorem sound_of_stays {next : TableState} (consistent : Consistent st.table) (table : next.table = st.table)
    (disconnected : next.disconnected = none) : TableSound next ∧ Consistent next.table := by
  have after : Consistent next.table := by rwa [table]
  refine ⟨.of_consistent after fun ctx is => ?_, after⟩
  rw [disconnected] at is
  cases is

/-- Where the firmware has dropped a context and the flags have not been cleared, they are sound only with
nothing active in it. -/
theorem sound_dropped_iff {next : TableState} {ctx : CtxId} (consistent : Consistent st.table)
    (table : next.table = st.table.dropped ctx) (disconnected : next.disconnected = none) :
    (TableSound next ↔ noneOf st.table.priv ctx StaUsed.ucodeActive = true) ∧
      (noneOf st.table.priv ctx StaUsed.ucodeActive = true → Consistent next.table) := by
  unfold noneOf
  rw [decide_eq_true_eq]
  have after (none : ∀ i, (st.table.priv.stations i).ctxid = ctx →
      (st.table.priv.stations i).used.ucodeActive = false) : Consistent next.table := by
    rw [table]
    refine ⟨consistent.placed, (sound_drop_iff consistent.held).mpr fun i station claimed => ?_⟩
    obtain ⟨active, rfl⟩ := claim_eq_some.mp claimed
    rw [beq_eq_false_iff_ne]
    intro here
    rw [none i here] at active
    cases active
  refine ⟨⟨fun sound i here => ?_, fun none => .of_consistent (after none) fun ctx is => ?_⟩, after⟩
  · refine Bool.eq_false_of_not_eq_true fun active => ?_
    have held := sound.held i
    rw [table] at held
    obtain ⟨station, there, _⟩ := held active
    rw [show (st.table.dropped ctx).firmware i = none from
      drop_gone (consistent.held i _ (claim_eq_some.mpr ⟨active, rfl⟩)) (beq_iff_eq.mpr here)] at there
    cases there
  · rw [disconnected] at is
    cases is

/-- **When a commit keeps the flags sound.** -/
theorem commitRxon_sound_iff (consistent : Consistent st.table) (given : TableCommit) :
    (TableSound (commitRxon given st) ↔ keepsTable st (.commit given) = true) ∧
      (keepsTable st (.commit given) = true → Consistent (commitRxon given st).table) := by
  obtain ⟨left, stuck, passes⟩ := commitRxon_cases given st
  unfold keepsTable
  dsimp only
  cases full : given.call.needsFull (st.rxon.active given.call.ctx) with
  | false =>
    obtain ⟨sound, after⟩ := sound_of_stays consistent (left full).1 (left full).2
    exact ⟨iff_of_true sound rfl, fun _ => after⟩
  | true =>
    rw [Bool.not_true, if_neg Bool.false_ne_true]
    cases clear : clears given.call with
    | false =>
      rw [Bool.not_false, if_pos rfl]
      obtain ⟨disconnected, table⟩ := stuck full clear
      cases accepted : (given.call.reply .disableRxon).accepted with
      | false =>
        rw [accepted, if_neg Bool.false_ne_true] at table
        obtain ⟨sound, after⟩ := sound_of_stays consistent table disconnected
        exact ⟨iff_of_true sound rfl, fun _ => after⟩
      | true =>
        rw [accepted, if_pos rfl] at table
        rw [Bool.not_true, Bool.false_or]
        exact sound_dropped_iff consistent table disconnected
    | true =>
      rw [Bool.not_true, if_neg Bool.false_ne_true]
      obtain ⟨table, disconnected⟩ := passes full clear
      have after : Consistent (commitRxon given st).table := by
        rw [table, restores_eq]
        exact (restoreStations_back (cleared_consistent consistent) _ _ _).1
      refine ⟨?_, fun _ => after⟩
      cases wep : (given.call.reply .wepKeys).passed with
      | false =>
        rw [wep, if_neg Bool.false_ne_true] at disconnected
        refine iff_of_true (.of_consistent after fun ctx is => ?_) rfl
        rw [disconnected] at is
        cases is
      | true =>
        rw [wep, if_pos rfl] at disconnected
        rw [Bool.not_true, Bool.false_or, ← restores_back_iff consistent]
        constructor
        · intro sound
          have back := sound.back given.call.ctx disconnected
          rw [table] at back
          exact back
        · intro back
          refine .of_consistent after fun ctx is => ?_
          rw [disconnected] at is
          rw [← Option.some.inj is, table]
          exact back

/-- **When a removal keeps the flags sound.** -/
theorem removeStation_sound_iff (consistent : Consistent st.table) (ready : Bool) (staId : Option StaId)
    (addr : EthAddr) (reply : StaReply) :
    (TableSound (TableOp.apply st (.remove ready staId addr reply)) ↔
        keepsTable st (.remove ready staId addr reply) = true) ∧
      (keepsTable st (.remove ready staId addr reply) = true →
        Consistent (TableOp.apply st (.remove ready staId addr reply)).table) := by
  have keeps : keepsTable st (.remove ready staId addr reply) = true ↔
      keepsRemoval st.table.priv ready staId addr reply := by
    unfold keepsTable keepsRemoval
    rw [Bool.or_eq_true, Bool.not_eq_true', decide_eq_true_eq]
    constructor
    · rintro (not | seen) reaches done
      · rw [reaches, done] at not
        cases not
      · exact seen
    · intro keeps
      cases both : removes st.table.priv ready staId && reply.done with
      | false => exact .inl rfl
      | true => exact .inr (keeps (Bool.and_eq_true_iff.mp both).1 (Bool.and_eq_true_iff.mp both).2)
  rw [keeps]
  refine ⟨⟨fun sound => ?_, fun keeps => ?_⟩, fun keeps => removeStation_consistent consistent keeps⟩
  · refine by_contra fun loses => ?_
    obtain ⟨j, active, gone⟩ := removeStation_loses consistent loses
    obtain ⟨station, there, _⟩ := sound.held j active
    rw [show (TableOp.apply st (.remove ready staId addr reply)).table.firmware j = none from gone] at there
    cases there
  · exact .of_consistent (removeStation_consistent consistent keeps) fun ctx is => nomatch is

/-- **When a call keeps the flags sound**, and that the tables are then consistent. -/
theorem table_sound_iff (consistent : Consistent st.table) (op : TableOp) :
    (TableSound (op.apply st) ↔ keepsTable st op = true) ∧
      (keepsTable st op = true → Consistent (op.apply st).table) := by
  -- A call that keeps the tables consistent whatever happens, and disconnects nothing.
  have always {op : TableOp} (keeps : keepsTable st op = true) (after : Consistent (op.apply st).table)
      (disconnected : (op.apply st).disconnected = none) :
      (TableSound (op.apply st) ↔ keepsTable st op = true) ∧
        (keepsTable st op = true → Consistent (op.apply st).table) := by
    refine ⟨iff_of_true (.of_consistent after fun ctx is => ?_) keeps, fun _ => after⟩
    rw [disconnected] at is
    cases is
  cases op with
  | add ctx addr isAp reply => exact always rfl (addStation_consistent consistent ctx addr isAp reply) rfl
  | addBssid ctx addr reply lqRoom =>
    exact always rfl ((addStation_consistent consistent ctx addr false reply).within
      (addBssid_within st.table.priv ctx addr reply.answer lqRoom)) rfl
  | allocBcast ctx lqRoom => exact always rfl (allocBcast_consistent consistent ctx lqRoom) rfl
  | remove ready staId addr reply => exact removeStation_sound_iff consistent ready staId addr reply
  | deactivate ready staId =>
    refine always rfl (consistent.within fun i => ?_) rfl
    unfold iwlDeactivateStation
    cases ready with
    | false => exact .refl
    | true =>
      cases staId with
      | none => exact .refl
      | some id =>
        refine @within_setUsed id { st.table.priv with numStations := oneLess st.table.priv.numStations }
          _ ?_ ?_ i
        · exact fun set => set
        · exact fun set => Bool.noConfusion set
  | restore ready ctx replies => exact always rfl (restoreStations_back consistent ready ctx replies).1 rfl
  | commit given => exact commitRxon_sound_iff consistent given

theorem loaded_consistent (rxon : RxonState) : Consistent (TableState.loaded rxon).table :=
  ⟨fun _ set => Bool.noConfusion set, fun _ _ claimed => Bool.noConfusion (claim_eq_some.mp claimed).1⟩

/-- **When the flags are sound**, whenever a call returns: the calls all keep them. -/
theorem stationTable_iff (rxon : RxonState) (ops : List TableOp) :
    Machine.Always tableStep TableSound (.loaded rxon) ops ↔
      Machine.allowed tableStep keepsTable (.loaded rxon) ops = true := by
  refine Machine.always_iff_allowed (fun st => Consistent st.table ∧ TableSound st) ?_ (fun _ inv => inv.2) ?_
    (fun _ _ => ⟨_, rfl⟩) ⟨loaded_consistent rxon, ?_⟩
  · intro st op next inv keeps stepped
    obtain ⟨sound, after⟩ := table_sound_iff inv.1 op
    rw [← Option.some.inj stepped]
    exact ⟨after keeps, sound.mpr keeps⟩
  · intro st op next inv loses stepped
    rw [← Option.some.inj stepped, (table_sound_iff inv.1 op).1, loses]
    exact Bool.false_ne_true
  · exact .of_consistent (loaded_consistent rxon) fun _ is => nomatch is

/-- A call that leaves PAN un-associated, on channel 6. -/
def leavePan (reply : CommitCommand → Reply) : TableOp := .commit {
  call := { associate reply with
    ctx := .pan
    staging := { RxonCmd.zero with channel := 6, flags := rxonFlgBand24gMsk } }
  ready := true
  lqRoom := true
  replies := fun _ => ⟨.status staSuccessMsk, false⟩ }

/-- `REPLY_WIPAN_DEACTIVATION_COMPLETE` does not come in time. -/
def withoutDeactivation (command : CommitCommand) : Reply := if command = .panWait then .refused else .ok

/-- **A station the firmware has dropped**: the broadcast station of PAN is restored by a first call; the RXON
of a second one is accepted and the wait for its notification times out. -/
theorem stationTable_broken :
    let before := (leavePan fun _ => .ok).apply (TableOp.apply (.loaded .zero) (.allocBcast .pan true))
    let after := (leavePan withoutDeactivation).apply before
    before.table.firmware CtxId.pan.bcastStaId = some ⟨iwlBcastAddr, .pan⟩ ∧
      (after.table.priv.stations CtxId.pan.bcastStaId).used.ucodeActive = true ∧
      after.table.firmware CtxId.pan.bcastStaId = none ∧ ¬ TableSound after := by
  intro before after
  have dropped : after.table.firmware CtxId.pan.bcastStaId = none := by decide +kernel
  have active : (after.table.priv.stations CtxId.pan.bcastStaId).used.ucodeActive = true := by decide +kernel
  refine ⟨by decide +kernel, active, dropped, fun sound => ?_⟩
  obtain ⟨station, there, _⟩ := sound.held CtxId.pan.bcastStaId active
  rw [dropped] at there
  cases there

end IntelWifi.Dvm.StationTable
