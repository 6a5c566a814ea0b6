/-
**The PHY calibration store.**

The device reports calibration results section by section, and the driver hands them to the runtime
image later. There are a configuration section, a section for all channels, and two arrays of sections
for groups of channels; an array is made when the first of its groups comes, with the size that this
group gives.

The copy of a payload is commented out in `iwl_phy_db_set_section`: the old buffer is freed, the size is
written, and the pointer stays. `iwh_malloc` does not clear memory, so the entries of a new array hold
what was there: an input.
-/

import IntelWifi.Lib.Bytes
import IntelWifi.Lib.Checked

namespace IntelWifi.Phy

open Bytes Checked

/-- What the pointer of an entry points to. -/
inductive DataPtr where
  | null
  /-- A buffer of the store, with its bytes. -/
  | owned (bytes : List UInt8)
  /-- A buffer that was freed, or whatever an uncleared pointer points to. -/
  | stray
  deriving DecidableEq, Repr

/-- `struct iwl_phy_db_entry`. -/
structure IwlPhyDbEntry where
  size : Nat
  data : DataPtr
  deriving DecidableEq, Repr

/-- `enum iwl_phy_db_section_type`, without `IWL_PHY_DB_UNUSED`. -/
inductive SectionType where
  | cfg
  | calibNch
  | calibChgPapd
  | calibChgTxp
  deriving DecidableEq, Repr

def SectionType.ofLe16 : Nat → Option SectionType
  | 1 => some .cfg
  | 2 => some .calibNch
  | 4 => some .calibChgPapd
  | 5 => some .calibChgTxp
  | _ => none

/-- The section is for a group of channels. -/
def SectionType.grouped : SectionType → Bool
  | .calibChgPapd | .calibChgTxp => true
  | .cfg | .calibNch => false

/-- `struct iwl_phy_db`. The number of groups is that of the array, or -1 without one. -/
structure IwlPhyDb where
  cfg : IwlPhyDbEntry
  calibNch : IwlPhyDbEntry
  calibChGroupPapd : Option (List IwlPhyDbEntry)
  calibChGroupTxp : Option (List IwlPhyDbEntry)
  deriving DecidableEq, Repr

/-- `iwl_phy_db_init`. -/
def IwlPhyDb.init : IwlPhyDb := ⟨⟨0, .null⟩, ⟨0, .null⟩, none, none⟩

/-- The array of a type. -/
def IwlPhyDb.groups (db : IwlPhyDb) : SectionType → Option (List IwlPhyDbEntry)
  | .calibChgPapd => db.calibChGroupPapd
  | .calibChgTxp => db.calibChGroupTxp
  | .cfg | .calibNch => none

/-- The array of a type is made or written. -/
def IwlPhyDb.setGroups (db : IwlPhyDb) (type : SectionType) (groups : List IwlPhyDbEntry) : IwlPhyDb :=
  match type with
  | .calibChgPapd => { db with calibChGroupPapd := some groups }
  | .calibChgTxp => { db with calibChGroupTxp := some groups }
  | .cfg | .calibNch => db

/-- `n_group_papd` and `n_group_txp`. -/
def IwlPhyDb.nGroup (db : IwlPhyDb) (type : SectionType) : Int :=
  match db.groups type with
  | none => -1
  | some groups => groups.length

/-- `iwl_phy_db_get_section`, with a type that is known. -/
def iwlPhyDbGetSection (db : IwlPhyDb) (type : SectionType) (chgId : Nat) : Option IwlPhyDbEntry :=
  match type with
  | .cfg => some db.cfg
  | .calibNch => some db.calibNch
  | .calibChgPapd | .calibChgTxp =>
    if (chgId : Int) ≥ db.nGroup type then none
    else (db.groups type).bind fun groups => groups[chgId]?

/-- An entry is written. -/
def IwlPhyDb.setEntry (db : IwlPhyDb) (type : SectionType) (chgId : Nat) (entry : IwlPhyDbEntry) :
    IwlPhyDb :=
  match type with
  | .cfg => { db with cfg := entry }
  | .calibNch => { db with calibNch := entry }
  | .calibChgPapd | .calibChgTxp =>
    match db.groups type with
    | none => db
    | some groups => db.setGroups type (groups.set chgId entry)

inductive PhyDbError where
  | einval
  | enomem
  deriving DecidableEq, Repr

/-- `iwh_free` of a pointer, which then points nowhere. -/
def iwhFree : DataPtr → Outcome PhyDbError DataPtr
  | .null => .ok .null
  | .owned _ => .ok .stray
  | .stray => .error .fault

/-! ### Storing -/

/-- A notification: a type and a payload, which for a group begins with its number. -/
structure PhyDbNotif where
  type : Nat
  payload : List UInt8
  length_lt : payload.length < 2 ^ 16
  group : (SectionType.ofLe16 type).any SectionType.grouped = true → 2 ≤ payload.length

/-- The group that a notification is for. -/
def PhyDbNotif.chgId (notif : PhyDbNotif) : Nat := leAt notif.payload 0 2

/-- What an uncleared entry holds: a size, and a pointer that happens to be null or not. -/
structure Leftover where
  size : Nat
  null : Bool

def Leftover.entry (leftover : Leftover) : IwlPhyDbEntry :=
  ⟨leftover.size, if leftover.null then .null else .stray⟩

/-- Memory for an array of entries, if there is any. -/
abbrev Fresh := Option (Nat → Leftover)

/-- The array of a group is made when it is missing. -/
def makesGroups (db : IwlPhyDb) (fresh : Fresh) (type : SectionType) (chgId : Nat) :
    Outcome PhyDbError IwlPhyDb :=
  match db.groups type, fresh with
  | some _, _ => .ok db
  | none, none => .error (.error .enomem)
  | none, some memory =>
    .ok (db.setGroups type ((List.range (chgId + 1)).map fun i => (memory i).entry))

/-- `iwl_phy_db_set_section`. -/
def iwlPhyDbSetSection (db : IwlPhyDb) (fresh : Fresh) (notif : PhyDbNotif) :
    Outcome PhyDbError IwlPhyDb :=
  match SectionType.ofLe16 notif.type with
  | none => .error (.error .einval)
  | some type => do
    let chgId := if type.grouped then notif.chgId else 0
    let db ← if type.grouped then makesGroups db fresh type chgId else .ok db
    match iwlPhyDbGetSection db type chgId with
    | none => .error (.error .einval)
    | some entry => do
      let data ← iwhFree entry.data
      .ok (db.setEntry type chgId ⟨notif.payload.length, data⟩)

/-! ### Reading back -/

/-- `is_valid_channel`. -/
def isValidChannel (chId : Nat) : Bool :=
  chId ≤ 14 || (36 ≤ chId && chId ≤ 64 && chId % 4 == 0) ||
    (100 ≤ chId && chId ≤ 140 && chId % 4 == 0) || (145 ≤ chId && chId ≤ 165 && chId % 4 == 1)

/-- `ch_id_to_ch_index`, in a `u8`. -/
def chIdToChIndex (chId : Nat) : Nat :=
  if !isValidChannel chId then 0xff
  else if chId ≤ 14 then (chId + 255) % 256
  else if chId ≤ 64 then (chId + 20) / 4
  else if chId ≤ 140 then (chId - 12) / 4
  else (chId - 13) / 4

/-- `channel_id_to_papd`. -/
def channelIdToPapd (chId : Nat) : Nat :=
  if !isValidChannel chId then 0xff
  else if 1 ≤ chId ∧ chId ≤ 14 then 0
  else if 36 ≤ chId ∧ chId ≤ 64 then 1
  else if 100 ≤ chId ∧ chId ≤ 140 then 2
  else 3

/-- `max_channel_idx` of a TXP group. -/
def maxChannelIdx (bytes : List UInt8) : Outcome PhyDbError Nat :=
  if Inside bytes 4 2 then .ok (leAt bytes 4 2) else .error .fault

/-- The loop of `channel_id_to_txp`, from one group on. The group comes in a `u16`. -/
def txpGroup (chIndex : Nat) : Nat → List IwlPhyDbEntry → Outcome PhyDbError Nat
  | _, [] => .ok 0xff
  | i, entry :: later =>
    match entry.data with
    | .null => .ok 0xff
    | .stray => .error .fault
    | .owned bytes => do
      let most ← maxChannelIdx bytes
      if chIndex ≤ most then .ok (i % 2 ^ 16) else txpGroup chIndex (i + 1) later

/-- `channel_id_to_txp`. -/
def channelIdToTxp (db : IwlPhyDb) (chId : Nat) : Outcome PhyDbError Nat :=
  if chIdToChIndex chId = 0xff then .ok 0xff
  else txpGroup (chIdToChIndex chId) 0 (db.calibChGroupTxp.getD [])

/-- The group of a channel. -/
def channelGroup (db : IwlPhyDb) (type : SectionType) (chId : Nat) : Outcome PhyDbError Nat :=
  match type with
  | .cfg | .calibNch => .ok 0
  | .calibChgPapd => .ok (channelIdToPapd chId)
  | .calibChgTxp => channelIdToTxp db chId

/-- `iwl_phy_db_get_section_data`: the pointer and the size. -/
def iwlPhyDbGetSectionData (db : IwlPhyDb) (type chId : Nat) : Outcome PhyDbError IwlPhyDbEntry :=
  match SectionType.ofLe16 type with
  | none => .error (.error .einval)
  | some type => do
    let chGroupId ← channelGroup db type chId
    match iwlPhyDbGetSection db type chGroupId with
    | none => .error (.error .einval)
    | some entry => .ok entry

/-! ### Sending -/

/-- A `PHY_DB_CMD`, and the section it is for. -/
structure SentSection where
  type : SectionType
  chgId : Nat
  entry : IwlPhyDbEntry
  deriving DecidableEq, Repr

/-- The loop of `iwl_phy_db_send_all_channel_groups`, over groups, with what the device accepts. -/
def sendGroups (db : IwlPhyDb) (accepts : SentSection → Bool) (type : SectionType) :
    List Nat → List SentSection × Bool
  | [] => ([], true)
  | i :: later =>
    match iwlPhyDbGetSection db type i with
    | none => ([], false)
    | some entry =>
      if entry.size = 0 then sendGroups db accepts type later
      else if accepts ⟨type, i, entry⟩ then
        let (sent, done) := sendGroups db accepts type later
        (⟨type, i, entry⟩ :: sent, done)
      else ([⟨type, i, entry⟩], false)

/-- `iwl_phy_db_send_all_channel_groups`: the number of groups comes in a `u8`. -/
def iwlPhyDbSendAllChannelGroups (db : IwlPhyDb) (accepts : SentSection → Bool) (type : SectionType) :
    List SentSection × Bool :=
  sendGroups db accepts type (List.range (db.nGroup type % 256).toNat)

/-- One step of sending after another, which runs only if the first succeeds. -/
def andThen (first : List SentSection × Bool) (next : List SentSection × Bool) :
    List SentSection × Bool :=
  if first.2 then (first.1 ++ next.1, next.2) else first

/-- A section that is sent whatever its size. -/
def sendSection (db : IwlPhyDb) (accepts : SentSection → Bool) (type : SectionType) :
    List SentSection × Bool :=
  match iwlPhyDbGetSection db type 0 with
  | none => ([], false)
  | some entry => ([⟨type, 0, entry⟩], accepts ⟨type, 0, entry⟩)

/-- `iwl_send_phy_db_data`: the commands, and whether it succeeds. -/
def iwlSendPhyDbData (db : IwlPhyDb) (accepts : SentSection → Bool) : List SentSection × Bool :=
  andThen (sendSection db accepts .cfg) <|
  andThen (sendSection db accepts .calibNch) <|
  andThen (iwlPhyDbSendAllChannelGroups db accepts .calibChgPapd)
    (iwlPhyDbSendAllChannelGroups db accepts .calibChgTxp)

end IntelWifi.Phy
