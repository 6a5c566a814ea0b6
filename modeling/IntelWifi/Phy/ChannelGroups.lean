/-
**The group of a channel.**

`ch_id_to_ch_index` numbers the valid channels, by one formula for each stretch of them. `channel_id_to_txp` goes
through the TXP groups for the first whose `max_channel_idx` is at least the channel's index. It gives up at a
group without data, with 0xff for "no group".

* `chIndex_bijOn`, `chIndex_strictMonoOn`: the four formulas join, in order and without a gap.
* `channelIdToTxp_looksUp`: what the search comes to.
* `few_run`: a store never has more groups than a `u16` can number.
* `getSectionData_noGroup_iff`: 0xff stands for "no group" as long as no group has this number.
-/

import IntelWifi.Phy.PhyDbPayloads
import IntelWifi.Lib.GuardedSearch
import Mathlib.Data.Set.Function
import Mathlib.Order.Interval.Set.Defs

namespace IntelWifi.Phy

open Bytes Checked GuardedSearch

/-! ### Channels -/

/-- The channels that have an index: `is_valid_channel` lets 0 pass as well. -/
def channels : Set Nat := {chId | 1 ≤ chId ∧ isValidChannel chId = true}

/-- The four stretches, with their formulas. -/
theorem chIndex_cases {chId : Nat} (channel : chId ∈ channels) :
    (chId ≤ 14 ∧ chIdToChIndex chId + 1 = chId) ∨
      (36 ≤ chId ∧ chId ≤ 64 ∧ 4 * chIdToChIndex chId = chId + 20) ∨
      (100 ≤ chId ∧ chId ≤ 140 ∧ 4 * chIdToChIndex chId + 12 = chId) ∨
      (145 ≤ chId ∧ chId ≤ 165 ∧ 4 * chIdToChIndex chId + 13 = chId) := by
  obtain ⟨positive, valid⟩ := channel
  unfold chIdToChIndex
  rw [valid, Bool.not_true, if_neg Bool.false_ne_true]
  simp only [isValidChannel, Bool.or_eq_true, Bool.and_eq_true, decide_eq_true_eq, beq_iff_eq] at valid
  split_ifs <;> omega

/-- **The indices increase with the channels.** -/
theorem chIndex_strictMonoOn : StrictMonoOn chIdToChIndex channels := by
  intro chId here later there below
  rcases chIndex_cases here with low | low | low | low <;>
    rcases chIndex_cases there with high | high | high | high <;> omega

theorem chIndex_lt {chId : Nat} (channel : chId ∈ channels) : chIdToChIndex chId < 39 := by
  rcases chIndex_cases channel with is | is | is | is <;> omega

/-- The channel of an index, stretch by stretch. -/
def chIndexToChId (chIndex : Nat) : Nat :=
  if chIndex < 14 then chIndex + 1
  else if chIndex < 22 then 4 * chIndex - 20
  else if chIndex < 33 then 4 * chIndex + 12
  else 4 * chIndex + 13

theorem chIndexToChId_mem {chIndex : Nat} (below : chIndex < 39) : chIndexToChId chIndex ∈ channels := by
  show 1 ≤ chIndexToChId chIndex ∧ isValidChannel (chIndexToChId chIndex) = true
  simp only [isValidChannel, Bool.or_eq_true, Bool.and_eq_true, decide_eq_true_eq, beq_iff_eq]
  unfold chIndexToChId
  split_ifs <;> omega

theorem chIdToChIndex_chIndexToChId {chIndex : Nat} (below : chIndex < 39) :
    chIdToChIndex (chIndexToChId chIndex) = chIndex := by
  have formulas := chIndex_cases (chIndexToChId_mem below)
  unfold chIndexToChId at formulas ⊢
  split_ifs at formulas ⊢ <;> omega

/-- **The indices are the numbers below 39**, each of one channel. -/
theorem chIndex_bijOn : Set.BijOn chIdToChIndex channels (Set.Iio 39) :=
  ⟨fun _ channel => chIndex_lt channel, chIndex_strictMonoOn.injOn, fun chIndex below =>
    ⟨chIndexToChId chIndex, chIndexToChId_mem below, chIdToChIndex_chIndexToChId below⟩⟩

/-! ### Groups -/

/-- The TXP groups of a store. -/
def IwlPhyDb.txpGroups (db : IwlPhyDb) : List IwlPhyDbEntry := db.calibChGroupTxp.getD []

/-- `sizeof(struct iwl_phy_db_chg_txp)`. -/
def iwlPhyDbChgTxpSize : Nat := 6

/-- **What the TXP groups hold**: each has no data, or a payload that is long enough; and there are no more than
a `u16` can number. -/
structure TxpContent (db : IwlPhyDb) : Prop where
  few : db.txpGroups.length ≤ 2 ^ 16
  long : ∀ entry ∈ db.txpGroups, entry.data = .null ∨
    ∃ payload, entry.data = .owned payload ∧ iwlPhyDbChgTxpSize ≤ payload.length

/-- The group has data. -/
def HasData (groups : List IwlPhyDbEntry) (i : Nat) : Prop :=
  ∃ entry, groups[i]? = some entry ∧ entry.data ≠ .null

/-- The group has data, and its `max_channel_idx` is at least the index. -/
def Qualifies (groups : List IwlPhyDbEntry) (chIndex i : Nat) : Prop :=
  ∃ entry payload, groups[i]? = some entry ∧ entry.data = .owned payload ∧ chIndex ≤ leAt payload 4 2

/-- **What a lookup is to answer.** -/
structure LooksUp (db : IwlPhyDb) (chId : Nat) (answer : Outcome PhyDbError Nat) : Prop where
  found : ∀ i, isValidChannel chId = true → IsLeast {i | Qualifies db.txpGroups (chIdToChIndex chId) i} i →
    (∀ j < i, HasData db.txpGroups j) → answer = .ok i
  invalid : isValidChannel chId = false → answer = .ok 0xff
  missing : ∀ i j, IsLeast {i | Qualifies db.txpGroups (chIdToChIndex chId) i} i → j < i →
    ¬ HasData db.txpGroups j → answer = .ok 0xff
  none : (∀ i, ¬ Qualifies db.txpGroups (chIdToChIndex chId) i) → answer = .ok 0xff

/-- What a turn of the loop does with a group. A stray pointer is read, and no content has one. -/
def txpVerdict (chIndex : Nat) (entry : IwlPhyDbEntry) : Verdict :=
  match entry.data with
  | .null => .stop
  | .stray => .pass
  | .owned payload => if chIndex ≤ leAt payload 4 2 then .take else .pass

section Groups

variable {groups : List IwlPhyDbEntry} {entry : IwlPhyDbEntry} {payload : List UInt8} {chIndex i : Nat}

theorem txpVerdict_owned (owned : entry.data = .owned payload) :
    txpVerdict chIndex entry = if chIndex ≤ leAt payload 4 2 then .take else .pass := by
  unfold txpVerdict
  rw [owned]

theorem txpVerdict_take_iff :
    txpVerdict chIndex entry = .take ↔ ∃ payload, entry.data = .owned payload ∧ chIndex ≤ leAt payload 4 2 := by
  cases data : entry.data <;> simp [txpVerdict, data]

theorem txpVerdict_stop_iff : txpVerdict chIndex entry = .stop ↔ entry.data = .null := by
  cases data : entry.data with
  | null => simp [txpVerdict, data]
  | stray => simp [txpVerdict, data]
  | owned payload =>
    rw [txpVerdict_owned data]
    split <;> simp

theorem finds_take_iff : Finds (txpVerdict chIndex) groups .take i ↔ Qualifies groups chIndex i := by
  simp only [Finds, Qualifies, txpVerdict_take_iff, exists_and_left]

theorem least_take_iff : IsLeast {i | Finds (txpVerdict chIndex) groups .take i} i ↔
    IsLeast {i | Qualifies groups chIndex i} i := by
  simp only [finds_take_iff]

theorem finds_stop_iff : Finds (txpVerdict chIndex) groups .stop i ↔ i < groups.length ∧ ¬ HasData groups i := by
  simp only [Finds, HasData, txpVerdict_stop_iff]
  constructor
  · rintro ⟨entry, here, null⟩
    refine ⟨(List.getElem?_eq_some_iff.mp here).1, ?_⟩
    rintro ⟨other, there, data⟩
    obtain rfl := Option.some.inj (here.symm.trans there)
    exact data null
  · rintro ⟨inside, missing⟩
    refine ⟨groups[i], List.getElem?_eq_getElem inside, ?_⟩
    by_contra data
    exact missing ⟨groups[i], List.getElem?_eq_getElem inside, data⟩

theorem Qualifies.lt_length (qualifies : Qualifies groups chIndex i) : i < groups.length := by
  obtain ⟨_, _, here, -⟩ := qualifies
  exact (List.getElem?_eq_some_iff.mp here).1

/-- **The loop is a search** that a group without data stops. -/
theorem txpGroup_search (long : ∀ entry ∈ groups, entry.data = .null ∨
      ∃ payload, entry.data = .owned payload ∧ iwlPhyDbChgTxpSize ≤ payload.length) (start : Nat) :
    txpGroup chIndex start groups =
      .ok (((search (txpVerdict chIndex) groups).map fun i => (start + i) % 2 ^ 16).getD 0xff) := by
  induction groups generalizing start with
  | nil => rfl
  | cons entry later ih =>
    have rest := ih (fun other member => long other (List.mem_cons_of_mem _ member)) (start + 1)
    unfold txpGroup search
    rcases long entry List.mem_cons_self with null | ⟨payload, owned, size⟩
    · rw [txpVerdict_stop_iff.mpr null, null]
      rfl
    · have most : maxChannelIdx payload = .ok (leAt payload 4 2) := if_pos size
      rw [txpVerdict_owned owned, owned]
      dsimp only
      rw [most, ok_bind]
      by_cases reaches : chIndex ≤ leAt payload 4 2
      · simp [reaches]
      · rw [if_neg reaches, if_neg reaches, rest, Option.map_map]
        simp only [Function.comp_def, Nat.add_assoc, Nat.add_comm 1]

end Groups

/-! ### The lookup -/

section Lookup

variable {db : IwlPhyDb} {chId : Nat}

/-- A channel that is valid is looked up by its index. -/
theorem channelIdToTxp_search (content : TxpContent db) (channel : chId ∈ channels) :
    channelIdToTxp db chId =
      .ok (((search (txpVerdict (chIdToChIndex chId)) db.txpGroups).map (· % 2 ^ 16)).getD 0xff) := by
  have below := chIndex_lt channel
  unfold channelIdToTxp
  rw [if_neg (by omega)]
  refine (txpGroup_search content.long 0).trans ?_
  simp only [Nat.zero_add]

theorem channelIdToTxp_invalid (invalid : isValidChannel chId = false) : channelIdToTxp db chId = .ok 0xff := by
  have none : chIdToChIndex chId = 0xff := by
    unfold chIdToChIndex
    rw [invalid]
    rfl
  exact if_pos none

/-- A search that finds nothing is answered with 0xff. -/
theorem channelIdToTxp_none (content : TxpContent db) (positive : 1 ≤ chId)
    (none : search (txpVerdict (chIdToChIndex chId)) db.txpGroups = none) : channelIdToTxp db chId = .ok 0xff := by
  cases valid : isValidChannel chId with
  | false => exact channelIdToTxp_invalid valid
  | true =>
    rw [channelIdToTxp_search content ⟨positive, valid⟩, none]
    rfl

/-- **The lookup of a channel's group**: the least group that reaches the channel's index, or 0xff; and the indices
of the channels are distinct and in order. -/
theorem channelIdToTxp_looksUp (content : TxpContent db) (positive : 1 ≤ chId) :
    LooksUp db chId (channelIdToTxp db chId) ∧ Set.InjOn chIdToChIndex channels ∧
      StrictMonoOn chIdToChIndex channels := by
  refine ⟨?_, chIndex_bijOn.injOn, chIndex_strictMonoOn⟩
  constructor
  case found =>
    intro i valid least data
    have small : i < 2 ^ 16 := least.1.lt_length.trans_le content.few
    have found : search (txpVerdict (chIdToChIndex chId)) db.txpGroups = some i := by
      refine search_of_least (least_take_iff.mpr least) fun j below stopped => ?_
      exact (finds_stop_iff.mp stopped).2 (data j below)
    rw [channelIdToTxp_search content ⟨positive, valid⟩, found, Option.map_some, Option.getD_some,
      Nat.mod_eq_of_lt small]
  case invalid => exact channelIdToTxp_invalid
  case missing =>
    intro i j least below missing
    have stopped : Finds (txpVerdict (chIdToChIndex chId)) db.txpGroups .stop j :=
      finds_stop_iff.mpr ⟨below.trans least.1.lt_length, missing⟩
    exact channelIdToTxp_none content positive (search_of_stopped (least_take_iff.mpr least) below stopped)
  case none =>
    intro absent
    refine channelIdToTxp_none content positive (search_of_absent fun i taken => ?_)
    exact absent i (finds_take_iff.mp taken)

end Lookup

/-- Groups up to the indices 13 and 21, and one that has not come. -/
def twoGroups : IwlPhyDb := { IwlPhyDb.init with
  calibChGroupTxp := some [⟨6, .owned [0, 0, 0, 0, 13, 0]⟩, ⟨6, .owned [0, 0, 0, 0, 21, 0]⟩, ⟨0, .null⟩] }

theorem content_twoGroups : TxpContent twoGroups := by
  refine ⟨by decide, fun entry member => ?_⟩
  rcases List.mem_cons.mp member with rfl | member
  · exact .inr ⟨_, rfl, by decide⟩
  rcases List.mem_cons.mp member with rfl | member
  · exact .inr ⟨_, rfl, by decide⟩
  · obtain rfl := List.mem_singleton.mp member
    exact .inl rfl

/-- Channel 36 is in the second of them. -/
theorem channelIdToTxp_twoGroups :
    (LooksUp twoGroups 36 (channelIdToTxp twoGroups 36) ∧ Set.InjOn chIdToChIndex channels ∧
      StrictMonoOn chIdToChIndex channels) ∧ channelIdToTxp twoGroups 36 = .ok 1 :=
  ⟨channelIdToTxp_looksUp content_twoGroups (by decide), rfl⟩

/-! ### The number of groups -/

section Few

variable {db db' : IwlPhyDb} {fresh : Fresh} {notif : PhyDbNotif}

theorem txpGroups_setEntry (db : IwlPhyDb) (type : SectionType) (chgId : Nat) (entry : IwlPhyDbEntry) :
    (db.setEntry type chgId entry).txpGroups.length = db.txpGroups.length := by
  cases type with
  | cfg => rfl
  | calibNch => rfl
  | calibChgPapd =>
    unfold IwlPhyDb.setEntry IwlPhyDb.groups IwlPhyDb.setGroups
    cases db.calibChGroupPapd <;> rfl
  | calibChgTxp =>
    unfold IwlPhyDb.setEntry IwlPhyDb.groups IwlPhyDb.setGroups IwlPhyDb.txpGroups
    cases groups : db.calibChGroupTxp <;> simp [groups]

/-- An array that is made has as many groups as the number of the first one says. -/
theorem txpGroups_makesGroups {type : SectionType} {chgId : Nat} (few : db.txpGroups.length ≤ 2 ^ 16)
    (small : chgId < 2 ^ 16) (made : makesGroups db fresh type chgId = .ok db') :
    db'.txpGroups.length ≤ 2 ^ 16 := by
  unfold makesGroups at made
  split at made
  · obtain rfl := Except.ok.inj made
    exact few
  · cases made
  · obtain rfl := Except.ok.inj made
    cases type with
    | calibChgTxp =>
      show ((List.range (chgId + 1)).map _).length ≤ 2 ^ 16
      rw [List.length_map, List.length_range]
      exact small
    | _ => exact few

theorem few_stored {type : SectionType} {chgId length : Nat} (few : db.txpGroups.length ≤ 2 ^ 16)
    (done : (match iwlPhyDbGetSection db type chgId with
      | none => .error (.error .einval)
      | some entry => do
        let data ← iwhFree entry.data
        .ok (db.setEntry type chgId ⟨length, data⟩)) = (.ok db' : Outcome PhyDbError IwlPhyDb)) :
    db'.txpGroups.length ≤ 2 ^ 16 := by
  split at done
  · cases done
  · obtain ⟨data, _, done⟩ := bind_eq_ok done
    obtain rfl := Except.ok.inj done
    rwa [txpGroups_setEntry]

theorem few_setSection (few : db.txpGroups.length ≤ 2 ^ 16)
    (done : iwlPhyDbSetSection db fresh notif = .ok db') : db'.txpGroups.length ≤ 2 ^ 16 := by
  unfold iwlPhyDbSetSection at done
  split at done
  · cases done
  · next type _ =>
    dsimp only at done
    split at done
    · obtain ⟨mid, made, done⟩ := bind_eq_ok done
      exact few_stored (txpGroups_makesGroups few (leAt_lt notif.payload 0 2) made) done
    · exact few_stored few done

/-- **In every run** the groups are no more than a `u16` can number. -/
theorem few_run {acts : List (PhyDbNotif × Fresh)} {run : PhyDbRun}
    (ran : Machine.run phyDbStep .start acts = some run) : run.db.txpGroups.length ≤ 2 ^ 16 := by
  refine Machine.run_invariant (fun run => run.db.txpGroups.length ≤ 2 ^ 16) ?_ (Nat.zero_le _) ran
  intro state act next few stepped
  unfold phyDbStep at stepped
  split at stepped
  · next db done =>
    obtain rfl := Option.some.inj stepped
    exact few_setSection few done
  · obtain rfl := Option.some.inj stepped
    exact few
  · obtain rfl := Option.some.inj stepped
    exact few

end Few

/-! ### What a reader gets -/

section Reads

variable {db : IwlPhyDb} {chId : Nat}

/-- The TXP section of a channel is that of its group; `IWL_PHY_DB_CALIB_CHG_TXP` is 5. -/
theorem getSectionData_txp {group : Nat} (is : channelIdToTxp db chId = .ok group) :
    iwlPhyDbGetSectionData db 5 chId = (db.txpGroups[group]?).elim (.error (.error .einval)) .ok := by
  have section? : iwlPhyDbGetSection db .calibChgTxp group = db.txpGroups[group]? := by
    cases groups : db.calibChGroupTxp with
    | none =>
      unfold iwlPhyDbGetSection IwlPhyDb.nGroup IwlPhyDb.groups IwlPhyDb.txpGroups
      simp [groups]
    | some entries =>
      have array : db.groups .calibChgTxp = some entries := groups
      rw [getSection_of_groups rfl array, IwlPhyDb.txpGroups, groups, Option.getD_some]
  have known : SectionType.ofLe16 5 = some .calibChgTxp := rfl
  have chosen : channelGroup db .calibChgTxp chId = .ok group := is
  unfold iwlPhyDbGetSectionData
  rw [known]
  dsimp only
  rw [chosen, ok_bind, section?]
  cases db.txpGroups[group]? <;> rfl

/-- **0xff stands for "no group"** just when no group has this number: a reader is refused, or gets the data of
group 255. -/
theorem getSectionData_noGroup_iff (none : channelIdToTxp db chId = .ok 0xff) :
    iwlPhyDbGetSectionData db 5 chId = .error (.error .einval) ↔ db.txpGroups.length ≤ 0xff := by
  rw [getSectionData_txp none, ← List.getElem?_eq_none_iff]
  cases db.txpGroups[0xff]? <;> simp

end Reads

end IntelWifi.Phy
