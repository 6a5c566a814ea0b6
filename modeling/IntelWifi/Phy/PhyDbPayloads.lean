/-
**The payloads of the calibration store.**

With the copy of the payload commented out, no entry ever points to the bytes of a notification. What is
read back is the size of the last payload and a pointer to nothing; what is sent is the same.

* `payloadsKept_iff`: a run keeps what it stores exactly when it stores nothing but empty payloads.
* `payload_lost`: one configuration section.
-/

import IntelWifi.Phy.PhyDb
import IntelWifi.Lib.Machine

namespace IntelWifi.Phy

open Bytes Checked

/-- A section and its group. -/
abbrev Section := SectionType × Nat

/-- The bytes that a caller finds. -/
def DataPtr.bytes (data : DataPtr) (size : Nat) : Option (List UInt8) :=
  if size = 0 then some []
  else
    match data with
    | .owned bytes => if size ≤ bytes.length then some (bytes.take size) else none
    | .null | .stray => none

/-- A run of the store: the last payload stored for each section, which only statements read, and
whether a pointer to nothing was freed. -/
structure PhyDbRun where
  db : IwlPhyDb
  stored : Section → Option (List UInt8)
  wild : Bool

/-- The store is new. -/
def PhyDbRun.start : PhyDbRun := ⟨.init, fun _ => none, false⟩

/-- The section of a notification, if its type is known. -/
def PhyDbNotif.section? (notif : PhyDbNotif) : Option Section :=
  (SectionType.ofLe16 notif.type).map fun type => (type, if type.grouped then notif.chgId else 0)

/-- A notification comes, with the memory that an allocation gets. -/
def phyDbStep (run : PhyDbRun) (act : PhyDbNotif × Fresh) : Option PhyDbRun :=
  match iwlPhyDbSetSection run.db act.2 act.1 with
  | .ok db =>
    some { run with
      db := db
      stored := match act.1.section? with
        | none => run.stored
        | some sec => Function.update run.stored sec (some act.1.payload) }
  | .error .fault => some { run with wild := true }
  | .error (.error _) => some run

/-- The store does not take the notification: its type is not known, there is no memory for its array,
or its group is beyond the array. -/
def refuses (db : IwlPhyDb) (fresh : Fresh) (notif : PhyDbNotif) : Bool :=
  match SectionType.ofLe16 notif.type with
  | none => true
  | some type => type.grouped &&
    match db.groups type with
    | none => fresh.isNone
    | some groups => groups.length ≤ notif.chgId

/-- The notifications that lose nothing. -/
def keepsPayload (run : PhyDbRun) (act : PhyDbNotif × Fresh) : Bool :=
  refuses run.db act.2 act.1 || act.1.payload.isEmpty

/-- The sections in the order in which they are sent. -/
def sectionsOf (db : IwlPhyDb) : List Section :=
  [(.cfg, 0), (.calibNch, 0)] ++
    (List.range (db.nGroup .calibChgPapd).toNat).map (Prod.mk .calibChgPapd) ++
    (List.range (db.nGroup .calibChgTxp).toNat).map (Prod.mk .calibChgTxp)

def SentSection.section (sent : SentSection) : Section := (sent.type, sent.chgId)

/-- **What is stored is kept**: reading a section gives its last payload with its size, and sending
sends each section that was stored once, in order, with its payload. -/
structure PayloadsKept (run : PhyDbRun) : Prop where
  tame : run.wild = false
  read : ∀ code type chId group payload, SectionType.ofLe16 code = some type →
    channelGroup run.db type chId = .ok group → run.stored (type, group) = some payload →
    ∃ entry, iwlPhyDbGetSectionData run.db code chId = .ok entry ∧ entry.size = payload.length ∧
      entry.data.bytes entry.size = some payload
  sent : ((iwlSendPhyDbData run.db fun _ => true).1.filter fun sent =>
        (run.stored sent.section).isSome).map
      (fun sent => (sent.section, sent.entry.data.bytes sent.entry.size)) =
    (sectionsOf run.db).filterMap fun sec => (run.stored sec).map fun payload => (sec, some payload)

/-! ### What is sent is what is there -/

theorem sendGroups_entry {db : IwlPhyDb} {accepts : SentSection → Bool} {type : SectionType}
    {groups : List Nat} {sent : SentSection} (member : sent ∈ (sendGroups db accepts type groups).1) :
    iwlPhyDbGetSection db sent.type sent.chgId = some sent.entry := by
  induction groups with
  | nil => cases member
  | cons i later ih =>
    unfold sendGroups at member
    cases found : iwlPhyDbGetSection db type i with
    | none =>
      rw [found] at member
      cases member
    | some entry =>
      rw [found] at member
      dsimp only at member
      split at member
      · exact ih member
      · split at member
        · rcases List.mem_cons.mp member with rfl | member
          · exact found
          · exact ih member
        · obtain rfl := List.mem_singleton.mp member
          exact found

theorem sendSection_entry {db : IwlPhyDb} {accepts : SentSection → Bool} {type : SectionType}
    {sent : SentSection} (member : sent ∈ (sendSection db accepts type).1) :
    iwlPhyDbGetSection db sent.type sent.chgId = some sent.entry := by
  unfold sendSection at member
  cases found : iwlPhyDbGetSection db type 0 with
  | none =>
    rw [found] at member
    cases member
  | some entry =>
    rw [found] at member
    obtain rfl := List.mem_singleton.mp member
    exact found

theorem mem_andThen {first next : List SentSection × Bool} {sent : SentSection}
    (member : sent ∈ (andThen first next).1) : sent ∈ first.1 ∨ sent ∈ next.1 := by
  unfold andThen at member
  split at member
  · exact List.mem_append.mp member
  · exact .inl member

/-- **A command carries the entry of its section.** -/
theorem sendPhyDbData_entry {db : IwlPhyDb} {accepts : SentSection → Bool} {sent : SentSection}
    (member : sent ∈ (iwlSendPhyDbData db accepts).1) :
    iwlPhyDbGetSection db sent.type sent.chgId = some sent.entry := by
  rcases mem_andThen member with member | member
  · exact sendSection_entry member
  rcases mem_andThen member with member | member
  · exact sendSection_entry member
  rcases mem_andThen member with member | member <;> exact sendGroups_entry member

/-! ### Groups -/

section Groups

variable {db : IwlPhyDb} {type : SectionType} {groups : List IwlPhyDbEntry}

theorem groups_setGroups (grouped : type.grouped = true) (groups : List IwlPhyDbEntry) :
    (db.setGroups type groups).groups type = some groups := by
  cases type <;> first | rfl | cases grouped

theorem getSection_of_groups (grouped : type.grouped = true) (is : db.groups type = some groups)
    (chgId : Nat) : iwlPhyDbGetSection db type chgId = groups[chgId]? := by
  have found : iwlPhyDbGetSection db type chgId =
      if (chgId : Int) ≥ db.nGroup type then none
      else (db.groups type).bind fun groups => groups[chgId]? := by
    cases type <;> first | rfl | cases grouped
  rw [found, IwlPhyDb.nGroup, is]
  dsimp only [Option.bind_some]
  by_cases beyond : (chgId : Int) ≥ groups.length
  · rw [if_pos beyond, List.getElem?_eq_none (by omega)]
  · rw [if_neg beyond]

theorem setEntry_of_groups (grouped : type.grouped = true) (is : db.groups type = some groups)
    (chgId : Nat) (entry : IwlPhyDbEntry) :
    db.setEntry type chgId entry = db.setGroups type (groups.set chgId entry) := by
  have written : db.setEntry type chgId entry =
      match db.groups type with
      | none => db
      | some groups => db.setGroups type (groups.set chgId entry) := by
    cases type <;> first | rfl | cases grouped
  rw [written, is]

theorem mem_sectionsOf (grouped : type.grouped = true) (is : db.groups type = some groups)
    {chgId : Nat} (below : chgId < groups.length) : (type, chgId) ∈ sectionsOf db := by
  have count : chgId < (db.nGroup type).toNat := by
    rw [IwlPhyDb.nGroup, is]
    exact below
  unfold sectionsOf
  cases type with
  | cfg | calibNch => cases grouped
  | calibChgPapd =>
    refine List.mem_append_left _ (List.mem_append_right _ ?_)
    exact List.mem_map.mpr ⟨chgId, List.mem_range.mpr count, rfl⟩
  | calibChgTxp =>
    refine List.mem_append_right _ ?_
    exact List.mem_map.mpr ⟨chgId, List.mem_range.mpr count, rfl⟩

end Groups

/-- A group whose payload is kept has an entry with its bytes, since it is sent. -/
theorem PayloadsKept.entry_of_group {run : PhyDbRun} (kept : PayloadsKept run) {type : SectionType}
    {groups : List IwlPhyDbEntry} {chgId : Nat} {payload : List UInt8} (grouped : type.grouped = true)
    (is : run.db.groups type = some groups) (below : chgId < groups.length)
    (stored : run.stored (type, chgId) = some payload) :
    ∃ entry, groups[chgId]? = some entry ∧ entry.data.bytes entry.size = some payload := by
  have expected : ((type, chgId), some payload) ∈
      (sectionsOf run.db).filterMap fun sec => (run.stored sec).map fun payload => (sec, some payload) :=
    List.mem_filterMap.mpr ⟨(type, chgId), mem_sectionsOf grouped is below, by rw [stored]; rfl⟩
  rw [← kept.sent] at expected
  obtain ⟨sent, member, same⟩ := List.mem_map.mp expected
  obtain ⟨here, bytes⟩ := Prod.mk.inj same
  obtain ⟨rfl, rfl⟩ := Prod.mk.inj here
  refine ⟨sent.entry, ?_, bytes⟩
  rw [← getSection_of_groups grouped is]
  exact sendPhyDbData_entry (List.mem_of_mem_filter member)

/-! ### Runs -/

/-- Nothing but empty payloads has come: the store is as it was made. -/
structure StillNew (run : PhyDbRun) : Prop where
  db : run.db = .init
  tame : run.wild = false
  stored : ∀ sec payload, run.stored sec = some payload →
    payload = [] ∧ (sec = (.cfg, 0) ∨ sec = (.calibNch, 0))

theorem stillNew_start : StillNew .start := ⟨rfl, rfl, fun _ _ is => (nomatch is)⟩

theorem StillNew.payloadsKept {run : PhyDbRun} (new : StillNew run) : PayloadsKept run := by
  obtain ⟨db, tame, stored⟩ := new
  refine ⟨tame, fun code type chId group payload known chosen is => ?_, ?_⟩
  · obtain ⟨rfl, here⟩ := stored _ _ is
    refine ⟨⟨0, .null⟩, ?_, rfl, rfl⟩
    unfold iwlPhyDbGetSectionData
    rw [known]
    dsimp only
    rw [chosen, db]
    rcases here with here | here <;> obtain ⟨rfl, rfl⟩ := Prod.mk.inj here <;> rfl
  · have order : sectionsOf run.db = [(.cfg, 0), (.calibNch, 0)] := by
      rw [db]
      rfl
    have sends : (iwlSendPhyDbData run.db fun _ => true).1 =
        [⟨.cfg, 0, ⟨0, .null⟩⟩, ⟨.calibNch, 0, ⟨0, .null⟩⟩] := by
      rw [db]
      decide
    rw [order, sends]
    have empty (sec : Section) : run.stored sec = none ∨ run.stored sec = some [] := by
      cases is : run.stored sec with
      | none => exact .inl rfl
      | some payload => exact .inr (congrArg some (stored sec payload is).1)
    rcases empty (.cfg, 0) with cfg | cfg <;> rcases empty (.calibNch, 0) with nch | nch <;>
      simp [SentSection.section, cfg, nch, DataPtr.bytes]

section Init

variable {notif : PhyDbNotif} {type : SectionType}

/-- A section for all channels is stored in a new store: the pointer stays null. -/
theorem setSection_plain (known : SectionType.ofLe16 notif.type = some type)
    (plain : type.grouped = false) (fresh : Fresh) :
    iwlPhyDbSetSection .init fresh notif =
      .ok (IwlPhyDb.init.setEntry type 0 ⟨notif.payload.length, .null⟩) := by
  unfold iwlPhyDbSetSection
  rw [known]
  cases type <;> first | rfl | cases plain

/-- The array that the first group makes. -/
def newGroups (memory : Nat → Leftover) (chgId : Nat) : List IwlPhyDbEntry :=
  (List.range (chgId + 1)).map fun i => (memory i).entry

/-- **The first group of a new store**: what its uncleared entry points to is freed. -/
theorem setSection_group (known : SectionType.ofLe16 notif.type = some type)
    (grouped : type.grouped = true) (fresh : Fresh) :
    iwlPhyDbSetSection .init fresh notif =
      match fresh with
      | none => .error (.error .enomem)
      | some memory =>
        if (memory notif.chgId).null then
          .ok (IwlPhyDb.setEntry (IwlPhyDb.init.setGroups type (newGroups memory notif.chgId)) type
            notif.chgId ⟨notif.payload.length, .null⟩)
        else .error .fault := by
  have missing : IwlPhyDb.init.groups type = none := by cases type <;> rfl
  unfold iwlPhyDbSetSection makesGroups
  rw [known]
  dsimp only
  rw [if_pos grouped, if_pos grouped, missing]
  cases fresh with
  | none => rfl
  | some memory =>
    have here : (newGroups memory notif.chgId)[notif.chgId]? = some (memory notif.chgId).entry := by
      unfold newGroups
      rw [List.getElem?_map, List.getElem?_range (Nat.lt_succ_self _)]
      rfl
    dsimp only
    rw [ok_bind, getSection_of_groups grouped (groups_setGroups grouped _)]
    unfold newGroups at here
    rw [here]
    unfold Leftover.entry
    cases (memory notif.chgId).null <;> rfl

end Init

/-- An empty payload, or one that is refused, changes nothing. -/
theorem StillNew.step {run next : PhyDbRun} (new : StillNew run) (act : PhyDbNotif × Fresh)
    (keeps : keepsPayload run act = true) (stepped : phyDbStep run act = some next) :
    StillNew next := by
  obtain ⟨notif, fresh⟩ := act
  obtain ⟨db, tame, stored⟩ := new
  unfold keepsPayload refuses at keeps
  unfold phyDbStep PhyDbNotif.section? at stepped
  dsimp only at keeps stepped
  rw [db] at keeps stepped
  cases known : SectionType.ofLe16 notif.type with
  | none =>
    unfold iwlPhyDbSetSection at stepped
    rw [known] at stepped
    obtain rfl := Option.some.inj stepped
    exact ⟨db, tame, stored⟩
  | some type =>
    rw [known] at keeps stepped
    dsimp only at keeps
    cases grouped : type.grouped with
    | false =>
      rw [setSection_plain known grouped] at stepped
      rw [grouped, Bool.false_and, Bool.false_or, List.isEmpty_iff] at keeps
      obtain rfl := Option.some.inj stepped
      rw [keeps]
      have same : IwlPhyDb.init.setEntry type 0 ⟨([] : List UInt8).length, .null⟩ = .init := by
        cases type <;> rfl
      refine ⟨same, tame, fun sec payload is => ?_⟩
      simp only [Option.map_some, grouped, if_neg Bool.false_ne_true] at is
      by_cases here : sec = (type, 0)
      · subst here
        rw [Function.update_self] at is
        refine ⟨(Option.some.inj is).symm, ?_⟩
        cases type <;> first | exact .inl rfl | exact .inr rfl | cases grouped
      · rw [Function.update_of_ne here] at is
        exact stored sec payload is
    | true =>
      have missing : IwlPhyDb.init.groups type = none := by cases type <;> rfl
      have long := notif.group (by rw [known]; exact grouped)
      have some : notif.payload.isEmpty = false := by
        cases bytes : notif.payload with
        | nil =>
          rw [bytes] at long
          exact absurd long (by decide)
        | cons _ _ => rfl
      rw [some, Bool.or_false, grouped, Bool.true_and, missing] at keeps
      obtain rfl : fresh = none := Option.isNone_iff_eq_none.mp keeps
      rw [setSection_group known grouped] at stepped
      obtain rfl := Option.some.inj stepped
      exact ⟨db, tame, stored⟩

/-- Only an empty payload can be read from a null pointer. -/
theorem null_bytes {payload : List UInt8} (long : payload ≠ []) : DataPtr.null.bytes payload.length = none := by
  unfold DataPtr.bytes
  rw [if_neg fun zero => long (List.eq_nil_of_length_eq_zero zero)]

/-- A section without groups is lost. -/
theorem plain_lost {run : PhyDbRun} {num : Nat} {type : SectionType} {payload : List UInt8}
    (known : SectionType.ofLe16 num = some type) (plain : type.grouped = false) (long : payload ≠ [])
    (db : run.db = IwlPhyDb.init.setEntry type 0 ⟨payload.length, .null⟩)
    (stored : run.stored (type, 0) = some payload) : ¬ PayloadsKept run := by
  intro kept
  have chosen : channelGroup run.db type 0 = .ok 0 := by
    rw [db]
    cases type <;> first | rfl | cases plain
  obtain ⟨entry, found, _, bytes⟩ := kept.read num type 0 0 payload known chosen stored
  unfold iwlPhyDbGetSectionData at found
  rw [known] at found
  dsimp only at found
  rw [chosen, ok_bind, db] at found
  have here : entry = ⟨payload.length, .null⟩ := by
    cases type <;> first | exact (Except.ok.inj found).symm | cases plain
  rw [here] at bytes
  cases (null_bytes long).symm.trans bytes

/-- The first group of a section is lost. -/
theorem group_lost {run : PhyDbRun} {type : SectionType} {payload : List UInt8} {memory : Nat → Leftover}
    {chgId : Nat} (grouped : type.grouped = true) (long : payload ≠ [])
    (db : run.db = (IwlPhyDb.init.setGroups type (newGroups memory chgId)).setEntry type chgId
      ⟨payload.length, .null⟩)
    (stored : run.stored (type, chgId) = some payload) : ¬ PayloadsKept run := by
  intro kept
  have array : run.db.groups type = some ((newGroups memory chgId).set chgId ⟨payload.length, .null⟩) := by
    rw [db, setEntry_of_groups grouped (groups_setGroups grouped _)]
    exact groups_setGroups grouped _
  have below : chgId < (newGroups memory chgId).length := by
    rw [newGroups, List.length_map, List.length_range]
    exact Nat.lt_succ_self _
  obtain ⟨entry, here, bytes⟩ := kept.entry_of_group grouped array (by rwa [List.length_set]) stored
  rw [List.getElem?_set_self below] at here
  obtain rfl := Option.some.inj here
  cases (null_bytes long).symm.trans bytes

/-- **A payload that is stored is lost.** -/
theorem StillNew.lost {run next : PhyDbRun} (new : StillNew run) (act : PhyDbNotif × Fresh)
    (loses : keepsPayload run act = false) (stepped : phyDbStep run act = some next) :
    ¬ PayloadsKept next := by
  obtain ⟨notif, fresh⟩ := act
  unfold keepsPayload refuses at loses
  unfold phyDbStep PhyDbNotif.section? at stepped
  dsimp only at loses stepped
  rw [new.db] at loses stepped
  rw [Bool.or_eq_false_iff] at loses
  have long : notif.payload ≠ [] := fun empty => by
    rw [empty] at loses
    cases loses.2
  cases known : SectionType.ofLe16 notif.type with
  | none =>
    rw [known] at loses
    cases loses.1
  | some type =>
    rw [known] at loses stepped
    dsimp only at loses
    rw [Option.map_some] at stepped
    cases grouped : type.grouped with
    | false =>
      rw [setSection_plain known grouped, grouped, if_neg Bool.false_ne_true] at stepped
      obtain rfl := Option.some.inj stepped
      exact plain_lost known grouped long rfl (Function.update_self ..)
    | true =>
      have missing : IwlPhyDb.init.groups type = none := by cases type <;> rfl
      rw [missing, grouped, Bool.true_and] at loses
      rw [setSection_group known grouped, grouped, if_pos rfl] at stepped
      cases fresh with
      | none => cases loses.1
      | some memory =>
        dsimp only at stepped
        by_cases null : (memory notif.chgId).null = true
        · rw [if_pos null] at stepped
          obtain rfl := Option.some.inj stepped
          exact group_lost grouped long rfl (Function.update_self ..)
        · -- what the uncleared entry points to is freed
          rw [if_neg null] at stepped
          obtain rfl := Option.some.inj stepped
          exact fun kept => Bool.false_ne_true kept.tame.symm

/-- **A run keeps what it stores** exactly when it stores nothing but empty payloads. -/
theorem payloadsKept_iff (acts : List (PhyDbNotif × Fresh)) :
    Machine.Always phyDbStep PayloadsKept .start acts ↔
      Machine.allowed phyDbStep keepsPayload .start acts = true := by
  refine Machine.always_iff_allowed StillNew (fun _ act _ new keeps stepped => new.step act keeps stepped)
    (fun _ new => new.payloadsKept) (fun _ act _ new loses stepped => new.lost act loses stepped)
    (fun run act => ?_) stillNew_start
  unfold phyDbStep
  split <;> exact ⟨_, rfl⟩

/-- A configuration of one byte. -/
def oneByte : PhyDbNotif := ⟨1, [7], by decide, by decide⟩

/-- **A payload of one byte is lost**: what is read back is its size, and a null pointer. -/
theorem payload_lost :
    (∃ run, Machine.run phyDbStep .start [(oneByte, none)] = some run ∧
      run.stored (.cfg, 0) = some [7] ∧
      iwlPhyDbGetSectionData run.db 1 0 = .ok ⟨1, .null⟩) ∧
    ¬ Machine.Always phyDbStep PayloadsKept .start [(oneByte, none)] := by
  refine ⟨⟨_, rfl, by decide, by decide⟩, fun always => ?_⟩
  obtain ⟨entry, found, _, bytes⟩ := (always.2 _ rfl).read 1 .cfg 0 0 [7] rfl rfl rfl
  obtain rfl := Except.ok.inj found
  exact absurd bytes (by decide)

end IntelWifi.Phy
