/-
**The memory of the PHY calibration store.**

The array of a group type is made by the first section of that type, with as many entries as this section
says, and is not cleared. `iwl_phy_db_set_section` frees what an entry points to, and puts nothing there: the
pointer of an entry is null, as it was made in `cfg` and `calib_nch`, or it is what was in the memory of the
array. `iwl_phy_db_free` frees what all of them point to, then the array, and at last gives the store, which
`iwh_zalloc` made, to `mbuf_free`.

Each call is given with what it uses: the pointers that it frees and the elements of arrays that it takes.

* `setSection_agrees`: the section that is set is that of `iwlPhyDbSetSection`.
* `free_uses`: what `iwl_phy_db_free` does before it comes to the store.
* `storeSafe_iff`: a run uses memory well just when the uncleared pointers that it frees happen to be null,
  and `iwl_phy_db_free` is not called.
-/

import IntelWifi.Phy.PhyDbPayloads
import Mathlib.Logic.Function.Basic

namespace IntelWifi.Phy

open Bytes Checked

/-- What a call does with memory. -/
inductive MemoryUse where
  /-- `iwh_free` of the pointer of an entry. -/
  | free (data : DataPtr)
  /-- `iwh_free` of the pointer to an array. -/
  | freeArray (array : Option (List IwlPhyDbEntry))
  /-- `mbuf_free` of the store. -/
  | mbufFree
  /-- An element of an array of this size. -/
  | element (i size : Nat)
  /-- The store, after it was freed. -/
  | gone
  deriving DecidableEq, Repr

/-- The pointer is null or of a buffer that is there; the element is in the array. The pointer to an array is null or
the array's. The store is no mbuf. -/
def MemoryUse.fine : MemoryUse → Bool
  | .free data => data != .stray
  | .freeArray _ => true
  | .mbufFree => false
  | .element i size => i < size
  | .gone => false

/-- The types of sections that are for groups. -/
inductive ChGroupType where
  | papd
  | txp
  deriving DecidableEq, Repr

def SectionType.chGroup : SectionType → Option ChGroupType
  | .cfg | .calibNch => none
  | .calibChgPapd => some .papd
  | .calibChgTxp => some .txp

/-- `n_group_*` and `calib_ch_group_*`. -/
structure ChGroup where
  nGroup : Int
  array : Option (List IwlPhyDbEntry)
  deriving DecidableEq, Repr

/-- `struct iwl_phy_db`, with the numbers of groups that it keeps. -/
structure PhyDbMemory where
  cfg : IwlPhyDbEntry
  calibNch : IwlPhyDbEntry
  group : ChGroupType → ChGroup

/-- `iwl_phy_db_init`, when there is memory. -/
def PhyDbMemory.init : PhyDbMemory := ⟨⟨0, .null⟩, ⟨0, .null⟩, fun _ => ⟨-1, none⟩⟩

/-- The entries of an array. -/
def ChGroup.entries (group : ChGroup) : List IwlPhyDbEntry := group.array.getD []

/-- `struct iwl_calib_res_notif_phy_db`, with the first word of its data. -/
structure IwlCalibResNotifPhyDb where
  type : UInt16
  length : UInt16
  chgId : UInt16

/-! ### The calls -/

/-- An element of an array, if there are as many groups. -/
def ChGroup.section (group : ChGroup) (chgId : Nat) : List MemoryUse × Option IwlPhyDbEntry :=
  if (chgId : Int) ≥ group.nGroup then ([], none)
  else ([.element chgId group.entries.length], group.entries[chgId]?)

/-- `iwl_phy_db_get_section`, with a type that is known; `chg_id` is a `u16`. -/
def getSection (mem : PhyDbMemory) (type : SectionType) (chgId : Nat) : List MemoryUse × Option IwlPhyDbEntry :=
  match type with
  | .cfg => ([], some mem.cfg)
  | .calibNch => ([], some mem.calibNch)
  | .calibChgPapd => (mem.group .papd).section (chgId % 2 ^ 16)
  | .calibChgTxp => (mem.group .txp).section (chgId % 2 ^ 16)

def ChGroup.set (group : ChGroup) (chgId : Nat) (entry : IwlPhyDbEntry) : ChGroup :=
  { group with array := group.array.map (·.set chgId entry) }

def PhyDbMemory.setGroup (mem : PhyDbMemory) (type : ChGroupType) (group : ChGroup) : PhyDbMemory :=
  { mem with group := Function.update mem.group type group }

/-- An entry is written. -/
def PhyDbMemory.set (mem : PhyDbMemory) (type : SectionType) (chgId : Nat) (entry : IwlPhyDbEntry) : PhyDbMemory :=
  match type with
  | .cfg => { mem with cfg := entry }
  | .calibNch => { mem with calibNch := entry }
  | .calibChgPapd => mem.setGroup .papd ((mem.group .papd).set (chgId % 2 ^ 16) entry)
  | .calibChgTxp => mem.setGroup .txp ((mem.group .txp).set (chgId % 2 ^ 16) entry)

/-- The array of a group type is made when it is missing, if there is memory. -/
def makeArray (mem : PhyDbMemory) (fresh : Fresh) (type : ChGroupType) (chgId : Nat) : Option PhyDbMemory :=
  match (mem.group type).array, fresh with
  | some _, _ => some mem
  | none, none => none
  | none, some memory => some (mem.setGroup type ⟨chgId + 1, some (newGroups memory chgId)⟩)

/-- What a pointer is once the buffer is freed. -/
def DataPtr.freed : DataPtr → DataPtr
  | .null => .null
  | .owned _ | .stray => .stray

/-- The end of `iwl_phy_db_set_section`, once the array is there. -/
def writeSection (mem : PhyDbMemory) (type : SectionType) (chgId length : Nat) :
    List MemoryUse × Option PhyDbError × PhyDbMemory :=
  match getSection mem type chgId with
  | (uses, none) => (uses, some .einval, mem)
  | (uses, some entry) => (uses ++ [.free entry.data], none, mem.set type chgId ⟨length, entry.data.freed⟩)

/-- `iwl_phy_db_set_section`: what it uses, its error and the store. -/
def setSection (mem : PhyDbMemory) (fresh : Fresh) (notif : IwlCalibResNotifPhyDb) :
    List MemoryUse × Option PhyDbError × PhyDbMemory :=
  match SectionType.ofLe16 notif.type.toNat with
  | none => ([], some .einval, mem)
  | some type =>
    match type.chGroup with
    | none => writeSection mem type 0 notif.length.toNat
    | some group =>
      match makeArray mem fresh group notif.chgId.toNat with
      | none => ([], some .enomem, mem)
      | some mem => writeSection mem type notif.chgId.toNat notif.length.toNat

/-- `iwl_phy_db_free_section`. -/
def freeSection (mem : PhyDbMemory) (type : SectionType) (chgId : Nat) : List MemoryUse × PhyDbMemory :=
  match getSection mem type chgId with
  | (uses, none) => (uses, mem)
  | (uses, some entry) => (uses ++ [.free entry.data], mem.set type chgId ⟨0, .null⟩)

/-- A loop of `iwl_phy_db_free`. -/
def freeSections (mem : PhyDbMemory) (type : SectionType) : List Nat → List MemoryUse × PhyDbMemory
  | [] => ([], mem)
  | i :: later =>
    let (uses, mem) := freeSection mem type i
    let (more, mem) := freeSections mem type later
    (uses ++ more, mem)

/-- `iwl_phy_db_free`. -/
def iwlPhyDbFree (mem : PhyDbMemory) : List MemoryUse :=
  let (cfg, mem) := freeSection mem .cfg 0
  let (calibNch, mem) := freeSection mem .calibNch 0
  let (papd, mem) := freeSections mem .calibChgPapd (List.range (mem.group .papd).nGroup.toNat)
  let papdArray := (mem.group .papd).array
  let (txp, mem) := freeSections mem .calibChgTxp (List.range (mem.group .txp).nGroup.toNat)
  let txpArray := (mem.group .txp).array
  cfg ++ calibNch ++ (papd ++ [.freeArray papdArray]) ++ (txp ++ [.freeArray txpArray]) ++ [.mbufFree]

/-- The pointer to the store: null when there was no memory for it. -/
inductive PhyDbStore where
  | null
  | live (mem : PhyDbMemory)
  | freed

/-- The store before the first call. -/
def PhyDbStore.start (allocated : Bool) : PhyDbStore := if allocated then .live .init else .null

inductive PhyDbCall where
  | setSection (fresh : Fresh) (notif : IwlCalibResNotifPhyDb)
  | free

/-- What a call uses, and the store after it. -/
def phyDbCall : PhyDbStore → PhyDbCall → List MemoryUse × PhyDbStore
  | .null, _ => ([], .null)
  | .live mem, .setSection fresh notif =>
    let (uses, _, next) := setSection mem fresh notif
    (uses, .live next)
  | .live mem, .free => (iwlPhyDbFree mem, .freed)
  | .freed, _ => ([.gone], .freed)

def storeStep (store : PhyDbStore) (call : PhyDbCall) : Option PhyDbStore := some (phyDbCall store call).2

/-- **A call uses memory well.** -/
def UsesWell (store : PhyDbStore) (call : PhyDbCall) (_ : PhyDbStore) : Prop :=
  ∀ use ∈ (phyDbCall store call).1, use.fine = true

/-- The pointer of a group's entry happens to be null, in the array or in the memory for it. -/
def entryNull (mem : PhyDbMemory) (fresh : Fresh) (type : ChGroupType) (chgId : Nat) : Bool :=
  match (mem.group type).array with
  | some entries => entries[chgId]?.all (·.data != .stray)
  | none => fresh.all fun memory => (memory chgId).null

/-- The uncleared pointer that `iwl_phy_db_set_section` frees happens to be null, and a store that is there is not given
to `iwl_phy_db_free`. -/
def freesNull : PhyDbStore → PhyDbCall → Bool
  | .null, _ => true
  | .live mem, .setSection fresh notif =>
    ((SectionType.ofLe16 notif.type.toNat).bind SectionType.chGroup).all fun type =>
      entryNull mem fresh type notif.chgId.toNat
  | .live _, .free => false
  | .freed, _ => false

/-! ### What the calls keep -/

/-- The number of groups is the size of the array, and fits a `u16` with its last index. -/
structure ChGroup.Sized (group : ChGroup) : Prop where
  count : group.nGroup.toNat = group.entries.length
  few : group.entries.length ≤ 2 ^ 16

/-- The pointers of the first two entries are null, and the arrays have their sizes. -/
structure PhyDbMemory.Sized (mem : PhyDbMemory) : Prop where
  cfg : mem.cfg.data = .null
  calibNch : mem.calibNch.data = .null
  groups : ∀ type, (mem.group type).Sized

section Sized

variable {mem : PhyDbMemory} {group : ChGroup} {kind : ChGroupType} {type : SectionType} {chgId : Nat}
  {entry : IwlPhyDbEntry}

theorem sized_init : PhyDbMemory.init.Sized := ⟨rfl, rfl, fun _ => ⟨rfl, Nat.zero_le _⟩⟩

/-- **Every element that is taken** is in the array. -/
theorem ChGroup.Sized.section_eq (sized : group.Sized) (chgId : Nat) :
    group.section chgId = match group.entries[chgId]? with
      | none => ([], none)
      | some entry => ([.element chgId group.entries.length], some entry) := by
  have count := sized.count
  unfold ChGroup.section
  cases here : group.entries[chgId]? with
  | none =>
    have outside := List.getElem?_eq_none_iff.mp here
    rw [if_pos (by omega)]
  | some entry =>
    obtain ⟨below, _⟩ := List.getElem?_eq_some_iff.mp here
    rw [if_neg (by omega)]

@[simp] theorem entries_set (group : ChGroup) (chgId : Nat) (entry : IwlPhyDbEntry) :
    (group.set chgId entry).entries = group.entries.set chgId entry := by
  unfold ChGroup.entries ChGroup.set
  cases group.array with
  | none => rfl
  | some entries => rfl

theorem ChGroup.Sized.set (sized : group.Sized) : (group.set chgId entry).Sized := by
  constructor
  · rw [entries_set, List.length_set]
    exact sized.count
  · rw [entries_set, List.length_set]
    exact sized.few

@[simp] theorem setGroup_same : (mem.setGroup kind group).group kind = group := Function.update_self ..

theorem PhyDbMemory.Sized.setGroup (sized : mem.Sized) (fits : group.Sized) : (mem.setGroup kind group).Sized := by
  refine ⟨sized.cfg, sized.calibNch, fun other => ?_⟩
  by_cases same : other = kind
  · subst same
    rwa [setGroup_same]
  · have kept : (mem.setGroup kind group).group other = mem.group other := Function.update_of_ne same ..
    rw [kept]
    exact sized.groups other

/-- What is known of the section of a group. -/
theorem getSection_group (is : type.chGroup = some kind) :
    getSection mem type chgId = (mem.group kind).section (chgId % 2 ^ 16) := by
  cases type with
  | cfg => cases is
  | calibNch => cases is
  | calibChgPapd =>
    cases is
    rfl
  | calibChgTxp =>
    cases is
    rfl

theorem set_group (is : type.chGroup = some kind) :
    mem.set type chgId entry = mem.setGroup kind ((mem.group kind).set (chgId % 2 ^ 16) entry) := by
  cases type with
  | cfg => cases is
  | calibNch => cases is
  | calibChgPapd =>
    cases is
    rfl
  | calibChgTxp =>
    cases is
    rfl

/-- The uses are fine. -/
def AllFine (uses : List MemoryUse) : Prop := ∀ use ∈ uses, use.fine = true

@[simp] theorem allFine_append {uses more : List MemoryUse} :
    AllFine (uses ++ more) ↔ AllFine uses ∧ AllFine more :=
  List.forall_mem_append

theorem allFine_nil : AllFine [] := fun _ none => absurd none List.not_mem_nil

/-- An element that is there, and what it points to. -/
theorem allFine_element {i size : Nat} {data : DataPtr} (below : i < size) :
    AllFine ([.element i size] ++ [.free data]) ↔ (data != .stray) = true := by
  simp [AllFine, MemoryUse.fine, below]

theorem setGroup_group_sized (sized : mem.Sized) :
    (mem.setGroup kind ((mem.group kind).set chgId entry)).Sized :=
  sized.setGroup (sized.groups kind).set

/-! ### Setting a section -/

/-- **An entry that is null** stays so. -/
theorem writeSection_plain (sized : mem.Sized) (plain : type.chGroup = none) (chgId length : Nat) :
    AllFine (writeSection mem type chgId length).1 ∧ (writeSection mem type chgId length).2.2.Sized := by
  cases type with
  | cfg =>
    unfold writeSection getSection PhyDbMemory.set
    dsimp only
    rw [sized.cfg]
    exact ⟨by simp [AllFine, MemoryUse.fine], rfl, sized.calibNch, sized.groups⟩
  | calibNch =>
    unfold writeSection getSection PhyDbMemory.set
    dsimp only
    rw [sized.calibNch]
    exact ⟨by simp [AllFine, MemoryUse.fine], sized.cfg, rfl, sized.groups⟩
  | calibChgPapd => cases plain
  | calibChgTxp => cases plain

/-- **An entry of an array** is freed. -/
theorem writeSection_group (sized : mem.Sized) (is : type.chGroup = some kind) (small : chgId < 2 ^ 16)
    (length : Nat) :
    (AllFine (writeSection mem type chgId length).1 ↔
        (mem.group kind).entries[chgId]?.all (·.data != .stray) = true) ∧
      (writeSection mem type chgId length).2.2.Sized := by
  unfold writeSection
  rw [getSection_group is, (sized.groups kind).section_eq, Nat.mod_eq_of_lt small]
  cases here : (mem.group kind).entries[chgId]? with
  | none => exact ⟨iff_of_true allFine_nil rfl, sized⟩
  | some entry =>
    obtain ⟨below, _⟩ := List.getElem?_eq_some_iff.mp here
    dsimp only
    rw [set_group is]
    exact ⟨allFine_element below, setGroup_group_sized sized⟩

theorem newGroups_length (memory : Nat → Leftover) (chgId : Nat) :
    (newGroups memory chgId).length = chgId + 1 := by
  unfold newGroups
  rw [List.length_map, List.length_range]

/-- The last entry of a new array, which is the one that is written first. -/
theorem newGroups_last (memory : Nat → Leftover) (chgId : Nat) :
    (newGroups memory chgId)[chgId]? = some (memory chgId).entry := by
  unfold newGroups
  rw [List.getElem?_map, List.getElem?_range (Nat.lt_succ_self _)]
  rfl

theorem newGroups_sized (memory : Nat → Leftover) (small : chgId < 2 ^ 16) :
    (⟨chgId + 1, some (newGroups memory chgId)⟩ : ChGroup).Sized := by
  constructor
  · exact (newGroups_length memory chgId).symm
  · exact Nat.le_trans (Nat.le_of_eq (newGroups_length memory chgId)) small

theorem leftover_fine (leftover : Leftover) : (leftover.entry.data != .stray) = leftover.null := by
  unfold Leftover.entry
  cases leftover.null <;> rfl

/-- **A call of `iwl_phy_db_set_section`** uses memory well just when the pointer that it frees happens to be
null. -/
theorem setSection_fine (sized : mem.Sized) (fresh : Fresh) (notif : IwlCalibResNotifPhyDb) :
    (AllFine (setSection mem fresh notif).1 ↔ freesNull (.live mem) (.setSection fresh notif) = true) ∧
      (setSection mem fresh notif).2.2.Sized := by
  have small : notif.chgId.toNat < 2 ^ 16 := notif.chgId.toNat_lt
  unfold setSection freesNull
  dsimp only
  cases SectionType.ofLe16 notif.type.toNat with
  | none => exact ⟨iff_of_true allFine_nil rfl, sized⟩
  | some type =>
    rw [Option.bind_some]
    dsimp only
    cases is : type.chGroup with
    | none =>
      obtain ⟨fine, kept⟩ := writeSection_plain sized is 0 notif.length.toNat
      exact ⟨iff_of_true fine rfl, kept⟩
    | some kind =>
      rw [Option.all_some]
      unfold makeArray entryNull
      dsimp only
      cases array : (mem.group kind).array with
      | some entries =>
        have here : (mem.group kind).entries = entries := by
          unfold ChGroup.entries
          rw [array]
          rfl
        have written := writeSection_group sized is small notif.length.toNat
        rw [here] at written
        exact written
      | none =>
        cases fresh with
        | none => exact ⟨iff_of_true allFine_nil rfl, sized⟩
        | some memory =>
          have made :
              (mem.setGroup kind ⟨notif.chgId.toNat + 1, some (newGroups memory notif.chgId.toNat)⟩).Sized :=
            sized.setGroup (newGroups_sized memory small)
          have written := writeSection_group made is small notif.length.toNat
          rw [setGroup_same] at written
          unfold ChGroup.entries at written
          rw [Option.getD_some, newGroups_last, Option.all_some, leftover_fine] at written
          exact written

/-- The store of which only the contents are seen. -/
def PhyDbMemory.db (mem : PhyDbMemory) : IwlPhyDb :=
  ⟨mem.cfg, mem.calibNch, (mem.group .papd).array, (mem.group .txp).array⟩

/-- What a call is for one that only sees the contents: a fault, unless it uses memory well. -/
def seen (call : List MemoryUse × Option PhyDbError × PhyDbMemory) : Outcome PhyDbError IwlPhyDb :=
  if call.1.all MemoryUse.fine then
    match call.2.1 with
    | some error => .error (.error error)
    | none => .ok call.2.2.db
  else .error .fault

theorem db_groups (is : type.chGroup = some kind) : mem.db.groups type = (mem.group kind).array := by
  cases type with
  | cfg => cases is
  | calibNch => cases is
  | calibChgPapd =>
    cases is
    rfl
  | calibChgTxp =>
    cases is
    rfl

theorem db_setGroup (is : type.chGroup = some kind) (entries : List IwlPhyDbEntry) (n : Int) :
    (mem.setGroup kind ⟨n, some entries⟩).db = mem.db.setGroups type entries := by
  cases type with
  | cfg => cases is
  | calibNch => cases is
  | calibChgPapd =>
    cases is
    rfl
  | calibChgTxp =>
    cases is
    rfl

theorem grouped_of_chGroup (is : type.chGroup = some kind) : type.grouped = true := by
  cases type <;> first | rfl | cases is

theorem db_getSection (is : type.chGroup = some kind) (chgId : Nat) :
    iwlPhyDbGetSection mem.db type chgId = (mem.group kind).entries[chgId]? := by
  unfold ChGroup.entries
  cases array : (mem.group kind).array with
  | some entries =>
    exact getSection_of_groups (grouped_of_chGroup is) ((db_groups is).trans array) chgId
  | none =>
    have missing : mem.db.groups type = none := (db_groups is).trans array
    have found : iwlPhyDbGetSection mem.db type chgId = if (chgId : Int) ≥ mem.db.nGroup type then none
        else (mem.db.groups type).bind fun groups => groups[chgId]? := by
      cases type <;> first | rfl | cases is
    rw [found, missing]
    exact ite_self _

theorem db_setEntry (is : type.chGroup = some kind) (here : (mem.group kind).entries[chgId]? ≠ none) :
    (mem.setGroup kind ((mem.group kind).set chgId entry)).db = mem.db.setEntry type chgId entry := by
  unfold ChGroup.entries at here
  cases array : (mem.group kind).array with
  | none =>
    rw [array] at here
    exact absurd rfl here
  | some entries =>
    rw [setEntry_of_groups (grouped_of_chGroup is) ((db_groups is).trans array)]
    unfold ChGroup.set
    rw [array]
    exact db_setGroup is (entries.set chgId entry) _

/-- Freeing a pointer, and what is done then. -/
theorem iwhFree_bind (data : DataPtr) (next : DataPtr → Outcome PhyDbError IwlPhyDb) :
    iwhFree data >>= next = if data != .stray then next data.freed else .error .fault := by
  cases data <;> rfl

/-- **Writing a section** is seen as it is in `iwlPhyDbSetSection`. -/
theorem writeSection_seen (sized : mem.Sized) (small : chgId < 2 ^ 16) (length : Nat) :
    seen (writeSection mem type chgId length) =
      match iwlPhyDbGetSection mem.db type chgId with
      | none => .error (.error .einval)
      | some entry => iwhFree entry.data >>= fun data => .ok (mem.db.setEntry type chgId ⟨length, data⟩) := by
  cases is : type.chGroup with
  | none =>
    unfold writeSection seen
    cases type with
    | cfg =>
      simp [getSection, PhyDbMemory.set, iwlPhyDbGetSection, iwhFree_bind, MemoryUse.fine, PhyDbMemory.db,
        IwlPhyDb.setEntry]
    | calibNch =>
      simp [getSection, PhyDbMemory.set, iwlPhyDbGetSection, iwhFree_bind, MemoryUse.fine, PhyDbMemory.db,
        IwlPhyDb.setEntry]
    | calibChgPapd => cases is
    | calibChgTxp => cases is
  | some kind =>
    rw [db_getSection is]
    unfold writeSection seen
    rw [getSection_group is, (sized.groups kind).section_eq, Nat.mod_eq_of_lt small]
    cases here : (mem.group kind).entries[chgId]? with
    | none => rfl
    | some entry =>
      obtain ⟨below, _⟩ := List.getElem?_eq_some_iff.mp here
      dsimp only
      rw [set_group is, Nat.mod_eq_of_lt small, db_setEntry is (by simp [here]), iwhFree_bind]
      simp [MemoryUse.fine, below]

/-- **A call of `iwl_phy_db_set_section`** is seen as `iwlPhyDbSetSection`. -/
theorem setSection_agrees (sized : mem.Sized) (fresh : Fresh) (notif : PhyDbNotif) (sent : IwlCalibResNotifPhyDb)
    (type : sent.type.toNat = notif.type) (length : sent.length.toNat = notif.payload.length)
    (chgId : sent.chgId.toNat = notif.chgId) :
    seen (setSection mem fresh sent) = iwlPhyDbSetSection mem.db fresh notif := by
  have small : notif.chgId < 2 ^ 16 := by
    rw [← chgId]
    exact sent.chgId.toNat_lt
  unfold setSection iwlPhyDbSetSection
  rw [type, length, chgId]
  cases SectionType.ofLe16 notif.type with
  | none => rfl
  | some type =>
    dsimp only
    cases is : type.chGroup with
    | none =>
      have plain : type.grouped = false := by cases type <;> first | rfl | cases is
      dsimp only
      rw [writeSection_seen sized (by decide), plain]
      rfl
    | some kind =>
      dsimp only
      rw [grouped_of_chGroup is, if_pos rfl, if_pos rfl]
      unfold makeArray makesGroups
      rw [db_groups is]
      cases array : (mem.group kind).array with
      | some entries => exact writeSection_seen sized small _
      | none =>
        cases fresh with
        | none => rfl
        | some memory =>
          have made : (mem.setGroup kind ⟨notif.chgId + 1, some (newGroups memory notif.chgId)⟩).Sized :=
            sized.setGroup (newGroups_sized memory small)
          have written := @writeSection_seen _ type _ made small notif.payload.length
          rw [db_setGroup is] at written
          exact written

/-! ### Freeing the store -/

/-- The pointer of this entry, if there is one, is not stray. -/
def fineAt (entries : List IwlPhyDbEntry) (i : Nat) : Bool := entries[i]?.all (·.data != .stray)

/-- Where an entry is made null, the others are as they were. -/
theorem fineAt_set {entries : List IwlPhyDbEntry} {i j : Nat} (fine : fineAt entries i = true) :
    fineAt (entries.set i ⟨0, .null⟩) j = fineAt entries j := by
  unfold fineAt at fine ⊢
  by_cases same : i = j
  · subst same
    rw [fine, List.getElem?_set]
    split
    · split <;> rfl
    · contradiction
  · rw [List.getElem?_set_ne same]

theorem freeSection_group (sized : mem.Sized) (is : type.chGroup = some kind) {i : Nat}
    (here : (mem.group kind).entries[i]? = some entry) :
    freeSection mem type i = ([.element i (mem.group kind).entries.length] ++ [.free entry.data],
      mem.setGroup kind ((mem.group kind).set i ⟨0, .null⟩)) := by
  obtain ⟨below, _⟩ := List.getElem?_eq_some_iff.mp here
  have small : i < 2 ^ 16 := Nat.lt_of_lt_of_le below (sized.groups kind).few
  unfold freeSection
  rw [getSection_group is, (sized.groups kind).section_eq, Nat.mod_eq_of_lt small, here]
  dsimp only
  rw [set_group is, Nat.mod_eq_of_lt small]

/-- **A loop of `iwl_phy_db_free`** uses memory well just when the pointers of its entries are not stray. -/
theorem freeSections_fine (sized : mem.Sized) (is : type.chGroup = some kind) (indices : List Nat)
    (inside : ∀ i ∈ indices, i < (mem.group kind).entries.length) :
    (AllFine (freeSections mem type indices).1 ↔ ∀ i ∈ indices, fineAt (mem.group kind).entries i = true) ∧
      (freeSections mem type indices).2.Sized ∧
      ∀ other, other ≠ kind → (freeSections mem type indices).2.group other = mem.group other := by
  induction indices generalizing mem with
  | nil => exact ⟨iff_of_true allFine_nil fun _ none => absurd none List.not_mem_nil, sized, fun _ _ => rfl⟩
  | cons i later ih =>
    rw [List.forall_mem_cons] at inside ⊢
    have here := List.getElem?_eq_getElem inside.1
    have step := freeSection_group sized is here
    obtain ⟨fine, kept, others⟩ := @ih (mem.setGroup kind ((mem.group kind).set i ⟨0, .null⟩))
      (setGroup_group_sized sized) fun j member => by
        rw [setGroup_same, entries_set, List.length_set]
        exact inside.2 j member
    have one : fineAt (mem.group kind).entries i = ((mem.group kind).entries[i].data != .stray) := by
      unfold fineAt
      rw [here]
      rfl
    unfold freeSections
    rw [step]
    dsimp only
    rw [setGroup_same, entries_set] at fine
    refine ⟨?_, kept, fun other apart => (others other apart).trans (Function.update_of_ne apart ..)⟩
    rw [allFine_append, allFine_element inside.1, fine, ← one]
    refine and_congr_right fun first => forall₂_congr fun j _ => ?_
    rw [fineAt_set first]

theorem all_fineAt_iff {entries : List IwlPhyDbEntry} :
    (∀ i ∈ List.range entries.length, fineAt entries i = true) ↔ entries.all (·.data != .stray) = true := by
  rw [List.all_eq_true]
  constructor
  · intro fine entry member
    obtain ⟨i, below, rfl⟩ := List.mem_iff_getElem.mp member
    have one := fine i (List.mem_range.mpr below)
    unfold fineAt at one
    rwa [List.getElem?_eq_getElem below] at one
  · intro fine i member
    have below := List.mem_range.mp member
    unfold fineAt
    rw [List.getElem?_eq_getElem below]
    exact fine _ (List.getElem_mem below)

/-- **What `iwl_phy_db_free` does** before it comes to the store is fine just when the pointers of all groups are not
stray. -/
theorem free_uses (sized : mem.Sized) : ∃ uses, iwlPhyDbFree mem = uses ++ [.mbufFree] ∧
    (AllFine uses ↔ ∀ kind, (mem.group kind).entries.all (·.data != .stray) = true) := by
  let plain : PhyDbMemory := { mem with cfg := ⟨0, .null⟩, calibNch := ⟨0, .null⟩ }
  let ofPapd := freeSections plain .calibChgPapd (List.range (mem.group .papd).nGroup.toNat)
  let ofTxp := freeSections ofPapd.2 .calibChgTxp (List.range (ofPapd.2.group .txp).nGroup.toNat)
  have split : iwlPhyDbFree mem = [.free mem.cfg.data] ++ [.free mem.calibNch.data] ++
      (ofPapd.1 ++ [.freeArray (ofPapd.2.group .papd).array]) ++
      (ofTxp.1 ++ [.freeArray (ofTxp.2.group .txp).array]) ++ [.mbufFree] := rfl
  have sizedPlain : plain.Sized := ⟨rfl, rfl, sized.groups⟩
  obtain ⟨papd, kept, others⟩ := @freeSections_fine _ .papd .calibChgPapd sizedPlain rfl
    (List.range (mem.group .papd).nGroup.toNat) fun i member => by
      rw [(sized.groups .papd).count] at member
      exact List.mem_range.mp member
  have same : ofPapd.2.group .txp = mem.group .txp := others .txp (by decide)
  obtain ⟨txp, _, _⟩ := @freeSections_fine _ .txp .calibChgTxp kept rfl (List.range (ofPapd.2.group .txp).nGroup.toNat)
    fun i member => by
      rw [same, (sized.groups .txp).count] at member
      rw [same]
      exact List.mem_range.mp member
  have null : AllFine [.free .null] := by simp [AllFine, MemoryUse.fine]
  have array (entries : Option (List IwlPhyDbEntry)) : AllFine [.freeArray entries] := by
    simp [AllFine, MemoryUse.fine]
  have papd : AllFine ofPapd.1 ↔ (mem.group .papd).entries.all (·.data != .stray) = true := by
    rw [papd, (sized.groups .papd).count]
    exact all_fineAt_iff
  have txp : AllFine ofTxp.1 ↔ (mem.group .txp).entries.all (·.data != .stray) = true := by
    rw [txp, same, (sized.groups .txp).count]
    exact all_fineAt_iff
  refine ⟨_, split, ?_⟩
  simp only [sized.cfg, sized.calibNch, allFine_append, null, array, papd, txp, and_true, true_and]
  exact ⟨fun both kind => by cases kind <;> [exact both.1; exact both.2], fun all => ⟨all .papd, all .txp⟩⟩

/-- The last step is never fine. -/
theorem not_fine_free (sized : mem.Sized) : ¬ AllFine (iwlPhyDbFree mem) := by
  obtain ⟨uses, split, _⟩ := free_uses sized
  rw [split]
  exact fun fine => nomatch fine .mbufFree (List.mem_append_right _ (List.mem_singleton.mpr rfl))

end Sized

/-! ### Runs -/

/-- The arrays of a store that is there have their sizes. -/
def PhyDbStore.Sized : PhyDbStore → Prop
  | .live mem => mem.Sized
  | .null | .freed => True

/-- **A call** uses memory well just when what it frees happens to be null, and keeps the sizes. -/
theorem call_usesWell {store : PhyDbStore} (sized : store.Sized) (call : PhyDbCall) :
    (UsesWell store call (phyDbCall store call).2 ↔ freesNull store call = true) ∧
      (phyDbCall store call).2.Sized := by
  cases store with
  | null => exact ⟨iff_of_true allFine_nil rfl, trivial⟩
  | freed => exact ⟨iff_of_false (fun well => nomatch well .gone List.mem_cons_self) Bool.false_ne_true, trivial⟩
  | live mem =>
    cases call with
    | setSection fresh notif => exact setSection_fine sized fresh notif
    | free => exact ⟨iff_of_false (not_fine_free sized) Bool.false_ne_true, trivial⟩

/-- **When every call of a run uses memory well**: just when the uncleared pointers that are freed happen to
be null, and a store that is there is never freed. -/
theorem storeSafe_iff (allocated : Bool) (calls : List PhyDbCall) :
    Machine.Throughout storeStep UsesWell (.start allocated) calls ↔
      Machine.allowed storeStep freesNull (.start allocated) calls = true := by
  refine Machine.throughout_iff_allowed PhyDbStore.Sized ?_ ?_ (fun store call => ⟨_, rfl⟩) ?_
  · rintro store call _ sized null ⟨⟩
    obtain ⟨well, kept⟩ := call_usesWell sized call
    exact ⟨kept, well.mpr null⟩
  · rintro store call _ sized stray ⟨⟩ well
    rw [(call_usesWell sized call).1.mp well] at stray
    cases stray
  · cases allocated with
    | false => trivial
    | true => exact sized_init

/-- The first section of a group, where the memory for its array is not zero. -/
def firstGroup : PhyDbCall := .setSection (some fun _ => ⟨0, false⟩) ⟨4, 8, 0⟩

/-- **What was in the memory of the array** is freed; and a store that is freed goes to `mbuf_free`. -/
theorem firstGroup_frees : (phyDbCall (.start true) firstGroup).1 = [.element 0 1, .free .stray] ∧
    ¬ Machine.Throughout storeStep UsesWell (.start true) [firstGroup] ∧
    (phyDbCall (.start true) .free).1 =
      [.free .null, .free .null, .freeArray none, .freeArray none, .mbufFree] ∧
    ¬ Machine.Throughout storeStep UsesWell (.start true) [.free] := by
  refine ⟨rfl, fun well => ?_, rfl, fun well => ?_⟩
  · exact nomatch (well _ rfl).1 (.free .stray) (List.mem_cons_of_mem _ List.mem_cons_self)
  · exact nomatch (well _ rfl).1 .mbufFree (List.mem_of_getLast? rfl)

end IntelWifi.Phy
