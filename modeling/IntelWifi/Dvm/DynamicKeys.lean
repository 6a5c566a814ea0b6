/-
**Dynamic keys.**

The device has eight key slots, or sixteen with PAN, and `ucode_key_table` has one bit for each.
`iwl_set_dynamic_key` takes the first free slot, counts the key in its context and sends the key;
`iwl_remove_dynamic_key` gives all of it back, unless the station is gone. Of the command the model
has what comes of it; the key material and the flags in it are left out.

* `dynamicKeys`: the bits are the slots of the installed keys, no two keys share a slot, a slot is
  found unless all are held, and the counters are the numbers of installed keys.
* `dynamicKeys_broken`: the counters are not those of the pairwise keys, and a removal that succeeds
  may keep the slot.
-/

import IntelWifi.Dvm.Stations
import IntelWifi.Porting.Bitfield
import IntelWifi.Lib.Machine
import Mathlib.Data.List.Perm.Basic
import Mathlib.Data.List.Nodup

namespace IntelWifi.Dvm

open Porting

/-- `keyconf->cipher`, as far as the driver knows it. -/
inductive Cipher where
  | ccmp
  | tkip
  | wep40
  | wep104
  | other
  deriving DecidableEq, Repr

/-- `sta_key_max_num`: `STA_KEY_MAX_NUM_PAN` or `STA_KEY_MAX_NUM`. -/
def staKeyMaxNum (pan : Bool) : Nat := if pan then 16 else 8

/-- `WEP_INVALID_OFFSET`. -/
def wepInvalidOffset : Nat := 0xff

/-- Whom a key is for: `sta`, if there is one, with its id, and the interface of the context. -/
structure KeyTarget where
  sta : Option (Option StaId)
  vifStation : Bool
  vifCtx : Option CtxId
  deriving DecidableEq, Repr

/-- `iwlagn_key_sta_id`. -/
def iwlagnKeyStaId (target : KeyTarget) : Option StaId :=
  match target.sta with
  | some staId => staId
  | none => if target.vifStation then target.vifCtx.map CtxId.apStaId else none

/-- A key that was set and not removed since, which only statements read. -/
structure InstalledKey (Key : Type) where
  key : Key
  ctx : CtxId
  pairwise : Bool

/-- The key part of `struct iwl_priv`, and `hw_key_idx` of every key. -/
structure KeyState (Key : Type) where
  priv : IwlPriv
  ucodeKeyTable : Word
  keyMappingKeys : CtxId → UInt8
  hwKeyIdx : Key → Nat
  installed : List (InstalledKey Key)

/-- An operation on an array of one word. -/
def onWord (op : List Word → List Word) (table : Word) : Word := (op [table]).headD 0

/-- The loop of `iwl_get_free_ucode_key_offset`. -/
def takesOffset (table : Word) : List Nat → Nat × Word
  | [] => (wepInvalidOffset, table)
  | i :: later =>
    match testAndSetBit i [table] with
    | (false, after) => (i, after.headD 0)
    | (true, after) => takesOffset (after.headD 0) later

/-- `iwl_get_free_ucode_key_offset`. -/
def iwlGetFreeUcodeKeyOffset (pan : Bool) (table : Word) : Nat × Word :=
  takesOffset table (List.range (staKeyMaxNum pan))

/-- `iwlagn_send_sta_key`. -/
def iwlagnSendStaKey (priv : IwlPriv) (cipher : Cipher) (staId : StaId) (answer : StaAnswer) :
    Option StaError × IwlPriv :=
  match cipher with
  | .ccmp | .tkip | .wep104 | .wep40 => iwlSendAddSta priv (priv.stations staId).staId answer
  | .other => (some .einval, priv)

section Keys

variable {Key : Type} [DecidableEq Key]

/-- Nothing is installed. -/
def KeyState.empty : KeyState Key := ⟨.empty, 0, fun _ => 0, fun _ => 0, []⟩

/-- `iwl_set_dynamic_key`. -/
def iwlSetDynamicKey (pan : Bool) (state : KeyState Key) (ctx : CtxId) (key : Key) (cipher : Cipher)
    (target : KeyTarget) (answer : StaAnswer) : Option StaError × KeyState Key :=
  match iwlagnKeyStaId target with
  | none => (some .einval, state)
  | some staId =>
    let (offset, table) := iwlGetFreeUcodeKeyOffset pan state.ucodeKeyTable
    let state := { state with
      ucodeKeyTable := table
      hwKeyIdx := Function.update state.hwKeyIdx key offset }
    if offset = wepInvalidOffset then (some .enospc, state)
    else
      let counted := Function.update state.keyMappingKeys ctx (state.keyMappingKeys ctx + 1)
      let (ret, priv) := match cipher with
        | .tkip | .ccmp | .wep40 | .wep104 => iwlagnSendStaKey state.priv cipher staId answer
        | .other => (some .einval, state.priv)
      if ret.isSome then
        (ret, { state with
          priv := priv
          keyMappingKeys := Function.update counted ctx (counted ctx - 1)
          ucodeKeyTable := onWord (clearBit offset) state.ucodeKeyTable })
      else (ret, { state with priv := priv, keyMappingKeys := counted })

/-- `iwl_remove_dynamic_key`. -/
def iwlRemoveDynamicKey (state : KeyState Key) (ctx : CtxId) (key : Key) (target : KeyTarget)
    (answer : StaAnswer) : Option StaError × KeyState Key :=
  match iwlagnKeyStaId target with
  | none => (some .enoent, state)
  | some staId =>
    let entry := state.priv.stations staId
    if !entry.used.ucodeActive then (none, state)
    else
      let (ret, priv) := iwlSendAddSta state.priv entry.staId answer
      (ret, { state with
        priv := priv
        keyMappingKeys := Function.update state.keyMappingKeys ctx (state.keyMappingKeys ctx - 1)
        ucodeKeyTable := onWord (fun table => (testAndClearBit (state.hwKeyIdx key) table).2)
          state.ucodeKeyTable })

/-! ### Runs -/

/-- A call: a key is set or removed, or something happens to the stations. -/
inductive KeyOp (Key : Type) where
  | set (ctx : CtxId) (key : Key) (pairwise : Bool) (cipher : Cipher) (target : KeyTarget)
    (answer : StaAnswer)
  | remove (ctx : CtxId) (key : Key) (target : KeyTarget) (answer : StaAnswer)
  | station (op : StaOp)

/-- A key is installed from when it is set without an error until it is removed, unless the station
of the removal does not exist. `iwl_clear_driver_stations` clears the key table too. -/
def keyStep (pan : Bool) (state : KeyState Key) : KeyOp Key → Option (KeyState Key)
  | .set ctx key pairwise cipher target answer =>
    let (ret, state) := iwlSetDynamicKey pan state ctx key cipher target answer
    if ret.isSome then some state
    else some { state with installed := ⟨key, ctx, pairwise⟩ :: state.installed }
  | .remove ctx key target answer =>
    let (ret, state) := iwlRemoveDynamicKey state ctx key target answer
    if ret = some .enoent then some state
    else some { state with installed := state.installed.eraseP fun held => held.key = key }
  | .station .clearDriver =>
    some { KeyState.empty with hwKeyIdx := state.hwKeyIdx }
  | .station op => some { state with priv := op.apply state.priv }

/-- What the callers see to: a key is not set twice, and what is removed is an installed key, in its
context; and its station is still there. -/
def KeyOp.orderly (state : KeyState Key) : KeyOp Key → Bool
  | .set _ key _ _ _ _ => state.installed.all fun held => held.key ≠ key
  | .remove ctx key target _ =>
    match iwlagnKeyStaId target with
    | none => true
    | some staId => (state.installed.any fun held => held.key = key ∧ held.ctx = ctx) &&
        (state.priv.stations staId).used.ucodeActive
  | .station _ => true

/-! ### One word -/

theorem testAndSetBit_word (table : Word) {i : Nat} (below : i < 64) :
    testAndSetBit i [table] = (table.getLsbD i, [table ||| BitVec.twoPow 64 i]) := by
  unfold testAndSetBit wordAt bitMask bitWord bitsPerLong
  rw [Nat.div_eq_of_lt below, Nat.mod_eq_of_lt below]
  dsimp only
  rw [and_twoPow_ne_zero]
  rfl

theorem onWord_clearBit (table : Word) {i : Nat} (below : i < 64) (j : Nat) :
    (onWord (clearBit i) table).getLsbD j = (table.getLsbD j && !decide (i = j)) := by
  unfold onWord
  have head := headD_modify [table] i (osBitAndAtomic64 (~~~bitMask i)) (by simp)
  rw [if_pos below] at head
  unfold clearBit
  rw [head, osBitAnd_getLsbD, BitVec.getLsbD_not, bitMask_getLsbD, Nat.mod_eq_of_lt below]
  by_cases inWord : j < 64
  · simp [inWord]
  · have beyond : table.getLsbD j = false := BitVec.getLsbD_of_ge table j (by omega)
    simp [beyond]

theorem onWord_testAndClearBit (table : Word) (i : Nat) :
    onWord (fun word => (testAndClearBit i word).2) table = onWord (clearBit i) table := by
  unfold onWord
  dsimp only
  rw [testAndClearBit_snd]

/-! ### Slots -/

/-- **What the scan finds**: the first free position, which it takes, or none, when all are taken. -/
theorem takesOffset_spec (table : Word) (later : List Nat) (below : ∀ i ∈ later, i < 64) :
    (∃ i ∈ later, table.getLsbD i = false ∧
      takesOffset table later = (i, table ||| BitVec.twoPow 64 i)) ∨
    (∀ i ∈ later, table.getLsbD i = true) ∧ takesOffset table later = (wepInvalidOffset, table) := by
  induction later with
  | nil => exact .inr ⟨by simp, rfl⟩
  | cons i later ih =>
    have here := below i List.mem_cons_self
    unfold takesOffset
    rw [testAndSetBit_word table here]
    cases bit : table.getLsbD i with
    | false => exact .inl ⟨i, List.mem_cons_self, bit, rfl⟩
    | true =>
      have unchanged : table ||| BitVec.twoPow 64 i = table := by
        ext j inWord
        rw [BitVec.getElem_or, BitVec.getElem_twoPow, ← BitVec.getLsbD_eq_getElem]
        by_cases same : j = i
        · subst same
          simp [bit]
        · simp [same]
      dsimp only [List.headD_cons]
      rw [unchanged]
      rcases ih fun j member => below j (List.mem_cons_of_mem i member) with
        ⟨j, member, free, taken⟩ | ⟨held, taken⟩
      · exact .inl ⟨j, List.mem_cons_of_mem i member, free, taken⟩
      · refine .inr ⟨fun j member => ?_, taken⟩
        rcases List.mem_cons.mp member with rfl | member
        · exact bit
        · exact held j member

theorem staKeyMaxNum_le (pan : Bool) : staKeyMaxNum pan ≤ 16 := by cases pan <;> decide

/-- **What `iwl_get_free_ucode_key_offset` gives.** -/
theorem getFreeUcodeKeyOffset_spec (pan : Bool) (table : Word) :
    (∃ i < staKeyMaxNum pan, table.getLsbD i = false ∧
      iwlGetFreeUcodeKeyOffset pan table = (i, table ||| BitVec.twoPow 64 i)) ∨
    (∀ i < staKeyMaxNum pan, table.getLsbD i = true) ∧
      iwlGetFreeUcodeKeyOffset pan table = (wepInvalidOffset, table) := by
  have few := staKeyMaxNum_le pan
  rcases takesOffset_spec table (List.range (staKeyMaxNum pan))
      (fun i member => by rw [List.mem_range] at member; omega) with
    ⟨i, member, free, taken⟩ | ⟨held, taken⟩
  · exact .inl ⟨i, List.mem_range.mp member, free, taken⟩
  · exact .inr ⟨fun i below => held i (List.mem_range.mpr below), taken⟩

/-! ### The invariant -/

/-- **Who holds what.** -/
structure KeysHeld (pan : Bool) (state : KeyState Key) : Prop where
  slots : ∀ i, state.ucodeKeyTable.getLsbD i = true ↔
    ∃ held ∈ state.installed, state.hwKeyIdx held.key = i
  distinct : (state.installed.map fun held => state.hwKeyIdx held.key).Nodup
  below : ∀ held ∈ state.installed, state.hwKeyIdx held.key < staKeyMaxNum pan
  counts : ∀ ctx, (state.keyMappingKeys ctx).toNat =
    state.installed.countP fun held => held.ctx = ctx

omit [DecidableEq Key] in
theorem keysHeld_empty (pan : Bool) (hwKeyIdx : Key → Nat) :
    KeysHeld pan { KeyState.empty with hwKeyIdx := hwKeyIdx } where
  slots i := by simp [KeyState.empty]
  distinct := List.nodup_nil
  below := by simp [KeyState.empty]
  counts ctx := rfl

variable {pan : Bool} {state : KeyState Key}

omit [DecidableEq Key] in
/-- There are no more keys than slots. -/
theorem KeysHeld.length_le (held : KeysHeld pan state) :
    state.installed.length ≤ staKeyMaxNum pan := by
  have within : (state.installed.map fun held => state.hwKeyIdx held.key) ⊆
      List.range (staKeyMaxNum pan) := by
    intro i member
    obtain ⟨entry, present, rfl⟩ := List.mem_map.mp member
    exact List.mem_range.mpr (held.below entry present)
  have short := (held.distinct.subperm within).length_le
  rwa [List.length_map, List.length_range] at short

/-- The slot of a key that is not installed does not matter, nor do the stations. -/
theorem KeysHeld.reindex (held : KeysHeld pan state) {key : Key}
    (absent : ∀ entry ∈ state.installed, entry.key ≠ key) (offset : Nat) (priv : IwlPriv) :
    KeysHeld pan { state with
      priv := priv
      hwKeyIdx := Function.update state.hwKeyIdx key offset } := by
  have same : ∀ entry ∈ state.installed,
      Function.update state.hwKeyIdx key offset entry.key = state.hwKeyIdx entry.key :=
    fun entry member => Function.update_of_ne (absent entry member) ..
  refine ⟨fun i => ?_, ?_, fun entry member => ?_, held.counts⟩
  · rw [held.slots i]
    refine exists_congr fun entry => and_congr_right fun member => ?_
    show _ ↔ Function.update state.hwKeyIdx key offset entry.key = i
    rw [same entry member]
  · dsimp only
    rw [List.map_congr_left same]
    exact held.distinct
  · show Function.update state.hwKeyIdx key offset entry.key < staKeyMaxNum pan
    rw [same entry member]
    exact held.below entry member

/-- **A key is installed** in a free slot. -/
theorem KeysHeld.install (held : KeysHeld pan state) {ctx : CtxId} {key : Key} {offset : Nat}
    (pairwise : Bool) (absent : ∀ entry ∈ state.installed, entry.key ≠ key)
    (inside : offset < staKeyMaxNum pan) (free : state.ucodeKeyTable.getLsbD offset = false)
    (priv : IwlPriv) :
    KeysHeld pan
      { priv := priv
        ucodeKeyTable := state.ucodeKeyTable ||| BitVec.twoPow 64 offset
        keyMappingKeys := Function.update state.keyMappingKeys ctx (state.keyMappingKeys ctx + 1)
        hwKeyIdx := Function.update state.hwKeyIdx key offset
        installed := ⟨key, ctx, pairwise⟩ :: state.installed } := by
  have moved := held.reindex absent offset priv
  have few := held.length_le
  have limit := staKeyMaxNum_le pan
  refine ⟨fun i => ?_, ?_, ?_, fun other => ?_⟩
  · have before := moved.slots i
    dsimp only at before ⊢
    rw [List.exists_mem_cons_iff, Function.update_self, ← before, BitVec.getLsbD_or,
      BitVec.getLsbD_twoPow, Bool.or_eq_true, Bool.and_eq_true, decide_eq_true_eq, decide_eq_true_eq]
    constructor
    · rintro (bit | ⟨_, rfl⟩)
      · exact .inr bit
      · exact .inl rfl
    · rintro (rfl | bit)
      · exact .inr ⟨by omega, rfl⟩
      · exact .inl bit
  · dsimp only
    rw [List.map_cons, Function.update_self, List.nodup_cons]
    refine ⟨fun member => ?_, moved.distinct⟩
    obtain ⟨entry, member, same⟩ := List.mem_map.mp member
    have bit := (moved.slots offset).mpr ⟨entry, member, same⟩
    rw [free] at bit
    cases bit
  · refine List.forall_mem_cons.mpr ⟨?_, moved.below⟩
    show Function.update state.hwKeyIdx key offset key < _
    rw [Function.update_self]
    exact inside
  · have now := held.counts other
    have here : (state.installed.countP fun entry => entry.ctx = other) ≤ 16 :=
      (List.countP_le_length).trans (few.trans limit)
    dsimp only
    rw [List.countP_cons]
    by_cases same : other = ctx
    · subst same
      rw [Function.update_self, UInt8.toNat_add, now]
      simp only [decide_true, if_true, UInt8.reduceToNat]
      exact Nat.mod_eq_of_lt (by omega)
    · rw [Function.update_of_ne same, now]
      simp [Ne.symm same]

/-- **A key is removed**: its slot is free, and its context has one key less. -/
theorem KeysHeld.release (held : KeysHeld pan state) {ctx : CtxId} {key : Key}
    (present : ∃ entry ∈ state.installed, entry.key = key ∧ entry.ctx = ctx) (priv : IwlPriv) :
    KeysHeld pan
      { priv := priv
        ucodeKeyTable := onWord (clearBit (state.hwKeyIdx key)) state.ucodeKeyTable
        keyMappingKeys := Function.update state.keyMappingKeys ctx (state.keyMappingKeys ctx - 1)
        hwKeyIdx := state.hwKeyIdx
        installed := state.installed.eraseP fun entry => entry.key = key } := by
  obtain ⟨entry, member, here, itsCtx⟩ := present
  obtain ⟨gone, earlier, later, _, itsKey, split, erased⟩ :=
    @List.exists_of_eraseP _ (fun entry : InstalledKey Key => decide (entry.key = key)) _ entry member
      (decide_eq_true here)
  have itsKey : gone.key = key := of_decide_eq_true itsKey
  -- both entries with this key are one, since their slots are
  have order : state.installed.Perm (gone :: (earlier ++ later)) := by
    rw [split]
    exact List.perm_middle
  have distinct := ((order.map fun held => state.hwKeyIdx held.key).nodup_iff).mp held.distinct
  rw [List.map_cons, List.nodup_cons] at distinct
  have goneCtx : gone.ctx = ctx := by
    rcases List.mem_cons.mp (order.mem_iff.mp member) with rfl | other
    · exact itsCtx
    · refine absurd (List.mem_map.mpr ⟨entry, other, ?_⟩) distinct.1
      rw [here, itsKey]
  have few := held.length_le
  have limit := staKeyMaxNum_le pan
  have inside : state.hwKeyIdx key < 64 := by
    have below := held.below entry member
    rw [here] at below
    omega
  rw [erased]
  refine ⟨fun i => ?_, distinct.2, fun other kept => ?_, fun other => ?_⟩
  · have before := held.slots i
    simp only [order.mem_iff, List.exists_mem_cons_iff] at before
    rw [onWord_clearBit _ inside, Bool.and_eq_true, before, itsKey, Bool.not_eq_true',
      decide_eq_false_iff_not]
    constructor
    · rintro ⟨same | kept, apart⟩
      · exact absurd same apart
      · exact kept
    · rintro ⟨other, kept, rfl⟩
      refine ⟨.inr ⟨other, kept, rfl⟩, fun same => distinct.1 ?_⟩
      exact List.mem_map.mpr ⟨other, kept, by rw [itsKey]; exact same.symm⟩
  · exact held.below other (order.mem_iff.mpr (List.mem_cons_of_mem gone kept))
  · have now := held.counts other
    dsimp only
    rw [order.countP_eq, List.countP_cons, goneCtx] at now
    by_cases same : other = ctx
    · subst same
      simp only [decide_true, if_true] at now
      rw [Function.update_self, UInt8.toNat_sub_of_le _ _ (by rw [UInt8.le_iff_toNat_le, now]; simp), now]
      exact Nat.add_sub_cancel ..
    · rw [Function.update_of_ne same, now]
      simp [Ne.symm same]

/-! ### The calls -/

theorem orderly_set {ctx : CtxId} {key : Key} {pairwise : Bool} {cipher : Cipher}
    {target : KeyTarget} {answer : StaAnswer}
    (orderly : (KeyOp.set ctx key pairwise cipher target answer).orderly state = true) :
    ∀ entry ∈ state.installed, entry.key ≠ key := by
  intro entry member
  exact of_decide_eq_true (List.all_eq_true.mp orderly entry member)

/-- The counter of a context goes up and down again. -/
theorem counted_back (counts : CtxId → UInt8) (ctx : CtxId) :
    Function.update (Function.update counts ctx (counts ctx + 1)) ctx
      (Function.update counts ctx (counts ctx + 1) ctx - 1) = counts := by
  rw [Function.update_idem, Function.update_self, UInt8.add_sub_cancel, Function.update_eq_self]

/-- A bit is taken and given back. -/
theorem clearBit_taken (table : Word) {i : Nat} (below : i < 64) (free : table.getLsbD i = false) :
    onWord (clearBit i) (table ||| BitVec.twoPow 64 i) = table := by
  refine BitVec.eq_of_getLsbD_eq fun j inWord => ?_
  rw [onWord_clearBit _ below, BitVec.getLsbD_or, BitVec.getLsbD_twoPow]
  by_cases same : i = j
  · subst same
    simp [free]
  · simp [same]

/-- **What `iwl_set_dynamic_key` does**: it fails and holds nothing, or it takes a free slot. -/
theorem setDynamicKey_cases (pan : Bool) (state : KeyState Key) (ctx : CtxId) (key : Key)
    (cipher : Cipher) (target : KeyTarget) (answer : StaAnswer) :
    (∃ e, iwlSetDynamicKey pan state ctx key cipher target answer = (some e, state)) ∨
    (∃ e offset priv, iwlSetDynamicKey pan state ctx key cipher target answer =
      (some e, { state with
        priv := priv
        hwKeyIdx := Function.update state.hwKeyIdx key offset })) ∨
    ∃ offset priv, offset < staKeyMaxNum pan ∧ state.ucodeKeyTable.getLsbD offset = false ∧
      iwlSetDynamicKey pan state ctx key cipher target answer =
        (none, { state with
          priv := priv
          ucodeKeyTable := state.ucodeKeyTable ||| BitVec.twoPow 64 offset
          keyMappingKeys := Function.update state.keyMappingKeys ctx (state.keyMappingKeys ctx + 1)
          hwKeyIdx := Function.update state.hwKeyIdx key offset }) := by
  unfold iwlSetDynamicKey
  cases iwlagnKeyStaId target with
  | none => exact .inl ⟨_, rfl⟩
  | some staId =>
    dsimp only
    rcases getFreeUcodeKeyOffset_spec pan state.ucodeKeyTable with
      ⟨offset, inside, free, taken⟩ | ⟨_, taken⟩
    · have limit := staKeyMaxNum_le pan
      have valid : offset ≠ wepInvalidOffset := by
        unfold wepInvalidOffset
        omega
      rw [taken]
      dsimp only
      rw [if_neg valid]
      generalize (match cipher with
        | .tkip | .ccmp | .wep40 | .wep104 => iwlagnSendStaKey state.priv cipher staId answer
        | .other => (some .einval, state.priv)) = sent
      obtain ⟨ret, priv⟩ := sent
      cases ret with
      | none => exact .inr (.inr ⟨offset, priv, inside, free, rfl⟩)
      | some e =>
        refine .inr (.inl ⟨e, offset, priv, ?_⟩)
        dsimp only [Option.isSome_some]
        rw [if_pos rfl, counted_back, clearBit_taken _ (by omega) free]
    · rw [taken]
      exact .inr (.inl ⟨_, wepInvalidOffset, state.priv, rfl⟩)

/-- **What `iwl_remove_dynamic_key` does** to an installed key: the station does not exist, or the
slot is released whatever comes of the command. -/
theorem removeDynamicKey_cases {ctx : CtxId} {key : Key} {target : KeyTarget} {answer : StaAnswer}
    (orderly : (KeyOp.remove ctx key target answer).orderly state = true) :
    iwlRemoveDynamicKey state ctx key target answer = (some .enoent, state) ∨
    (∃ entry ∈ state.installed, entry.key = key ∧ entry.ctx = ctx) ∧
    ∃ ret priv, ret ≠ some .enoent ∧ iwlRemoveDynamicKey state ctx key target answer =
      (ret, { state with
        priv := priv
        ucodeKeyTable := onWord (clearBit (state.hwKeyIdx key)) state.ucodeKeyTable
        keyMappingKeys := Function.update state.keyMappingKeys ctx (state.keyMappingKeys ctx - 1) }) := by
  unfold KeyOp.orderly at orderly
  dsimp only at orderly
  unfold iwlRemoveDynamicKey
  cases found : iwlagnKeyStaId target with
  | none => exact .inl rfl
  | some staId =>
    rw [found] at orderly
    dsimp only at orderly ⊢
    rw [Bool.and_eq_true, List.any_eq_true] at orderly
    obtain ⟨⟨entry, member, matched⟩, active⟩ := orderly
    refine .inr ⟨⟨entry, member, of_decide_eq_true matched⟩, ?_⟩
    rw [active, onWord_testAndClearBit, sendAddSta_eq]
    refine ⟨answer.error, _, ?_, rfl⟩
    cases answer with
    | failed => simp [StaAnswer.error]
    | status code =>
      unfold StaAnswer.error
      split <;> simp

/-- **An orderly call keeps the invariant.** -/
theorem KeysHeld.step (held : KeysHeld pan state) (op : KeyOp Key)
    (orderly : op.orderly state = true) {next : KeyState Key}
    (stepped : keyStep pan state op = some next) : KeysHeld pan next := by
  cases op with
  | set ctx key pairwise cipher target answer =>
    have absent := orderly_set orderly
    unfold keyStep at stepped
    dsimp only at stepped
    rcases setDynamicKey_cases pan state ctx key cipher target answer with
      ⟨e, result⟩ | ⟨e, offset, priv, result⟩ | ⟨offset, priv, inside, free, result⟩ <;>
      rw [result] at stepped <;> obtain rfl := Option.some.inj stepped
    · exact held
    · exact held.reindex absent offset priv
    · exact held.install pairwise absent inside free priv
  | remove ctx key target answer =>
    unfold keyStep at stepped
    dsimp only at stepped
    rcases removeDynamicKey_cases orderly with result | ⟨present, ret, priv, apart, result⟩
    · rw [result] at stepped
      obtain rfl := Option.some.inj stepped
      exact held
    · rw [result] at stepped
      dsimp only at stepped
      rw [if_neg apart] at stepped
      obtain rfl := Option.some.inj stepped
      exact held.release present priv
  | station op =>
    cases op with
    | clearDriver =>
      obtain rfl := Option.some.inj stepped
      exact keysHeld_empty pan state.hwKeyIdx
    | _ =>
      obtain rfl := Option.some.inj stepped
      exact ⟨held.slots, held.distinct, held.below, held.counts⟩

/-- **The key slots in a state.** -/
structure KeySlots (pan : Bool) (state : KeyState Key) : Prop where
  slots : ∀ i, state.ucodeKeyTable.getLsbD i = true ↔
    ∃ held ∈ state.installed, state.hwKeyIdx held.key = i
  apart : state.installed.Pairwise fun held other => state.hwKeyIdx held.key ≠ state.hwKeyIdx other.key
  full : (iwlGetFreeUcodeKeyOffset pan state.ucodeKeyTable).1 = wepInvalidOffset ↔
    ∀ i < staKeyMaxNum pan, ∃ held ∈ state.installed, state.hwKeyIdx held.key = i
  total : (state.keyMappingKeys .bss).toNat + (state.keyMappingKeys .pan).toNat =
    state.installed.length
  released : ∀ ctx key target answer,
    (KeyOp.remove ctx key target answer).orderly state = true →
    (iwlRemoveDynamicKey state ctx key target answer).1 = none →
    (iwlRemoveDynamicKey state ctx key target answer).2.ucodeKeyTable.getLsbD (state.hwKeyIdx key) = false

omit [DecidableEq Key] in
/-- A key is counted in its context. -/
theorem length_eq_countP (installed : List (InstalledKey Key)) :
    (installed.countP fun held => held.ctx = .bss) + (installed.countP fun held => held.ctx = .pan) =
      installed.length := by
  rw [List.length_eq_countP_add_countP fun held : InstalledKey Key => decide (held.ctx = .bss)]
  congr 1
  refine List.countP_congr fun held _ => ?_
  cases held.ctx <;> decide

theorem KeysHeld.keySlots (held : KeysHeld pan state) : KeySlots pan state := by
  refine ⟨held.slots, List.pairwise_map.mp held.distinct, ?_, ?_, fun ctx key target answer orderly passed => ?_⟩
  · have limit := staKeyMaxNum_le pan
    rcases getFreeUcodeKeyOffset_spec pan state.ucodeKeyTable with
      ⟨offset, inside, free, taken⟩ | ⟨full, taken⟩
    · rw [taken]
      refine ⟨fun invalid => ?_, fun all => ?_⟩
      · unfold wepInvalidOffset at invalid
        dsimp only at invalid
        omega
      · have bit := (held.slots offset).mpr (all offset inside)
        rw [free] at bit
        cases bit
    · rw [taken]
      exact ⟨fun _ i below => (held.slots i).mp (full i below), fun _ => rfl⟩
  · rw [held.counts, held.counts, length_eq_countP]
  · rcases removeDynamicKey_cases orderly with result | ⟨⟨entry, member, here, _⟩, ret, priv, _, result⟩
    · rw [result] at passed
      cases passed
    · have below := held.below entry member
      have limit := staKeyMaxNum_le pan
      rw [here] at below
      rw [result]
      dsimp only
      rw [onWord_clearBit _ (by omega)]
      simp

/-- **Dynamic key slots**, after every run of orderly calls. -/
theorem dynamicKeys (pan : Bool) (ops : List (KeyOp Key)) (last : KeyState Key)
    (orderly : Machine.allowed (keyStep pan) (fun state op => op.orderly state) .empty ops = true)
    (ran : Machine.run (keyStep pan) .empty ops = some last) : KeySlots pan last := by
  refine KeysHeld.keySlots ?_
  exact Machine.run_invariant_of_allowed (KeysHeld pan)
    (fun state op next held orderly stepped => held.step op orderly stepped)
    (keysHeld_empty pan fun _ => 0) orderly ran

end Keys

/-- The AP of a station interface. -/
def apTarget : KeyTarget := ⟨none, true, some .bss⟩

/-- A pairwise and a group key for the AP, then the pairwise key is removed. -/
def rekey : List (KeyOp Bool) :=
  [.set .bss true true .ccmp apTarget (.status 1), .set .bss false false .ccmp apTarget (.status 1),
    .remove .bss true apTarget (.status 1)]

theorem dynamicKeys_rekey : ∃ last, Machine.run (keyStep false) .empty rekey = some last ∧
    KeySlots false last :=
  ⟨_, rfl, dynamicKeys false rekey _ (by decide) rfl⟩

/-- A group key, then the device's stations are cleared, then the key is removed. -/
def staleRemoval : List (KeyOp Unit) :=
  [.set .bss () false .ccmp apTarget (.status 1), .station (.clearUcode none),
    .remove .bss () apTarget (.status 1)]

/-- A key is removed that was never set. -/
def strayRemoval : List (KeyOp Unit) :=
  [.station (.activate CtxId.bss.apStaId), .remove .bss () apTarget (.status 1)]

/-- A key is set twice. -/
def setTwice : List (KeyOp Unit) :=
  [.set .bss () true .ccmp apTarget (.status 1), .set .bss () true .ccmp apTarget (.status 1)]

/-- **The counters count group keys**, so they are not the number of pairwise keys; they go down for
keys that were never set; a key set twice loses its first slot; and a removal that returns 0 without
the station leaves the slot held with no key installed. -/
theorem dynamicKeys_broken :
    (∃ state, Machine.run (keyStep false) .empty (staleRemoval.take 1) = some state ∧
      (state.keyMappingKeys .bss).toNat + (state.keyMappingKeys .pan).toNat ≠
        state.installed.countP InstalledKey.pairwise) ∧
    (∃ state, Machine.run (keyStep false) .empty strayRemoval = some state ∧
      (state.keyMappingKeys .bss).toNat = 255 ∧ state.installed.length = 0) ∧
    (∃ state, Machine.run (keyStep false) .empty setTwice = some state ∧
      state.ucodeKeyTable.getLsbD 0 = true ∧ state.hwKeyIdx () ≠ 0) ∧
    (∃ state, Machine.run (keyStep false) .empty (staleRemoval.take 2) = some state ∧
      (iwlRemoveDynamicKey state .bss () apTarget (.status 1)).1 = none) ∧
    ∃ state, Machine.run (keyStep false) .empty staleRemoval = some state ∧
      state.installed.length = 0 ∧ state.ucodeKeyTable.getLsbD 0 = true :=
  ⟨⟨_, rfl, by decide⟩, ⟨_, rfl, by decide⟩, ⟨_, rfl, by decide⟩, ⟨_, rfl, by decide⟩,
    ⟨_, rfl, by decide⟩⟩

end IntelWifi.Dvm
