/-
**Who is who in the station table.**

`iwl_prep_station` looks for an address in all entries from `IWL_STA_ID` on, also in unused ones and in
those of the broadcast stations, and else takes the first unused entry.

* `Distinct`: an address other than zero and broadcast is in one of these entries at most.
* `stationIdentity`: after every run, what follows for the stations in use, and that the broadcast
  entries are not given away while they are left to the functions for broadcast stations.
* `identity_broken`: what goes wrong with the zero address, and with a broadcast entry removed.
-/

import IntelWifi.Dvm.Stations

namespace IntelWifi.Dvm

/-! ### Addresses -/

theorem and_eq_ff (a b : UInt8) : a &&& b = 0xff ↔ a = 0xff ∧ b = 0xff := by
  rw [← UInt8.toBitVec_inj, ← UInt8.toBitVec_inj, ← UInt8.toBitVec_inj, UInt8.toBitVec_and]
  exact BitVec.and_eq_allOnes_iff

/-- `is_broadcast_ether_addr` tells just `iwl_bcast_addr`. -/
theorem isBroadcastEtherAddr_iff (addr : EthAddr) :
    isBroadcastEtherAddr addr = true ↔ addr = iwlBcastAddr := by
  unfold isBroadcastEtherAddr
  rw [Bool.and_eq_true, beq_iff_eq, beq_iff_eq, and_eq_ff, and_eq_ff, and_eq_ff, and_eq_ff]
  constructor
  · rintro ⟨⟨⟨zero, two⟩, four⟩, ⟨one, three⟩, five⟩
    refine Vector.ext fun i inside => ?_
    have cases : i = 0 ∨ i = 1 ∨ i = 2 ∨ i = 3 ∨ i = 4 ∨ i = 5 := by omega
    rcases cases with rfl | rfl | rfl | rfl | rfl | rfl <;> assumption
  · rintro rfl
    decide

/-! ### The scan -/

theorem mem_scanIds (i : StaId) : i ∈ scanIds ↔ 2 ≤ i.val := by
  revert i
  decide

/-- **What the scan finds**: an entry with the address, or else an unused one. -/
theorem scanStations_spec (priv : IwlPriv) (addr : EthAddr) (ids : List StaId) (found : Option StaId) :
    (∃ i ∈ ids, (priv.stations i).addr = addr ∧ scanStations priv addr ids found = some i) ∨
      (∀ i ∈ ids, (priv.stations i).addr ≠ addr) ∧
        ∀ i, scanStations priv addr ids found = some i →
          found = some i ∨ i ∈ ids ∧ (priv.stations i).used.any = false := by
  induction ids generalizing found with
  | nil => exact .inr ⟨fun _ member => absurd member List.not_mem_nil, fun _ found => .inl found⟩
  | cons i later ih =>
    unfold scanStations
    by_cases here : (priv.stations i).addr = addr
    · rw [if_pos here]
      exact .inl ⟨i, List.mem_cons_self, here, rfl⟩
    · rw [if_neg here]
      rcases ih (if !(priv.stations i).used.any && found.isNone then some i else found) with
        ⟨j, member, same, result⟩ | ⟨differ, result⟩
      · exact .inl ⟨j, List.mem_cons_of_mem i member, same, result⟩
      · refine .inr ⟨List.forall_mem_cons.mpr ⟨here, differ⟩, fun j given => ?_⟩
        rcases result j given with before | ⟨member, unused⟩
        · split at before
          · rename_i free
            rw [Bool.and_eq_true, Bool.not_eq_true'] at free
            obtain rfl := Option.some.inj before
            exact .inr ⟨List.mem_cons_self, free.1⟩
          · exact .inl before
        · exact .inr ⟨List.mem_cons_of_mem i member, unused⟩

/-- The id chosen for an address that is neither broadcast nor an AP's. -/
theorem choosesSta_ordinary {priv : IwlPriv} {ctx : CtxId} {addr : EthAddr} (plain : addr ≠ iwlBcastAddr) :
    (∃ i : StaId, 2 ≤ i.val ∧ (priv.stations i).addr = addr ∧
        choosesSta priv ctx addr false = some i) ∨
      (∀ i : StaId, 2 ≤ i.val → (priv.stations i).addr ≠ addr) ∧
        ∀ i, choosesSta priv ctx addr false = some i →
          2 ≤ i.val ∧ (priv.stations i).used.any = false := by
  have scans : choosesSta priv ctx addr false = scanStations priv addr scanIds none := by
    unfold choosesSta
    rw [if_neg Bool.false_ne_true, if_neg fun bcast => plain ((isBroadcastEtherAddr_iff addr).mp bcast)]
  rw [scans]
  rcases scanStations_spec priv addr scanIds none with ⟨i, member, same, result⟩ | ⟨differ, result⟩
  · exact .inl ⟨i, (mem_scanIds i).mp member, same, result⟩
  · refine .inr ⟨fun i above => differ i ((mem_scanIds i).mpr above), fun i given => ?_⟩
    rcases result i given with none | ⟨member, unused⟩
    · cases none
    · exact ⟨(mem_scanIds i).mp member, unused⟩

theorem choosesSta_bcast (priv : IwlPriv) (ctx : CtxId) :
    choosesSta priv ctx iwlBcastAddr false = some ctx.bcastStaId := by
  unfold choosesSta
  rw [if_neg Bool.false_ne_true, if_pos ((isBroadcastEtherAddr_iff _).mpr rfl)]

/-! ### What the calls do to the addresses -/

/-- The entry keeps its address, and whether it is a broadcast station's. -/
def SameAt (priv priv' : IwlPriv) (i : StaId) : Prop :=
  (priv'.stations i).addr = (priv.stations i).addr ∧
    (priv'.stations i).used.bcast = (priv.stations i).used.bcast

theorem SameAt.trans {priv priv' priv'' : IwlPriv} {i : StaId} (first : SameAt priv priv' i)
    (second : SameAt priv' priv'' i) : SameAt priv priv'' i :=
  ⟨second.1.trans first.1, second.2.trans first.2⟩

theorem sameAt_setEntry {priv : IwlPriv} {id : StaId} {entry : IwlStationEntry}
    (addr : entry.addr = (priv.stations id).addr)
    (bcast : entry.used.bcast = (priv.stations id).used.bcast) (i : StaId) :
    SameAt priv (priv.setEntry id entry) i := by
  by_cases here : i = id
  · subst here
    unfold SameAt
    rw [setEntry_same]
    exact ⟨addr, bcast⟩
  · unfold SameAt
    rw [setEntry_other here]
    exact ⟨rfl, rfl⟩

theorem sameAt_setUsed {priv : IwlPriv} {id : StaId} {used : StaUsed}
    (bcast : used.bcast = (priv.stations id).used.bcast) (i : StaId) :
    SameAt priv (priv.setUsed id used) i :=
  sameAt_setEntry (by rfl) bcast i

theorem sameAt_setEntry_other {priv : IwlPriv} {id i : StaId} {entry : IwlStationEntry} (apart : i ≠ id) :
    SameAt priv (priv.setEntry id entry) i := by
  unfold SameAt
  rw [setEntry_other apart]
  exact ⟨rfl, rfl⟩

theorem sameAt_ucodeActivate (priv : IwlPriv) (id i : StaId) :
    SameAt priv (iwlStaUcodeActivate priv id) i := by
  unfold iwlStaUcodeActivate
  split
  · exact ⟨rfl, rfl⟩
  · exact sameAt_setUsed (by rfl) i

theorem sameAt_sendLqCmd (priv : IwlPriv) (id i : StaId) : SameAt priv (iwlSendLqCmd priv id) i := by
  unfold iwlSendLqCmd
  split
  · exact sameAt_setUsed (by rfl) i
  · exact ⟨rfl, rfl⟩

theorem sameAt_restoreStation (answers : StaId → StaAnswer) (priv : IwlPriv) (id i : StaId) :
    SameAt priv (restoreStation answers priv id) i := by
  rw [restoreStation_eq]
  split
  · split
    · unfold restoredStation
      dsimp only
      have sent := sameAt_ucodeActivate priv (priv.stations id).staId i
      split
      · exact (sent.trans (sameAt_sendLqCmd _ id i)).trans (sameAt_setUsed (by rfl) i)
      · exact sent.trans (sameAt_setUsed (by rfl) i)
    · exact sameAt_setUsed (by rfl) i
  · exact ⟨rfl, rfl⟩

/-- What a turn of a loop over the entries keeps, the loop keeps. -/
theorem sameAt_foldl {turn : IwlPriv → StaId → IwlPriv} {i : StaId}
    (kept : ∀ priv id, SameAt priv (turn priv id) i) (ids : List StaId) (priv : IwlPriv) :
    SameAt priv (ids.foldl turn priv) i := by
  induction ids generalizing priv with
  | nil => exact ⟨rfl, rfl⟩
  | cons id later ih => exact (kept priv id).trans (ih (turn priv id))

/-- What the call prepares: the context, the address, and whether it is an AP's. -/
def StaOp.prepares : StaOp → Option (CtxId × EthAddr × Bool)
  | .prep ctx addr isAp | .add ctx addr isAp _ => some (ctx, addr, isAp)
  | .addBssid ctx addr _ _ => some (ctx, addr, false)
  | .allocBcast ctx _ => some (ctx, iwlBcastAddr, false)
  | _ => none

/-- An entry was prepared for an address, or left if the station was there already. -/
structure PreparedAt (id : StaId) (addr : EthAddr) (priv priv' : IwlPriv) : Prop where
  others : ∀ j, j ≠ id → SameAt priv priv' j
  here : (priv'.stations id).addr = if alreadyThere priv id addr then (priv.stations id).addr else addr

/-- What is done to the entry later on does not touch its address. -/
theorem PreparedAt.then {id : StaId} {addr : EthAddr} {priv priv' priv'' : IwlPriv}
    (prepared : PreparedAt id addr priv priv') (others : ∀ j, j ≠ id → SameAt priv' priv'' j)
    (here : (priv''.stations id).addr = (priv'.stations id).addr) : PreparedAt id addr priv priv'' where
  others := fun j apart => (prepared.others j apart).trans (others j apart)
  here := here.trans prepared.here

theorem preparedAt_left {id : StaId} {addr : EthAddr} {priv : IwlPriv}
    (there : alreadyThere priv id addr = true) : PreparedAt id addr priv priv :=
  ⟨fun _ _ => ⟨rfl, rfl⟩, by rw [if_pos there]⟩

theorem preparedAt_prepareEntry {id : StaId} {addr : EthAddr} {priv : IwlPriv} (ctx : CtxId)
    (away : ¬ alreadyThere priv id addr = true) :
    PreparedAt id addr priv (prepareEntry priv ctx addr id) :=
  ⟨fun _ apart => sameAt_setEntry_other apart, by rw [prepareEntry_same, if_neg away]⟩

theorem prepStation_prepared (priv : IwlPriv) (ctx : CtxId) (addr : EthAddr) (isAp : Bool) :
    match choosesSta priv ctx addr isAp with
    | none => iwlPrepStation priv ctx addr isAp = (none, priv)
    | some id => ∃ priv', iwlPrepStation priv ctx addr isAp = (some id, priv') ∧
        PreparedAt id addr priv priv' := by
  unfold iwlPrepStation
  cases choosesSta priv ctx addr isAp with
  | none => rfl
  | some id =>
    dsimp only
    by_cases there : alreadyThere priv id addr = true
    · rw [if_pos there]
      exact ⟨_, rfl, preparedAt_left there⟩
    · rw [if_neg there]
      exact ⟨_, rfl, preparedAt_prepareEntry ctx there⟩

theorem addStationCommon_prepared (priv : IwlPriv) (ctx : CtxId) (addr : EthAddr) (isAp : Bool)
    (answer : StaAnswer) :
    match choosesSta priv ctx addr isAp with
    | none => iwlAddStationCommon priv ctx addr isAp answer = (some .einval, ⟨0, by decide⟩, priv)
    | some id => ∃ e staId priv', iwlAddStationCommon priv ctx addr isAp answer = (e, staId, priv') ∧
        (e = none → staId = id) ∧ PreparedAt id addr priv priv' := by
  rw [addStationCommon_eq]
  cases choosesSta priv ctx addr isAp with
  | none => rfl
  | some id =>
    dsimp only
    by_cases there : alreadyThere priv id addr = true
    · rw [if_pos there]
      exact ⟨_, _, _, rfl, by simp, preparedAt_left there⟩
    · rw [if_neg there]
      refine ⟨_, _, _, rfl, fun _ => rfl, (preparedAt_prepareEntry ctx there).then
        (fun j apart => sameAt_setEntry_other apart) ?_⟩
      rw [setUsed_same]

/-- A flag of the entry, or its link quality, does not touch its address. -/
theorem PreparedAt.setUsed {id : StaId} {addr : EthAddr} {priv priv' : IwlPriv}
    (prepared : PreparedAt id addr priv priv') (used : StaUsed) :
    PreparedAt id addr priv (priv'.setUsed id used) :=
  prepared.then (fun _ apart => sameAt_setEntry_other apart) (by rw [setUsed_same])

theorem PreparedAt.setLq {id : StaId} {addr : EthAddr} {priv priv' : IwlPriv}
    (prepared : PreparedAt id addr priv priv') :
    PreparedAt id addr priv (priv'.setEntry id { priv'.stations id with lq := true }) :=
  prepared.then (fun _ apart => sameAt_setEntry_other apart) (by rw [setEntry_same])

/-- Nothing is chosen and nothing changes, or the chosen entry is prepared. -/
def Prepares (ctx : CtxId) (addr : EthAddr) (isAp : Bool) (priv priv' : IwlPriv) : Prop :=
  (∀ j, SameAt priv priv' j) ∨ ∃ id, choosesSta priv ctx addr isAp = some id ∧ PreparedAt id addr priv priv'

theorem prepStation_prepares (priv : IwlPriv) (ctx : CtxId) (addr : EthAddr) (isAp : Bool) :
    Prepares ctx addr isAp priv (iwlPrepStation priv ctx addr isAp).2 := by
  have prepared := prepStation_prepared priv ctx addr isAp
  split at prepared
  · rw [prepared]
    exact .inl fun _ => ⟨rfl, rfl⟩
  · rename_i id chosen
    obtain ⟨priv', result, prepared⟩ := prepared
    rw [result]
    exact .inr ⟨id, chosen, prepared⟩

theorem addStationCommon_prepares (priv : IwlPriv) (ctx : CtxId) (addr : EthAddr) (isAp : Bool)
    (answer : StaAnswer) : Prepares ctx addr isAp priv (iwlAddStationCommon priv ctx addr isAp answer).2.2 := by
  have prepared := addStationCommon_prepared priv ctx addr isAp answer
  split at prepared
  · rw [prepared]
    exact .inl fun _ => ⟨rfl, rfl⟩
  · rename_i id chosen
    obtain ⟨e, staId, priv', result, _, prepared⟩ := prepared
    rw [result]
    exact .inr ⟨id, chosen, prepared⟩

theorem addBssid_prepares (priv : IwlPriv) (ctx : CtxId) (addr : EthAddr) (answer : StaAnswer) (lqRoom : Bool) :
    Prepares ctx addr false priv (iwlagnAddBssidStation priv ctx addr answer lqRoom).2 := by
  have prepared := addStationCommon_prepared priv ctx addr false answer
  unfold iwlagnAddBssidStation
  split at prepared
  · rw [prepared]
    exact .inl fun _ => ⟨rfl, rfl⟩
  · rename_i id chosen
    obtain ⟨e, staId, priv', result, same, prepared⟩ := prepared
    rw [result]
    refine .inr ⟨id, chosen, ?_⟩
    cases e with
    | some e => exact prepared
    | none =>
      obtain rfl := same rfl
      dsimp only
      have marked := prepared.setUsed { (priv'.stations staId).used with isLocal := true }
      split
      · have sent := sameAt_sendLqCmd
          (priv'.setUsed staId { (priv'.stations staId).used with isLocal := true }) staId
        exact (marked.then (fun j _ => sent j) (sent staId).1).setLq
      · exact marked

theorem allocBcast_prepares (priv : IwlPriv) (ctx : CtxId) (lqRoom : Bool) :
    Prepares ctx iwlBcastAddr false priv (iwlagnAllocBcastStation priv ctx lqRoom).2 := by
  have prepared := prepStation_prepared priv ctx iwlBcastAddr false
  unfold iwlagnAllocBcastStation
  split at prepared
  · rw [prepared]
    exact .inl fun _ => ⟨rfl, rfl⟩
  · rename_i id chosen
    obtain ⟨priv', result, prepared⟩ := prepared
    rw [result]
    refine .inr ⟨id, chosen, ?_⟩
    dsimp only
    have marked := prepared.setUsed { (priv'.stations id).used with driverActive := true, bcast := true }
    split
    · exact marked.setLq
    · exact marked

/-- **What a preparing call does.** -/
theorem prepares_spec {op : StaOp} {ctx : CtxId} {addr : EthAddr} {isAp : Bool}
    (prepares : op.prepares = some (ctx, addr, isAp)) (priv : IwlPriv) :
    Prepares ctx addr isAp priv (op.apply priv) := by
  cases op with
  | prep ctx addr isAp =>
    cases prepares
    exact prepStation_prepares priv ctx addr isAp
  | add ctx addr isAp answer =>
    cases prepares
    exact addStationCommon_prepares priv ctx addr isAp answer
  | addBssid ctx addr answer lqRoom =>
    cases prepares
    exact addBssid_prepares priv ctx addr answer lqRoom
  | allocBcast ctx lqRoom =>
    cases prepares
    exact allocBcast_prepares priv ctx lqRoom
  | _ => cases prepares

/-- What a removal does: the entry may be cleared, the others stay. -/
theorem removeStation_spec (priv : IwlPriv) (ready : Bool) (staId : Option StaId) (answer : StaAnswer) :
    (∀ j, staId ≠ some j → SameAt priv (iwlRemoveStation priv ready staId answer).2 j) ∧
      ∀ j, ((iwlRemoveStation priv ready staId answer).2.stations j).addr = (priv.stations j).addr ∨
        ((iwlRemoveStation priv ready staId answer).2.stations j).addr = zeroAddr := by
  have left : (∀ j, staId ≠ some j → SameAt priv priv j) ∧
      ∀ j, (priv.stations j).addr = (priv.stations j).addr ∨ (priv.stations j).addr = zeroAddr :=
    ⟨fun _ _ => ⟨rfl, rfl⟩, fun _ => .inl rfl⟩
  unfold iwlRemoveStation
  cases ready with
  | false => exact left
  | true =>
    cases staId with
    | none => exact left
    | some id =>
      simp only [Bool.not_true, Bool.false_eq_true, if_false]
      split
      · exact left
      · split
        · exact left
        · rw [sendRemoveStation_eq]
          dsimp only
          have marked (j : StaId) : SameAt priv ({ priv with numStations := oneLess priv.numStations
              }.setEntry id { priv.stations id with
                lq := (priv.stations id).lq && !(priv.stations id).used.isLocal
                used := { (priv.stations id).used with driverActive := false } }) j :=
            sameAt_setEntry (by rfl) (by rfl) j
          split
          · unfold iwlStaUcodeDeactivate
            rw [setEntry_setEntry]
            refine ⟨fun j other => sameAt_setEntry_other fun same => other (same ▸ rfl), fun j => ?_⟩
            by_cases here : j = id
            · subst here
              rw [setEntry_same]
              exact .inr rfl
            · rw [setEntry_other here]
              exact .inl rfl
          · exact ⟨fun j _ => marked j, fun j => .inl (marked j).1⟩

/-- What the other calls but `iwl_clear_driver_stations` do: every entry stays. -/
theorem apply_sameAt {op : StaOp} (plain : op.prepares = none) (priv : IwlPriv)
    (keeps : ∀ ready staId answer, op ≠ .remove ready staId answer) (tabled : op ≠ .clearDriver)
    (i : StaId) : SameAt priv (op.apply priv) i := by
  cases op with
  | prep | add | addBssid | allocBcast => cases plain
  | activate id => exact sameAt_ucodeActivate priv id i
  | remove ready staId answer => exact absurd rfl (keeps ready staId answer)
  | clearDriver => exact absurd rfl tabled
  | deactivate ready staId =>
    show SameAt priv (iwlDeactivateStation priv ready staId) i
    unfold iwlDeactivateStation
    split
    · exact ⟨rfl, rfl⟩
    · split
      · exact ⟨rfl, rfl⟩
      · exact sameAt_setEntry (by rfl) (by rfl) i
  | clearUcode ctx =>
    show SameAt priv (iwlClearUcodeStations priv ctx) i
    unfold iwlClearUcodeStations SameAt
    dsimp only
    split <;> exact ⟨rfl, rfl⟩
  | restore ready ctx answers =>
    show SameAt priv (iwlRestoreStations priv ready ctx answers) i
    unfold iwlRestoreStations
    split
    · exact ⟨rfl, rfl⟩
    · have marked : SameAt priv (marksRestored priv ctx) i := by
        unfold marksRestored SameAt
        dsimp only
        split <;> exact ⟨rfl, rfl⟩
      exact marked.trans (sameAt_foldl (fun _ _ => sameAt_restoreStation answers _ _ i) _ _)
  | updateBcast ctx lqRoom =>
    show SameAt priv (iwlUpdateBcastStation priv ctx lqRoom).2 i
    unfold iwlUpdateBcastStation
    split
    · exact sameAt_setEntry (by rfl) (by rfl) i
    · exact ⟨rfl, rfl⟩
  | deallocBcast =>
    refine sameAt_foldl (fun priv id => ?_) _ _
    unfold deallocStation
    dsimp only
    split
    · exact sameAt_setEntry (by rfl) (by rfl) i
    · exact ⟨rfl, rfl⟩

/-! ### One entry for an address -/

/-- **An address is in one entry at most**, from `IWL_STA_ID` on and but for zero and broadcast, and
the broadcast address is in the entries of the valid contexts only. -/
structure Distinct (valid : CtxId → Bool) (priv : IwlPriv) : Prop where
  apart : ∀ i j : StaId, 2 ≤ i.val → 2 ≤ j.val → (priv.stations i).addr = (priv.stations j).addr →
    (priv.stations i).addr ≠ zeroAddr → (priv.stations i).addr ≠ iwlBcastAddr → i = j
  bcast : ∀ i : StaId, 2 ≤ i.val → (priv.stations i).addr = iwlBcastAddr →
    ∃ ctx, valid ctx = true ∧ i = ctx.bcastStaId

/-- The contexts of the call are valid. -/
def StaOp.within (valid : CtxId → Bool) (op : StaOp) : Bool := op.prepares.all fun what => valid what.1

variable {valid : CtxId → Bool} {priv priv' : IwlPriv}

/-- Addresses that are only cleared stay apart. -/
theorem Distinct.cleared (distinct : Distinct valid priv)
    (cleared : ∀ i, (priv'.stations i).addr = (priv.stations i).addr ∨
      (priv'.stations i).addr = zeroAddr) : Distinct valid priv' := by
  have nonzero {i : StaId} (some : (priv'.stations i).addr ≠ zeroAddr) :
      (priv'.stations i).addr = (priv.stations i).addr := (cleared i).resolve_right some
  refine ⟨fun i j above above' same some plain => ?_, fun i above here => ?_⟩
  · have left := nonzero some
    have right := nonzero (same ▸ some)
    rw [left] at some plain
    exact distinct.apart i j above above' (by rw [← left, ← right, same]) some plain
  · refine distinct.bcast i above ?_
    rw [← nonzero (by rw [here]; decide), here]

theorem apStaId_lt (ctx : CtxId) : ctx.apStaId.val < 2 := by
  cases ctx <;> decide

theorem bcastStaId_ge (ctx : CtxId) : 2 ≤ ctx.bcastStaId.val := by
  cases ctx <;> decide

/-- What is written below the scanned entries changes nothing. -/
theorem Distinct.below {id : StaId} (distinct : Distinct valid priv) (below : id.val < 2)
    (others : ∀ j, j ≠ id → (priv'.stations j).addr = (priv.stations j).addr) : Distinct valid priv' := by
  have same (i : StaId) (above : 2 ≤ i.val) : (priv'.stations i).addr = (priv.stations i).addr :=
    others i fun is => by
      subst is
      omega
  refine ⟨fun i j above above' => ?_, fun i above => ?_⟩
  · rw [same i above, same j above']
    exact distinct.apart i j above above'
  · rw [same i above]
    exact distinct.bcast i above

/-- The broadcast address is not compared, and has its own entry. -/
theorem Distinct.broadcast {ctx : CtxId} (distinct : Distinct valid priv) (within : valid ctx = true)
    (written : (priv'.stations ctx.bcastStaId).addr = iwlBcastAddr)
    (others : ∀ j, j ≠ ctx.bcastStaId → (priv'.stations j).addr = (priv.stations j).addr) :
    Distinct valid priv' := by
  refine ⟨fun i j above above' same some plain => ?_, fun i above bcast => ?_⟩
  · have away (k : StaId) (other : (priv'.stations k).addr ≠ iwlBcastAddr) :
        k ≠ ctx.bcastStaId := fun is => other (is ▸ written)
    have left := others i (away i plain)
    have right := others j (away j (same ▸ plain))
    rw [left] at some plain
    exact distinct.apart i j above above' (by rw [← left, ← right, same]) some plain
  · by_cases is : i = ctx.bcastStaId
    · exact ⟨ctx, within, is⟩
    · exact distinct.bcast i above (others i is ▸ bcast)

/-- An address that no scanned entry has stays apart. -/
theorem Distinct.fresh {id : StaId} {addr : EthAddr} (distinct : Distinct valid priv) (plain : addr ≠ iwlBcastAddr)
    (fresh : ∀ i : StaId, 2 ≤ i.val → (priv.stations i).addr ≠ addr) (written : (priv'.stations id).addr = addr)
    (others : ∀ j, j ≠ id → (priv'.stations j).addr = (priv.stations j).addr) : Distinct valid priv' := by
  have new (i : StaId) (above : 2 ≤ i.val) (is : (priv'.stations i).addr = addr) : i = id := by
    by_contra other
    exact fresh i above (others i other ▸ is)
  refine ⟨fun i j above above' same some plain' => ?_, fun i above bcast => ?_⟩
  · by_cases is : i = id
    · subst is
      exact (new j above' (same ▸ written)).symm
    · by_cases is' : j = id
      · subst is'
        exact absurd (new i above (same.trans written)) is
      · rw [others i is] at some plain' same
        rw [others j is'] at same
        exact distinct.apart i j above above' same some plain'
  · by_cases is : i = id
    · subst is
      exact absurd (written.symm.trans bcast) plain
    · exact distinct.bcast i above (others i is ▸ bcast)

/-- **A prepared address stays apart**: it goes where it is, or is in no entry yet. -/
theorem Distinct.prepared {ctx : CtxId} {addr : EthAddr} {isAp : Bool} {id : StaId}
    (distinct : Distinct valid priv) (within : valid ctx = true)
    (chosen : choosesSta priv ctx addr isAp = some id) (prepared : PreparedAt id addr priv priv') :
    Distinct valid priv' := by
  have here := prepared.here
  have others (j : StaId) (apart : j ≠ id) : (priv'.stations j).addr = (priv.stations j).addr :=
    (prepared.others j apart).1
  by_cases unchanged : (priv'.stations id).addr = (priv.stations id).addr
  · refine distinct.cleared fun i => .inl ?_
    by_cases same : i = id
    · rw [same, unchanged]
    · exact others i same
  · have written : (priv'.stations id).addr = addr := by
      rw [here]
      split
      · rename_i there
        rw [if_pos there] at here
        exact absurd here unchanged
      · rfl
    cases isAp with
    | true =>
      obtain rfl := Option.some.inj chosen
      exact distinct.below (apStaId_lt ctx) others
    | false =>
      by_cases plain : addr = iwlBcastAddr
      · subst plain
        rw [choosesSta_bcast] at chosen
        obtain rfl := Option.some.inj chosen
        exact distinct.broadcast within written others
      · rcases choosesSta_ordinary plain with ⟨i, above, same, result⟩ | ⟨fresh, result⟩
        · rw [result] at chosen
          obtain rfl := Option.some.inj chosen
          exact absurd (written.trans same.symm) unchanged
        · exact distinct.fresh plain fresh written others

theorem Distinct.apply {op : StaOp} (distinct : Distinct valid priv) (within : op.within valid = true) :
    Distinct valid (op.apply priv) := by
  cases prepares : op.prepares with
  | some what =>
    obtain ⟨ctx, addr, isAp⟩ := what
    unfold StaOp.within at within
    rw [prepares, Option.all_some] at within
    rcases prepares_spec prepares priv with same | ⟨id, chosen, prepared⟩
    · exact distinct.cleared fun i => .inl (same i).1
    · exact distinct.prepared within chosen prepared
  | none =>
    by_cases removes : ∃ ready staId answer, op = .remove ready staId answer
    · obtain ⟨ready, staId, answer, rfl⟩ := removes
      exact distinct.cleared (removeStation_spec priv ready staId answer).2
    · by_cases clears : op = .clearDriver
      · subst clears
        exact distinct.cleared fun i => .inr rfl
      · refine distinct.cleared fun i => .inl (apply_sameAt prepares priv ?_ clears i).1
        exact fun ready staId answer is => removes ⟨ready, staId, answer, is⟩

/-! ### The broadcast entries -/

/-- The broadcast entry of a context is marked, with its address. -/
def Reserved (ctx : CtxId) (priv : IwlPriv) : Prop :=
  (priv.stations ctx.bcastStaId).addr = iwlBcastAddr ∧
    (priv.stations ctx.bcastStaId).used.bcast = true

/-- The call leaves the broadcast entry of a context to the functions for broadcast stations: it
neither adds the broadcast address, nor removes the entry, nor clears the table. -/
def StaOp.leavesBcast (ctx : CtxId) : StaOp → Bool
  | .prep ctx' addr isAp | .add ctx' addr isAp _ =>
    isAp || !isBroadcastEtherAddr addr || decide (ctx' ≠ ctx)
  | .addBssid ctx' addr _ _ => !isBroadcastEtherAddr addr || decide (ctx' ≠ ctx)
  | .remove _ staId _ => decide (staId ≠ some ctx.bcastStaId)
  | .clearDriver => false
  | _ => true

theorem Reserved.same {ctx : CtxId} (reserved : Reserved ctx priv)
    (same : SameAt priv priv' ctx.bcastStaId) : Reserved ctx priv' :=
  ⟨same.1.trans reserved.1, same.2.trans reserved.2⟩

theorem Reserved.used {ctx : CtxId} (reserved : Reserved ctx priv) :
    (priv.stations ctx.bcastStaId).used.any = true := by
  unfold StaUsed.any
  rw [reserved.2, Bool.or_true]

theorem bcastStaId_injective {ctx ctx' : CtxId} (same : ctx.bcastStaId = ctx'.bcastStaId) : ctx = ctx' := by
  revert same
  cases ctx <;> cases ctx' <;> decide

/-- **A reserved entry is not chosen** for another address, nor is an AP's. -/
theorem choosesSta_reserved {ctx ctx' : CtxId} {addr : EthAddr} (reserved : Reserved ctx' priv)
    (plain : addr ≠ iwlBcastAddr) :
    choosesSta priv ctx addr false ≠ some ctx'.apStaId ∧
      choosesSta priv ctx addr false ≠ some ctx'.bcastStaId := by
  have low := apStaId_lt ctx'
  rcases choosesSta_ordinary plain with ⟨i, above, same, result⟩ | ⟨_, result⟩
  · rw [result]
    refine ⟨fun is => ?_, fun is => ?_⟩
    · obtain rfl := Option.some.inj is
      omega
    · obtain rfl := Option.some.inj is
      exact plain (same.symm.trans reserved.1)
  · refine ⟨fun is => ?_, fun is => ?_⟩
    · have above := (result _ is).1
      omega
    · have unused := (result _ is).2
      rw [reserved.used] at unused
      cases unused

theorem allocBcast_reserved {ctx : CtxId} (lqRoom : Bool)
    (free : (priv.stations ctx.bcastStaId).used.ucodeInprogress = false ∨
      (priv.stations ctx.bcastStaId).addr = iwlBcastAddr) :
    Reserved ctx ((StaOp.allocBcast ctx lqRoom).apply priv) := by
  have prepared := prepStation_prepared priv ctx iwlBcastAddr false
  rw [choosesSta_bcast] at prepared
  obtain ⟨priv', result, prepared⟩ := prepared
  have here : (priv'.stations ctx.bcastStaId).addr = iwlBcastAddr := by
    rw [prepared.here]
    split
    · rename_i there
      unfold alreadyThere at there
      simp only [Bool.or_eq_true, Bool.and_eq_true, decide_eq_true_eq] at there
      rcases free with idle | is
      · rw [idle] at there
        exact (there.resolve_left Bool.false_ne_true).2
      · exact is
    · rfl
  show Reserved ctx (iwlagnAllocBcastStation priv ctx lqRoom).2
  unfold iwlagnAllocBcastStation
  rw [result]
  dsimp only
  unfold Reserved
  split
  · rw [setEntry_same, setUsed_same]
    exact ⟨here, rfl⟩
  · rw [setUsed_same]
    exact ⟨here, rfl⟩

/-- **The other calls keep a reserved entry.** -/
theorem Reserved.apply {ctx : CtxId} {op : StaOp} (reserved : Reserved ctx priv)
    (leaves : op.leavesBcast ctx = true) : Reserved ctx (op.apply priv) := by
  -- A call that prepares another address or another context chooses another entry.
  have other {ctx' : CtxId} {addr : EthAddr} {isAp : Bool}
      (prepares : op.prepares = some (ctx', addr, isAp))
      (away : isAp = true ∨ addr ≠ iwlBcastAddr ∨ ctx' ≠ ctx) : Reserved ctx (op.apply priv) := by
    rcases prepares_spec prepares priv with same | ⟨id, chosen, prepared⟩
    · exact reserved.same (same _)
    · refine reserved.same (prepared.others _ fun is => ?_)
      subst is
      cases isAp with
      | true =>
        have low := apStaId_lt ctx'
        have high := bcastStaId_ge ctx
        rw [Option.some.inj chosen] at low
        omega
      | false =>
        by_cases plain : addr = iwlBcastAddr
        · subst plain
          rw [choosesSta_bcast] at chosen
          have apart := (away.resolve_left Bool.false_ne_true).resolve_left fun ne => ne rfl
          exact apart (bcastStaId_injective (Option.some.inj chosen))
        · exact (choosesSta_reserved reserved plain).2 chosen
  have notBroadcast {addr : EthAddr} : (!isBroadcastEtherAddr addr) = true ↔ addr ≠ iwlBcastAddr := by
    rw [Bool.not_eq_true', ← Bool.not_eq_true, isBroadcastEtherAddr_iff]
  cases op with
  | prep ctx' addr isAp =>
    simp only [StaOp.leavesBcast, Bool.or_eq_true, decide_eq_true_eq, notBroadcast, or_assoc] at leaves
    exact other rfl leaves
  | add ctx' addr isAp answer =>
    simp only [StaOp.leavesBcast, Bool.or_eq_true, decide_eq_true_eq, notBroadcast, or_assoc] at leaves
    exact other rfl leaves
  | addBssid ctx' addr answer lqRoom =>
    simp only [StaOp.leavesBcast, Bool.or_eq_true, decide_eq_true_eq, notBroadcast] at leaves
    exact other rfl (.inr leaves)
  | allocBcast ctx' lqRoom =>
    by_cases same : ctx' = ctx
    · subst same
      exact allocBcast_reserved lqRoom (.inr reserved.1)
    · exact other rfl (.inr (.inr same))
  | remove ready staId answer =>
    exact reserved.same ((removeStation_spec priv ready staId answer).1 _ (of_decide_eq_true leaves))
  | clearDriver => cases leaves
  | activate | deactivate | clearUcode | restore | updateBcast | deallocBcast =>
    exact reserved.same (apply_sameAt rfl priv (by simp) (by simp) _)

/-! ### Whole runs -/

/-- The table after a sequence of calls, from the empty table. -/
def staRun (ops : List StaOp) : IwlPriv := ops.foldl StaOp.apply .empty

theorem staRun_append (before after : List StaOp) :
    staRun (before ++ after) = after.foldl StaOp.apply (staRun before) := List.foldl_append ..

theorem distinct_run (ops : List StaOp) (within : ∀ op ∈ ops, op.within valid = true)
    (distinct : Distinct valid priv) : Distinct valid (ops.foldl StaOp.apply priv) := by
  induction ops generalizing priv with
  | nil => exact distinct
  | cons op later ih =>
    exact ih (fun other member => within other (List.mem_cons_of_mem op member))
      (distinct.apply (within op List.mem_cons_self))

theorem distinct_empty (valid : CtxId → Bool) : Distinct valid .empty :=
  ⟨fun _ _ _ _ _ some _ => absurd rfl some, fun _ _ is => by cases is⟩

theorem reserved_run {ctx : CtxId} (ops : List StaOp)
    (leaves : ∀ op ∈ ops, op.leavesBcast ctx = true) (reserved : Reserved ctx priv) :
    Reserved ctx (ops.foldl StaOp.apply priv) := by
  induction ops generalizing priv with
  | nil => exact reserved
  | cons op later ih =>
    exact ih (fun other member => leaves other (List.mem_cons_of_mem op member))
      (reserved.apply (leaves op List.mem_cons_self))

/-- An ordinary id: not reserved for APs, nor for the broadcast station of a valid context. -/
def Ordinary (valid : CtxId → Bool) (i : StaId) : Prop :=
  2 ≤ i.val ∧ ∀ ctx, valid ctx = true → i ≠ ctx.bcastStaId

/-- The broadcast station of a context has been allocated, in an entry where no other station was being
added, and its entry was left alone since. -/
def Allocated (ops : List StaOp) (ctx : CtxId) : Prop :=
  ∃ before lqRoom after, ops = before ++ .allocBcast ctx lqRoom :: after ∧
    (((staRun before).stations ctx.bcastStaId).used.ucodeInprogress = false ∨
      ((staRun before).stations ctx.bcastStaId).addr = iwlBcastAddr) ∧
    ∀ op ∈ after, op.leavesBcast ctx = true

theorem Allocated.reserved {ops : List StaOp} {ctx : CtxId} (allocated : Allocated ops ctx) :
    Reserved ctx (staRun ops) := by
  obtain ⟨before, lqRoom, after, rfl, free, leaves⟩ := allocated
  rw [staRun_append]
  exact reserved_run after leaves (allocBcast_reserved lqRoom free)

/-- Who is who. -/
structure Identity (valid : CtxId → Bool) (ops : List StaOp) : Prop where
  distinct : ∀ i j, Ordinary valid i → Ordinary valid j →
    ((staRun ops).stations i).used.any = true → ((staRun ops).stations j).used.any = true →
    ((staRun ops).stations i).addr = ((staRun ops).stations j).addr →
    ((staRun ops).stations i).addr ≠ zeroAddr → i = j
  existing : ∀ (ctx : CtxId) (addr : EthAddr) (i : StaId), addr ≠ zeroAddr → addr ≠ iwlBcastAddr →
    2 ≤ i.val → ((staRun ops).stations i).used.any = true → ((staRun ops).stations i).addr = addr →
    (iwlPrepStation (staRun ops) ctx addr false).1 = some i
  reserved : (∀ ctx, valid ctx = true → Allocated ops ctx) →
    ∀ (ctx ctx' : CtxId) (addr : EthAddr), valid ctx' = true → addr ≠ iwlBcastAddr →
      (iwlPrepStation (staRun ops) ctx addr false).1 ≠ some ctx'.apStaId ∧
        (iwlPrepStation (staRun ops) ctx addr false).1 ≠ some ctx'.bcastStaId

/-- `iwl_prep_station` returns the id it chooses. -/
theorem prepStation_fst (priv : IwlPriv) (ctx : CtxId) (addr : EthAddr) (isAp : Bool) :
    (iwlPrepStation priv ctx addr isAp).1 = choosesSta priv ctx addr isAp := by
  unfold iwlPrepStation
  cases choosesSta priv ctx addr isAp with
  | none => rfl
  | some id =>
    dsimp only
    split <;> rfl

/-- **Station identity**, after every run on the valid contexts. -/
theorem stationIdentity (valid : CtxId → Bool) (ops : List StaOp)
    (within : ∀ op ∈ ops, op.within valid = true) : Identity valid ops := by
  have distinct : Distinct valid (staRun ops) := distinct_run ops within (distinct_empty valid)
  refine ⟨fun i j ordinary ordinary' _ _ same some => ?_, fun ctx addr i some plain above _ here => ?_,
    fun allocated ctx ctx' addr within' plain => ?_⟩
  · refine distinct.apart i j ordinary.1 ordinary'.1 same some fun bcast => ?_
    obtain ⟨ctx, within, is⟩ := distinct.bcast i ordinary.1 bcast
    exact ordinary.2 ctx within is
  · rw [prepStation_fst]
    rcases @choosesSta_ordinary (staRun ops) ctx addr plain with ⟨j, above', same, result⟩ | ⟨none, _⟩
    · rw [result, distinct.apart j i above' above (same.trans here.symm) (same ▸ some) (same ▸ plain)]
    · exact absurd here (none i above)
  · rw [prepStation_fst]
    exact choosesSta_reserved (allocated ctx' within').reserved plain

/-- Two broadcast stations, and a station that is added. -/
def threeStations : List StaOp :=
  [.allocBcast .bss true, .allocBcast .pan true, .add .bss #v[2, 0, 0, 0, 0, 1] false (.status 1)]

theorem stationIdentity_threeStations : Identity (fun _ => true) threeStations :=
  stationIdentity (fun _ => true) threeStations (by decide)

/-- A station is removed, and the zero address is prepared before and after. -/
def zeroTwice : List StaOp :=
  [.add .bss #v[2, 0, 0, 0, 0, 1] false (.status 1), .prep .bss zeroAddr false,
    .remove true (some ⟨2, by decide⟩) (.status 1), .prep .bss zeroAddr false]

/-- The broadcast station is allocated, restored and removed, and the other entries fill up. -/
def bcastRemoved : List StaOp :=
  [.allocBcast .bss true, .restore true .bss fun _ => .status 1,
    .remove true (some CtxId.bss.bcastStaId) (.status 1)] ++
  (List.range 13).map fun k => .prep .bss #v[2, 0, 0, 0, 0, .ofNat k] false

/-- The table fills up, and the broadcast station is allocated while the last station is being added. -/
def bcastTaken : List StaOp :=
  (List.range 14).map (fun k => .add .bss #v[2, 0, 0, 0, 0, .ofNat k] false (.status 1)) ++
    [.allocBcast .bss true]

/-- **Identity is broken** by the zero address, which two entries in use then hold, by removing a
broadcast entry, which the next ordinary station then gets, and by a station that is being added to a
broadcast entry, which keeps it. -/
theorem identity_broken :
    (((staRun zeroTwice).stations ⟨2, by decide⟩).used.any = true ∧
      ((staRun zeroTwice).stations ⟨3, by decide⟩).used.any = true ∧
      ((staRun zeroTwice).stations ⟨2, by decide⟩).addr =
        ((staRun zeroTwice).stations ⟨3, by decide⟩).addr) ∧
    (iwlPrepStation (staRun bcastRemoved) .bss #v[2, 0, 0, 0, 1, 0] false).1 =
      some CtxId.bss.bcastStaId ∧
    (iwlPrepStation (staRun bcastTaken) .bss #v[2, 0, 0, 0, 0, 13] false).1 =
      some CtxId.bss.bcastStaId := by
  decide +kernel

end IntelWifi.Dvm
