/-
**Default WEP keys.**

For each context the device has a table of four static WEP keys, which an un-associated RXON clears. The driver has the
keys beside it, sends all of them with each change, and sends them again after the RXON of a commit, unless there are
none.

* `wepCmdKey_held`: what the device makes of a command is what the driver has.
* `ring_after`: what the driver has is what it was last asked for, whatever became of the commands.
* `device_intended_iff`: the device has it too, after every call of a run, exactly when no command with a key that the
  device lacks is lost, no key is removed under RF-kill, and no commit fails between its first RXON and the keys.

A command that the device accepts and that is reported as failed has an effect all the same.
-/

import IntelWifi.Dvm.Rxon

namespace IntelWifi.Dvm.Rxon

open IntelWifi.Machine

/-! ### The driver's keys -/

/-- `WEP_KEYS_MAX`. -/
def wepKeysMax : Nat := 4

def wepKeyLen64 : Nat := 5
def wepKeyLen128 : Nat := 13

/-- `WEP_INVALID_OFFSET`. -/
def wepInvalidOffset : UInt8 := 0xff

/-- Of `struct iwl_wep_key`, as `ctx->wep_keys` has it. -/
structure WepSlot where
  keySize : Nat
  key : Vector UInt8 16
  fits : keySize = 0 ∨ keySize = wepKeyLen64 ∨ keySize = wepKeyLen128

/-- After a `memset`. -/
def WepSlot.zero : WepSlot := ⟨0, Vector.replicate 16 0, .inl rfl⟩

/-- The key, if there is one. -/
def WepSlot.held (slot : WepSlot) : Option (List UInt8) :=
  if slot.keySize = 0 then none else some (slot.key.toList.take slot.keySize)

/-- Of `struct ieee80211_key_conf`; `keylen` is the length of the key. -/
structure KeyConf where
  keyidx : Fin wepKeysMax
  key : List UInt8

/-- The slot after the key is copied to it. What a longer key left behind it stays. -/
def WepSlot.copy (slot : WepSlot) (key : List UInt8) (known : key.length = wepKeyLen64 ∨ key.length = wepKeyLen128) :
    WepSlot :=
  ⟨key.length, Vector.ofFn fun i => key.getD i slot.key[i], .inr known⟩

/-! ### The command -/

/-- Of an entry of `struct iwl_wep_cmd`. -/
structure WepCmdKey where
  keyIndex : UInt8
  keyOffset : UInt8
  keySize : Nat
  key : Vector UInt8 16

/-- The entry of a slot, as `iwl_send_static_wepkey_cmd` writes it. -/
def wepCmdKey (i : Fin wepKeysMax) (slot : WepSlot) : WepCmdKey where
  keyIndex := UInt8.ofNat i
  keyOffset := if slot.keySize ≠ 0 then UInt8.ofNat i else wepInvalidOffset
  keySize := slot.keySize
  key := Vector.ofFn fun k => if 3 ≤ k.val ∧ k.val < 3 + slot.keySize then slot.key[k.val - 3] else 0

/-- Of `struct iwl_wep_cmd`. -/
structure WepCmd where
  numKeys : UInt8
  globalKeyType : UInt8
  key : Fin wepKeysMax → WepCmdKey

/-- The command, with `WEP_KEY_WEP_TYPE`. -/
def wepCmd (slots : Fin wepKeysMax → WepSlot) : WepCmd := ⟨UInt8.ofNat wepKeysMax, 1, fun i => wepCmdKey i (slots i)⟩

/-- The key that the device takes from an entry. -/
def WepCmdKey.held (entry : WepCmdKey) : Option (List UInt8) :=
  if entry.keyOffset = wepInvalidOffset then none else some ((entry.key.toList.drop 3).take entry.keySize)

/-! ### The driver and the device -/

/-- `ctx->wep_keys`, the device's tables, and what the commits have made of the RXONs. -/
structure WepState where
  wepKeys : CtxId → Fin wepKeysMax → WepSlot
  device : CtxId → Fin wepKeysMax → Option (List UInt8)
  rxon : RxonState

/-- There is a key to send. -/
def WepState.notEmpty (st : WepState) (ctx : CtxId) : Bool :=
  (List.finRange wepKeysMax).any fun i => (st.wepKeys ctx i).keySize ≠ 0

def WepState.setKey (st : WepState) (ctx : CtxId) (i : Fin wepKeysMax) (slot : WepSlot) : WepState :=
  { st with wepKeys := Function.update st.wepKeys ctx (Function.update (st.wepKeys ctx) i slot) }

/-- What the device makes of an un-associated RXON. -/
def WepState.unassociate (st : WepState) (ctx : CtxId) : WepState :=
  { st with device := Function.update st.device ctx fun _ => none }

/-- What the device makes of a command with the keys. -/
def WepState.program (st : WepState) (ctx : CtxId) : WepState :=
  { st with device := Function.update st.device ctx fun i => ((wepCmd (st.wepKeys ctx)).key i).held }

/-- `iwl_send_static_wepkey_cmd`: whether it passed. -/
def iwlSendStaticWepkeyCmd (ctx : CtxId) (sendIfEmpty : Bool) (reply : Reply) (st : WepState) : Bool × WepState :=
  if st.notEmpty ctx || sendIfEmpty then (reply.passed, if reply.accepted then st.program ctx else st) else (true, st)

/-- `iwl_restore_default_wep_keys`. -/
def iwlRestoreDefaultWepKeys (ctx : CtxId) (reply : Reply) (st : WepState) : Bool × WepState :=
  iwlSendStaticWepkeyCmd ctx false reply st

/-- `iwl_remove_default_wep_key`. -/
def iwlRemoveDefaultWepKey (ctx : CtxId) (keyidx : Fin wepKeysMax) (rfkill : Bool) (reply : Reply) (st : WepState) :
    Bool × WepState :=
  let st := st.setKey ctx keyidx .zero
  if rfkill then (true, st) else iwlSendStaticWepkeyCmd ctx true reply st

/-- `iwl_set_default_wep_key`. -/
def iwlSetDefaultWepKey (ctx : CtxId) (keyconf : KeyConf) (reply : Reply) (st : WepState) : Bool × WepState :=
  if known : keyconf.key.length = wepKeyLen64 ∨ keyconf.key.length = wepKeyLen128 then
    let slot := (st.wepKeys ctx keyconf.keyidx).copy keyconf.key known
    iwlSendStaticWepkeyCmd ctx false reply (st.setKey ctx keyconf.keyidx slot)
  else (false, st)

/-- Restoring passes where it sends nothing. -/
def WepState.settle (st : WepState) (call : CommitCall) : CommitCall :=
  { call with reply := fun command =>
      if command = .wepKeys ∧ st.notEmpty call.ctx = false then .ok else call.reply command }

/-- The disconnection gets to the keys. -/
def CommitCall.reachesKeys (call : CommitCall) : Bool :=
  (call.reply .disableRxon).passed &&
    match call.ctx with
    | .bss => true
    | .pan => (call.reply .panWait).passed &&
        (call.vif.isNone || (call.reply .disconnTiming).passed && (call.reply .disconnRxon).passed)

/-- `iwlagn_commit_rxon`, of the keys. -/
def commitKeys (call : CommitCall) (st : WepState) : WepState :=
  if !call.needsFull (st.rxon.active call.ctx) then st
  else
    let st := if (call.reply .disableRxon).accepted then st.unassociate call.ctx else st
    if call.reachesKeys then (iwlRestoreDefaultWepKeys call.ctx (call.reply .wepKeys) st).2 else st

/-! ### Runs -/

/-- The calls. `restart` is `iwl_clear_driver_stations`, with the device reset. -/
inductive WepCall where
  | set (ctx : CtxId) (keyconf : KeyConf) (reply : Reply)
  | remove (ctx : CtxId) (keyidx : Fin wepKeysMax) (rfkill : Bool) (reply : Reply)
  | commit (call : CommitCall)
  | restart

def wepStep (st : WepState) : WepCall → WepState
  | .set ctx keyconf reply => (iwlSetDefaultWepKey ctx keyconf reply st).2
  | .remove ctx keyidx rfkill reply => (iwlRemoveDefaultWepKey ctx keyidx rfkill reply st).2
  | .commit call => { commitKeys call st with rxon := (iwlagnCommitRxon (st.settle call) st.rxon).2 }
  | .restart => { st with wepKeys := fun _ _ => .zero, device := fun _ _ => none }

/-- No keys, on either side. -/
def WepState.boot (rxon : RxonState) : WepState := ⟨fun _ _ => .zero, fun _ _ => none, rxon⟩

/-- After some calls. -/
def wepAfter (rxon : RxonState) (calls : List WepCall) : WepState := calls.foldl wepStep (.boot rxon)

/-- What a call asks for: a key set, a key removed, or all gone. -/
def WepCall.asks (wanted : CtxId → Fin wepKeysMax → Option (List UInt8)) :
    WepCall → CtxId → Fin wepKeysMax → Option (List UInt8)
  | .set ctx keyconf _ =>
    if keyconf.key.length = wepKeyLen64 ∨ keyconf.key.length = wepKeyLen128 then
      Function.update wanted ctx (Function.update (wanted ctx) keyconf.keyidx (some keyconf.key))
    else wanted
  | .remove ctx keyidx _ _ => Function.update wanted ctx (Function.update (wanted ctx) keyidx none)
  | .commit _ => wanted
  | .restart => fun _ _ => none

/-- **What some calls ask for**, one after the other. -/
def intended (calls : List WepCall) : CtxId → Fin wepKeysMax → Option (List UInt8) :=
  calls.foldl WepCall.asks fun _ _ => none

/-- **When a call keeps the device in step**: the command is accepted, or asks for what the device has; and a commit
whose first RXON is accepted gets to the keys and restores them, if there are any. -/
def WepCall.keeps (st : WepState) : WepCall → Bool
  | .set ctx keyconf reply =>
    !(keyconf.key.length = wepKeyLen64 ∨ keyconf.key.length = wepKeyLen128) || reply.accepted ||
      (st.wepKeys ctx keyconf.keyidx).held == some keyconf.key
  | .remove ctx keyidx rfkill reply => !rfkill && reply.accepted || (st.wepKeys ctx keyidx).held == none
  | .commit call =>
    !call.needsFull (st.rxon.active call.ctx) || !(call.reply .disableRxon).accepted || !st.notEmpty call.ctx ||
      call.reachesKeys && (call.reply .wepKeys).accepted
  | .restart => true

/-! ### The command has the keys -/

section Command

variable (slot : WepSlot) (i : Fin wepKeysMax)

/-- The copies stay inside of the fields. -/
theorem WepSlot.size_le : 3 + slot.keySize ≤ 16 := by
  obtain same | same | same := slot.fits
  · rw [same]
    decide
  · rw [same]
    decide
  · rw [same]
    decide

theorem held_eq_none_iff : slot.held = none ↔ slot.keySize = 0 := by
  unfold WepSlot.held
  split
  · exact ⟨fun _ => ‹_›, fun _ => rfl⟩
  · rename_i some_key
    exact ⟨fun same => absurd same (Option.some_ne_none _), fun zero => absurd zero some_key⟩

/-- What is copied is what is held. -/
theorem copy_held {key : List UInt8} (known : key.length = wepKeyLen64 ∨ key.length = wepKeyLen128) :
    (slot.copy key known).held = some key := by
  have size : key.length ≤ 16 ∧ key.length ≠ 0 := by
    simp only [wepKeyLen64, wepKeyLen128] at known
    omega
  unfold WepSlot.held WepSlot.copy
  rw [if_neg size.2]
  refine congrArg some (List.ext_getElem ?_ fun k inTake inKey => ?_)
  · simp
    omega
  · simp [inKey]

/-- **The device takes from the command what the driver has.** -/
theorem wepCmdKey_held : (wepCmdKey i slot).held = slot.held := by
  unfold WepCmdKey.held wepCmdKey WepSlot.held
  by_cases none : slot.keySize = 0
  · simp [none]
  · have known : ∀ i : Fin wepKeysMax, UInt8.ofNat i ≠ wepInvalidOffset := by decide
    have size := slot.size_le
    simp only [ne_eq, none, not_false_eq_true, if_true, known i, if_false]
    refine congrArg some (List.ext_getElem ?_ fun k inCommand inSlot => ?_)
    · simp
      omega
    · simp only [List.length_take, List.length_drop, Vector.length_toList] at inCommand inSlot
      have inKey : 3 + k < 3 + slot.keySize := by omega
      simp [inKey]

end Command

/-! ### One call -/

/-- **The device has what the driver has.** -/
def WepState.Synced (st : WepState) : Prop := ∀ ctx i, st.device ctx i = (st.wepKeys ctx i).held

section Calls

variable {st : WepState} {ctx : CtxId} {reply : Reply}

theorem notEmpty_eq_false_iff : st.notEmpty ctx = false ↔ ∀ i, (st.wepKeys ctx i).held = none := by
  simp [WepState.notEmpty, held_eq_none_iff]

theorem synced_program (others : ∀ ctx', ctx' ≠ ctx → ∀ i, st.device ctx' i = (st.wepKeys ctx' i).held) :
    (st.program ctx).Synced := by
  intro ctx' i
  by_cases same : ctx' = ctx
  · rw [same]
    simp only [WepState.program, wepCmd, Function.update_self, wepCmdKey_held]
  · simp only [WepState.program, Function.update_of_ne same]
    exact others ctx' same i

/-- A slot is written on the driver's side only. -/
theorem synced_setKey_iff (synced : st.Synced) (i : Fin wepKeysMax) (slot : WepSlot) :
    (st.setKey ctx i slot).Synced ↔ (st.wepKeys ctx i).held = slot.held := by
  constructor
  · intro after
    have here := after ctx i
    simp only [WepState.setKey, Function.update_self] at here
    rw [← synced ctx i, here]
  · intro same ctx' i'
    by_cases sameCtx : ctx' = ctx
    · subst sameCtx
      simp only [WepState.setKey, Function.update_self]
      by_cases sameKey : i' = i
      · rw [sameKey, Function.update_self, synced ctx' i, same]
      · rw [Function.update_of_ne sameKey, synced ctx' i']
    · simp only [WepState.setKey, Function.update_of_ne sameCtx]
      exact synced ctx' i'

theorem setKey_others (synced : st.Synced) (i : Fin wepKeysMax) (slot : WepSlot) :
    ∀ ctx', ctx' ≠ ctx → ∀ i',
      (st.setKey ctx i slot).device ctx' i' = ((st.setKey ctx i slot).wepKeys ctx' i').held := by
  intro ctx' other i'
  simp only [WepState.setKey, Function.update_of_ne other]
  exact synced ctx' i'

/-- An un-associated RXON is harmless where there are no keys. -/
theorem synced_unassociate_iff (synced : st.Synced) : (st.unassociate ctx).Synced ↔ st.notEmpty ctx = false := by
  rw [notEmpty_eq_false_iff]
  constructor
  · intro after i
    have here := after ctx i
    simp only [WepState.unassociate, Function.update_self] at here
    exact here.symm
  · intro empty ctx' i
    by_cases same : ctx' = ctx
    · simp only [WepState.unassociate, same, Function.update_self, empty i]
    · simp only [WepState.unassociate, Function.update_of_ne same]
      exact synced ctx' i

theorem set_synced_iff (synced : st.Synced) (keyconf : KeyConf) :
    (iwlSetDefaultWepKey ctx keyconf reply st).2.Synced ↔ (WepCall.set ctx keyconf reply).keeps st = true := by
  unfold iwlSetDefaultWepKey WepCall.keeps
  by_cases known : keyconf.key.length = wepKeyLen64 ∨ keyconf.key.length = wepKeyLen128
  · have some_key : (st.setKey ctx keyconf.keyidx
        ((st.wepKeys ctx keyconf.keyidx).copy keyconf.key known)).notEmpty ctx = true := by
      apply eq_true_of_ne_false
      intro empty
      have here := notEmpty_eq_false_iff.mp empty keyconf.keyidx
      simp only [WepState.setKey, Function.update_self, copy_held] at here
      cases here
    simp only [known, dif_pos, iwlSendStaticWepkeyCmd, some_key, Bool.true_or, if_true, decide_true, Bool.not_true,
      Bool.false_or]
    cases accepted : reply.accepted with
    | true => exact ⟨fun _ => Bool.true_or _, fun _ => synced_program (setKey_others synced _ _)⟩
    | false =>
      simp only [Bool.false_eq_true, if_false, Bool.false_or, beq_iff_eq]
      rw [synced_setKey_iff synced, copy_held]
  · rw [dif_neg known]
    simp only [known, decide_false, Bool.not_false, Bool.true_or]
    exact ⟨fun _ => trivial, fun _ => synced⟩

theorem remove_synced_iff (synced : st.Synced) (keyidx : Fin wepKeysMax) (rfkill : Bool) :
    (iwlRemoveDefaultWepKey ctx keyidx rfkill reply st).2.Synced ↔
      (WepCall.remove ctx keyidx rfkill reply).keeps st = true := by
  have zero : WepSlot.zero.held = none := rfl
  simp only [iwlRemoveDefaultWepKey, WepCall.keeps]
  cases rfkill with
  | true =>
    simp only [if_true, Bool.not_true, Bool.false_and, Bool.false_or, beq_iff_eq]
    rw [synced_setKey_iff synced, zero]
  | false =>
    simp only [Bool.false_eq_true, if_false, iwlSendStaticWepkeyCmd, Bool.or_true, if_true, Bool.not_false,
      Bool.true_and]
    cases accepted : reply.accepted with
    | true => exact ⟨fun _ => Bool.true_or _, fun _ => synced_program (setKey_others synced _ _)⟩
    | false =>
      simp only [Bool.false_eq_true, if_false, Bool.false_or, beq_iff_eq]
      rw [synced_setKey_iff synced, zero]

theorem commit_synced_iff (synced : st.Synced) (call : CommitCall) :
    (commitKeys call st).Synced ↔ (WepCall.commit call).keeps st = true := by
  simp only [commitKeys, WepCall.keeps]
  cases full : call.needsFull (st.rxon.active call.ctx) with
  | false => exact ⟨fun _ => rfl, fun _ => synced⟩
  | true =>
    cases first : (call.reply .disableRxon).accepted with
    | false =>
      have stops : call.reachesKeys = false := by
        have failed : (call.reply .disableRxon).passed = false := by
          cases reply : call.reply .disableRxon with
          | refused => rfl
          | ok | lost =>
            rw [reply] at first
            cases first
        rw [CommitCall.reachesKeys, failed, Bool.false_and]
      simp only [stops, Bool.not_true, Bool.false_eq_true, if_false, Bool.not_false, Bool.true_or, Bool.or_true]
      exact ⟨fun _ => trivial, fun _ => synced⟩
    | true =>
      have keys : (st.unassociate call.ctx).notEmpty call.ctx = st.notEmpty call.ctx := rfl
      simp only [Bool.not_true, Bool.false_eq_true, if_false, if_true, Bool.false_or, iwlRestoreDefaultWepKeys,
        iwlSendStaticWepkeyCmd, Bool.or_false, keys]
      cases call.reachesKeys with
      | false =>
        simp only [Bool.false_eq_true, if_false, Bool.false_and, Bool.or_false, Bool.not_eq_true']
        exact synced_unassociate_iff synced
      | true =>
        cases some_key : st.notEmpty call.ctx with
        | false =>
          simp only [Bool.false_eq_true, if_false, if_true, Bool.not_false, Bool.true_or, iff_true]
          exact (synced_unassociate_iff synced).mpr some_key
        | true =>
          cases accepted : (call.reply .wepKeys).accepted with
          | false =>
            simp only [Bool.false_eq_true, if_false, if_true, Bool.not_true, Bool.and_false, Bool.or_false, iff_false]
            intro after
            exact Bool.false_ne_true (((synced_unassociate_iff synced).mp after).symm.trans some_key)
          | true =>
            simp only [if_true, Bool.true_and, Bool.or_true, iff_true]
            refine synced_program fun ctx' other i => ?_
            simp only [WepState.unassociate, Function.update_of_ne other]
            exact synced ctx' i

/-- **One call.** -/
theorem wepStep_synced_iff (synced : st.Synced) (call : WepCall) :
    (wepStep st call).Synced ↔ call.keeps st = true := by
  cases call with
  | set ctx keyconf reply => exact set_synced_iff synced keyconf
  | remove ctx keyidx rfkill reply => exact remove_synced_iff synced keyidx rfkill
  | commit call => exact commit_synced_iff synced call
  | restart => exact ⟨fun _ => rfl, fun _ _ _ => rfl⟩

end Calls

/-! ### Runs of calls -/

theorem setKey_held (st : WepState) (ctx : CtxId) (i : Fin wepKeysMax) (slot : WepSlot) :
    (fun ctx' i' => ((st.setKey ctx i slot).wepKeys ctx' i').held) =
      Function.update (fun ctx' i' => (st.wepKeys ctx' i').held) ctx
        (Function.update (fun i' => (st.wepKeys ctx i').held) i slot.held) := by
  funext ctx' i'
  by_cases sameCtx : ctx' = ctx
  · subst sameCtx
    by_cases sameKey : i' = i
    · simp only [WepState.setKey, sameKey, Function.update_self]
    · simp only [WepState.setKey, Function.update_self, Function.update_of_ne sameKey]
  · simp only [WepState.setKey, Function.update_of_ne sameCtx]

theorem send_wepKeys (ctx : CtxId) (sendIfEmpty : Bool) (reply : Reply) (st : WepState) :
    (iwlSendStaticWepkeyCmd ctx sendIfEmpty reply st).2.wepKeys = st.wepKeys := by
  unfold iwlSendStaticWepkeyCmd
  split
  · cases reply.accepted <;> rfl
  · rfl

theorem commitKeys_wepKeys (call : CommitCall) (st : WepState) : (commitKeys call st).wepKeys = st.wepKeys := by
  simp only [commitKeys]
  split
  · rfl
  · cases (call.reply .disableRxon).accepted <;> cases call.reachesKeys
    · rfl
    · exact send_wepKeys _ _ _ _
    · rfl
    · exact send_wepKeys _ _ _ _

/-- The driver has what a call asks for, whatever becomes of the command. -/
theorem wepStep_held (st : WepState) (call : WepCall) :
    (fun ctx i => ((wepStep st call).wepKeys ctx i).held) = call.asks fun ctx i => (st.wepKeys ctx i).held := by
  cases call with
  | set ctx keyconf reply =>
    simp only [wepStep, iwlSetDefaultWepKey, WepCall.asks]
    by_cases known : keyconf.key.length = wepKeyLen64 ∨ keyconf.key.length = wepKeyLen128
    · rw [dif_pos known, if_pos known, send_wepKeys, setKey_held, copy_held]
    · rw [dif_neg known, if_neg known]
  | remove ctx keyidx rfkill reply =>
    simp only [wepStep, iwlRemoveDefaultWepKey, WepCall.asks]
    cases rfkill with
    | true => exact setKey_held st ctx keyidx .zero
    | false =>
      simp only [Bool.false_eq_true, if_false, send_wepKeys]
      exact setKey_held st ctx keyidx .zero
  | commit call => simp only [wepStep, commitKeys_wepKeys, WepCall.asks]
  | restart => rfl

/-- **The driver has what it was last asked for.** -/
theorem ring_after (rxon : RxonState) (calls : List WepCall) :
    (fun ctx i => ((wepAfter rxon calls).wepKeys ctx i).held) = intended calls := by
  unfold wepAfter intended
  have boot : (fun ctx i => ((WepState.boot rxon).wepKeys ctx i).held) = fun _ _ => none := rfl
  rw [← boot]
  generalize WepState.boot rxon = start
  induction calls generalizing start with
  | nil => rfl
  | cons call calls ih => rw [List.foldl_cons, List.foldl_cons, ih, wepStep_held]

theorem synced_after_iff (rxon : RxonState) (calls : List WepCall) :
    (wepAfter rxon calls).Synced ↔ (wepAfter rxon calls).device = intended calls := by
  rw [← ring_after rxon calls]
  exact ⟨fun synced => funext fun ctx => funext (synced ctx), fun same ctx i => congrFun (congrFun same ctx) i⟩

/-- **The device has the keys that were asked for**, after each call of a run, exactly when every call keeps it in
step. -/
theorem device_intended_iff (rxon : RxonState) (calls : List WepCall) :
    (∀ done, done <+: calls → (wepAfter rxon done).device = intended done) ↔
      allowed (fun st call => some (wepStep st call)) (fun st call => call.keeps st) (.boot rxon) calls = true := by
  have always := @always_iff_allowed WepState WepCall (fun st call => some (wepStep st call))
    (fun st call => call.keeps st) WepState.Synced WepState.Synced
    (fun _ call _ synced keeps stepped => Option.some.inj stepped ▸ (wepStep_synced_iff synced call).mpr keeps)
    (fun _ synced => synced)
    (fun _ call _ synced breaks stepped after =>
      Bool.false_ne_true (breaks.symm.trans ((wepStep_synced_iff synced call).mp (Option.some.inj stepped ▸ after))))
    (fun st call => ⟨wepStep st call, rfl⟩) (.boot rxon) calls fun _ _ => rfl
  rw [← always, always_total_iff]
  exact forall₂_congr fun done _ => (synced_after_iff rxon done).symm

end IntelWifi.Dvm.Rxon
