/-
**Thermal throttling.**

The two temperature handlers, for the legacy and the advanced mode. A handler returns what it does beside
the state: which of the two CT-kill tasks it runs.

* `legacyLocked_outcome`, `advanceLocked_eq`: the locked part, which both have.
* `legacy_outcome`, `advance_outcome`: what each handler does.
* `thermalThrottling`: over all sequences of calls the status bit agrees with the state.
-/

import Mathlib.Tactic.Common

namespace IntelWifi.Dvm.Thermal

/-- `enum iwl_tt_state`. -/
inductive IwlTtState where
  | ti0
  | ti1
  | ti2
  | ctKill
  deriving DecidableEq, Repr

/-- `struct iwl_tt_trans`. The bounds are `u32`. -/
structure IwlTtTrans where
  nextState : IwlTtState
  ttLow : Nat
  ttHigh : Nat

/-- `CT_KILL_THRESHOLD`. -/
def ctKillThreshold : Nat := 114

/-- `CT_KILL_EXIT_THRESHOLD`. -/
def ctKillExitThreshold : Nat := 95

/-- `IWL_ABSOLUTE_MAX`. -/
def iwlAbsoluteMax : Nat := 0xffffffff

/-- `IWL_POWER_INDEX_3`, `4` and `5`: `enum iwl_power_level` begins with `IWL_POWER_INDEX_1` at 0. -/
def iwlPowerIndex3 : Nat := 2
def iwlPowerIndex4 : Nat := 3
def iwlPowerIndex5 : Nat := 4

/-- `tt->transaction`, as `iwl_tt_initialize` fills it: `tt_range_0` to `tt_range_3`. -/
def transaction : IwlTtState → List IwlTtTrans
  | .ti0 => [⟨.ti0, 0, 104⟩, ⟨.ti1, 105, ctKillThreshold - 1⟩, ⟨.ctKill, ctKillThreshold, iwlAbsoluteMax⟩]
  | .ti1 => [⟨.ti0, 0, 95⟩, ⟨.ti2, 110, ctKillThreshold - 1⟩, ⟨.ctKill, ctKillThreshold, iwlAbsoluteMax⟩]
  | .ti2 => [⟨.ti1, 0, 100⟩, ⟨.ctKill, ctKillThreshold, iwlAbsoluteMax⟩,
      ⟨.ctKill, ctKillThreshold, iwlAbsoluteMax⟩]
  | .ctKill => [⟨.ti0, 0, ctKillExitThreshold⟩, ⟨.ctKill, ctKillExitThreshold + 1, iwlAbsoluteMax⟩,
      ⟨.ctKill, ctKillExitThreshold + 1, iwlAbsoluteMax⟩]

/-- `is_ht` of `tt->restriction`, as `iwl_tt_initialize` fills it from `restriction_range`. -/
def isHt : IwlTtState → Bool
  | .ti0 => true
  | .ti1 => true
  | .ti2 => false
  | .ctKill => false

/-- `RXON_FLG_CHANNEL_MODE_MSK | RXON_FLG_CTRL_CHANNEL_LOC_HI_MSK | RXON_FLG_HT40_PROT_MSK |
RXON_FLG_HT_PROT_MSK`. -/
def rxonHtFlags : BitVec 32 := (3 <<< 25) ||| (1 <<< 22) ||| (2 <<< 23) ||| (1 <<< 23)

/-- What the handlers read and write of `iwl_priv`: `thermal_throttle`, `STATUS_CT_KILL`, and the
`staging.flags` of the contexts. -/
structure IwlPriv where
  state : IwlTtState
  advancedTt : Bool
  ttPowerMode : Nat
  statusCtKill : Bool
  staging : List (BitVec 32)
  deriving DecidableEq

/-- `iwl_perform_ct_kill_task`, which stops the queues or wakes them, and `iwl_prepare_ct_kill_task`. -/
inductive CtKillTask where
  | perform (stop : Bool)
  | prepare
  deriving DecidableEq

/-- A call of a handler: its arguments, whether `iwl_power_update_mode` succeeds, and what
`iwl_set_rxon_ht` makes of the staging flags. -/
structure TtCall where
  temp : BitVec 32
  force : Bool
  powerUpdates : Bool
  setRxonHt : List (BitVec 32) → List (BitVec 32)

/-! ### The legacy handler -/

/-- The state for a temperature. -/
def legacyState (temp : BitVec 32) : IwlTtState :=
  if 110 ≤ temp.toInt then .ctKill
  else if 100 ≤ temp.toInt then .ti2
  else if 90 ≤ temp.toInt then .ti1
  else .ti0

/-- The power index of a new state. -/
def legacyPowerMode (priv : IwlPriv) : Nat :=
  match priv.state with
  | .ti0 => priv.ttPowerMode
  | .ti1 => iwlPowerIndex3
  | .ti2 => iwlPowerIndex4
  | .ctKill => iwlPowerIndex5

/-- The part of `iwl_legacy_tt_handler` under the mutex. -/
def legacyLocked (call : TtCall) (oldState : IwlTtState) (priv : IwlPriv) : IwlPriv × List CtKillTask :=
  let priv := if oldState = .ctKill then { priv with statusCtKill := false } else priv
  if priv.state ≠ .ctKill && !call.powerUpdates then
    let priv := if oldState = .ctKill then { priv with statusCtKill := true } else priv
    ({ priv with state := oldState }, [])
  else if priv.state = .ctKill then
    if call.force then ({ priv with statusCtKill := true }, [.perform true])
    else ({ priv with state := oldState }, [.prepare])
  else if oldState = .ctKill && priv.state ≠ .ctKill then (priv, [.perform false])
  else (priv, [])

/-- `iwl_legacy_tt_handler`. -/
def iwlLegacyTtHandler (call : TtCall) (priv : IwlPriv) : IwlPriv × List CtKillTask :=
  let oldState := priv.state
  let priv := { priv with state := legacyState call.temp }
  if priv.state ≠ oldState then
    legacyLocked call oldState { priv with ttPowerMode := legacyPowerMode priv }
  else (priv, [])

/-! ### The advanced handler -/

/-- `iwl_ht_enabled`. -/
def iwlHtEnabled (priv : IwlPriv) : Bool := !priv.advancedTt || isHt priv.state

/-- The transaction for a temperature, which is compared as a `u32`. -/
def advanceTrans (oldState : IwlTtState) (temp : BitVec 32) : Option IwlTtTrans :=
  (transaction oldState).find? fun entry => entry.ttLow ≤ temp.toNat && temp.toNat ≤ entry.ttHigh

/-- The power index and the staging flags for a new state. -/
def advanceRestrict (call : TtCall) (priv : IwlPriv) : IwlPriv :=
  if priv.state ≠ .ti0 then
    let priv := { priv with ttPowerMode := iwlPowerIndex5 }
    if !iwlHtEnabled priv then { priv with staging := priv.staging.map (· &&& ~~~rxonHtFlags) }
    else { priv with staging := call.setRxonHt priv.staging }
  else { priv with staging := call.setRxonHt priv.staging }

/-- The part of `iwl_advance_tt_handler` under the mutex. -/
def advanceLocked (call : TtCall) (oldState : IwlTtState) (priv : IwlPriv) : IwlPriv × List CtKillTask :=
  let priv := if oldState = .ctKill then { priv with statusCtKill := false } else priv
  if priv.state ≠ .ctKill && !call.powerUpdates then
    let priv := if oldState = .ctKill then { priv with statusCtKill := true } else priv
    ({ priv with state := oldState }, [])
  else if oldState ≠ .ctKill && priv.state = .ctKill then
    if call.force then ({ priv with statusCtKill := true }, [.perform true])
    else ({ priv with state := oldState }, [.prepare])
  else if oldState = .ctKill && priv.state ≠ .ctKill then (priv, [.perform false])
  else (priv, [])

/-- `iwl_advance_tt_handler`. -/
def iwlAdvanceTtHandler (call : TtCall) (priv : IwlPriv) : IwlPriv × List CtKillTask :=
  let oldState := priv.state
  match advanceTrans oldState call.temp with
  | none => (priv, [])
  | some entry =>
    if oldState ≠ entry.nextState then
      advanceLocked call oldState (advanceRestrict call { priv with state := entry.nextState })
    else (priv, [])

/-- The handler of the mode. -/
def ttHandler (call : TtCall) (priv : IwlPriv) : IwlPriv × List CtKillTask :=
  if !priv.advancedTt then iwlLegacyTtHandler call priv else iwlAdvanceTtHandler call priv

/-- The state after a sequence of calls. -/
def ttRun (calls : List TtCall) (priv : IwlPriv) : IwlPriv :=
  calls.foldl (fun priv call => (ttHandler call priv).1) priv

/-- `iwl_tt_initialize`, where the tables of the advanced mode may get no memory. -/
def iwlTtInitialize (advThermalThrottle hasMemory : Bool) (staging : List (BitVec 32)) : IwlPriv where
  state := .ti0
  advancedTt := advThermalThrottle && hasMemory
  ttPowerMode := 0
  statusCtKill := false
  staging := staging

/-! ### What a call does -/

/-- `STATUS_CT_KILL` agrees with the state. -/
def Consistent (priv : IwlPriv) : Prop := priv.statusCtKill = true ↔ priv.state = .ctKill

/-- What a call does to the status bit, and that it runs the task of each way. -/
structure Outcome (priv : IwlPriv) (out : IwlPriv × List CtKillTask) : Prop where
  consistent : Consistent out.1
  leaves : (.perform false) ∈ out.2 ↔ priv.state = .ctKill ∧ out.1.state ≠ .ctKill
  enters : (.perform true) ∈ out.2 ↔ priv.state ≠ .ctKill ∧ out.1.state = .ctKill

/-- Nothing of it changes. -/
theorem Outcome.stays {priv priv' : IwlPriv} (consistent : Consistent priv)
    (state : priv'.state = priv.state) (status : priv'.statusCtKill = priv.statusCtKill) :
    Outcome priv (priv', []) where
  consistent := by
    unfold Consistent
    rw [state, status]
    exact consistent
  leaves := by
    rw [state]
    exact ⟨fun none => absurd none List.not_mem_nil, fun both => absurd both.1 both.2⟩
  enters := by
    rw [state]
    exact ⟨fun none => absurd none List.not_mem_nil, fun both => absurd both.2 both.1⟩

/-- The CT-kill state is left. -/
theorem Outcome.exits {priv priv' : IwlPriv} (killed : priv.state = .ctKill) (left : priv'.state ≠ .ctKill)
    (cleared : priv'.statusCtKill = false) : Outcome priv (priv', [.perform false]) where
  consistent := ⟨fun set => Bool.noConfusion (cleared.symm.trans set), fun same => absurd same left⟩
  leaves := ⟨fun _ => ⟨killed, left⟩, fun _ => List.mem_singleton_self _⟩
  enters := ⟨fun member => (by cases List.mem_singleton.mp member), fun both => absurd killed both.1⟩

/-- The CT-kill state is entered. -/
theorem Outcome.kills {priv priv' : IwlPriv} (alive : priv.state ≠ .ctKill) (entered : priv'.state = .ctKill)
    (set : priv'.statusCtKill = true) : Outcome priv (priv', [.perform true]) where
  consistent := ⟨fun _ => entered, fun _ => set⟩
  leaves := ⟨fun member => (by cases List.mem_singleton.mp member), fun both => absurd both.1 alive⟩
  enters := ⟨fun _ => ⟨alive, entered⟩, fun _ => List.mem_singleton_self _⟩

/-- Neither. -/
theorem Outcome.passes {priv priv' : IwlPriv} (consistent : Consistent priv) {tasks : List CtKillTask}
    (none : ∀ stop, .perform stop ∉ tasks) (alive : priv.state ≠ .ctKill) (still : priv'.state ≠ .ctKill)
    (status : priv'.statusCtKill = priv.statusCtKill) : Outcome priv (priv', tasks) where
  consistent := ⟨fun set => absurd (consistent.mp (status ▸ set)) alive, fun same => absurd same still⟩
  leaves := ⟨fun member => absurd member (none false), fun both => absurd both.1 alive⟩
  enters := ⟨fun member => absurd member (none true), fun both => absurd both.2 still⟩

/-- **The part under the mutex**, with a new state in place. -/
theorem legacyLocked_outcome (call : TtCall) {priv priv' : IwlPriv} (consistent : Consistent priv)
    (status : priv'.statusCtKill = priv.statusCtKill) (changed : priv'.state ≠ priv.state) :
    Outcome priv (legacyLocked call priv.state priv') := by
  by_cases killed : priv.state = .ctKill
  · have left : priv'.state ≠ .ctKill := fun same => changed (same.trans killed.symm)
    cases updates : call.powerUpdates with
    | false =>
      have done : legacyLocked call priv.state priv' =
          ({ priv' with statusCtKill := true, state := priv.state }, []) := by
        simp [legacyLocked, killed, left, updates]
      rw [done]
      exact .stays consistent rfl (consistent.mpr killed).symm
    | true =>
      have done : legacyLocked call priv.state priv' =
          ({ priv' with statusCtKill := false }, [.perform false]) := by
        simp [legacyLocked, killed, left, updates]
      rw [done]
      exact .exits killed left rfl
  · by_cases entered : priv'.state = .ctKill
    · cases forced : call.force with
      | false =>
        have done : legacyLocked call priv.state priv' =
            ({ priv' with state := priv.state }, [.prepare]) := by
          simp [legacyLocked, killed, entered, forced]
        rw [done]
        exact .passes consistent (by simp) killed killed status
      | true =>
        have done : legacyLocked call priv.state priv' =
            ({ priv' with statusCtKill := true }, [.perform true]) := by
          simp [legacyLocked, killed, entered, forced]
        rw [done]
        exact .kills killed entered rfl
    · cases updates : call.powerUpdates with
      | false =>
        have done : legacyLocked call priv.state priv' = ({ priv' with state := priv.state }, []) := by
          simp [legacyLocked, killed, entered, updates]
        rw [done]
        exact .stays consistent rfl status
      | true =>
        have done : legacyLocked call priv.state priv' = (priv', []) := by
          simp [legacyLocked, killed, entered, updates]
        rw [done]
        exact .passes consistent (fun _ => List.not_mem_nil) killed entered status

/-- The two handlers differ there only where nothing has changed. -/
theorem advanceLocked_eq (call : TtCall) {oldState : IwlTtState} {priv : IwlPriv}
    (changed : priv.state ≠ oldState) : advanceLocked call oldState priv = legacyLocked call oldState priv := by
  unfold advanceLocked legacyLocked
  by_cases killed : oldState = .ctKill
  · have left : priv.state ≠ .ctKill := fun same => changed (same.trans killed.symm)
    simp [killed, left]
  · simp [killed]

theorem advanceRestrict_same (call : TtCall) (priv : IwlPriv) :
    (advanceRestrict call priv).state = priv.state ∧
      (advanceRestrict call priv).statusCtKill = priv.statusCtKill ∧
      (advanceRestrict call priv).advancedTt = priv.advancedTt := by
  unfold advanceRestrict
  dsimp only
  split
  · split <;> exact ⟨rfl, rfl, rfl⟩
  · exact ⟨rfl, rfl, rfl⟩

/-- **The legacy handler.** -/
theorem legacy_outcome (call : TtCall) {priv : IwlPriv} (consistent : Consistent priv) :
    Outcome priv (iwlLegacyTtHandler call priv) := by
  unfold iwlLegacyTtHandler
  dsimp only
  by_cases same : legacyState call.temp = priv.state
  · rw [if_neg (not_not.mpr same)]
    exact .stays consistent same rfl
  · rw [if_pos same]
    exact legacyLocked_outcome call consistent rfl same

/-- **The advanced handler.** -/
theorem advance_outcome (call : TtCall) {priv : IwlPriv} (consistent : Consistent priv) :
    Outcome priv (iwlAdvanceTtHandler call priv) := by
  unfold iwlAdvanceTtHandler
  dsimp only
  cases advanceTrans priv.state call.temp with
  | none => exact .stays consistent rfl rfl
  | some entry =>
    dsimp only
    by_cases same : priv.state = entry.nextState
    · rw [if_neg (not_not.mpr same)]
      exact .stays consistent rfl rfl
    · obtain ⟨state, status, _⟩ := advanceRestrict_same call { priv with state := entry.nextState }
      have changed : (advanceRestrict call { priv with state := entry.nextState }).state ≠ priv.state :=
        fun back => same (back.symm.trans state)
      rw [if_pos same, advanceLocked_eq call changed]
      exact legacyLocked_outcome call consistent status changed

/-- **One call**, in either mode. -/
theorem ttHandler_outcome (call : TtCall) {priv : IwlPriv} (consistent : Consistent priv) :
    Outcome priv (ttHandler call priv) := by
  unfold ttHandler
  split
  · exact legacy_outcome call consistent
  · exact advance_outcome call consistent

/-! ### Runs -/

theorem ttRun_consistent (calls : List TtCall) {priv : IwlPriv} (consistent : Consistent priv) :
    Consistent (ttRun calls priv) := by
  induction calls generalizing priv with
  | nil => exact consistent
  | cons call later ih => exact ih (ttHandler_outcome call consistent).consistent

/-- **Thermal throttling is consistent.** After any sequence of calls in either mode `STATUS_CT_KILL` is
set exactly in the state `IWL_TI_CT_KILL`; and the next call runs the CT-kill exit path exactly if it
leaves that state, and the entry path exactly if it enters it. -/
theorem thermalThrottling (advThermalThrottle hasMemory : Bool) (staging : List (BitVec 32))
    (calls : List TtCall) (call : TtCall) :
    Consistent (ttRun calls (iwlTtInitialize advThermalThrottle hasMemory staging)) ∧
      Outcome (ttRun calls (iwlTtInitialize advThermalThrottle hasMemory staging))
        (ttHandler call (ttRun calls (iwlTtInitialize advThermalThrottle hasMemory staging))) := by
  have begins : Consistent (iwlTtInitialize advThermalThrottle hasMemory staging) :=
    ⟨fun set => Bool.noConfusion set, fun same => IwlTtState.noConfusion same⟩
  have reached := ttRun_consistent calls begins
  exact ⟨reached, ttHandler_outcome call reached⟩

/-- A temperature below zero is above every threshold of the advanced mode. -/
example : (advanceTrans .ti0 (-1)).map IwlTtTrans.nextState = some .ctKill := by decide

end IntelWifi.Dvm.Thermal
