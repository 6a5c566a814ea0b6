/-
**The RF-kill state that the op mode is told.**

`STATUS_RFKILL_OPMODE` is the RF-kill state reported to the op mode. The transport reports in four places, always where
the bit is not what it was: at the start of the hardware, around the loading of the firmware, when the device is
stopped, and in the interrupt handler. The handler sets and reports under the mutex, but clears the bits when it has
already unlocked it.

A run is these operations in any order, with anything between the two halves of a handler. What the switch says is
given each time it is read. `iwl_trans_pcie_rf_kill` only logs the report, as what it would do with the op mode is not
implemented; `reported` is the last one.

* `checkHwRfKill_reports`, `irqLocked_reports`, `stopDevice_reports`: what each of them does to the bit and the report.
* `whole_inTime`: where no handler is interrupted between its halves, everything comes in time.
* `reported_iff`: in every state of a run the bit is what was reported last, up to the handler that is about to clear it,
  and the hardware bit is never set without it, exactly when no start of the hardware comes between the halves of a
  handler that has still to clear the bit, and no handler clears it after another kill was reported.
* `startFw_done`: firmware that is not to run in RF-kill is not started in it.
-/

import IntelWifi.Lib.Machine

namespace IntelWifi.Pcie.RfKill

open IntelWifi.Machine

/-- The bits of the status word and of `iwl_trans_pcie`. -/
structure RfKillState where
  /-- `STATUS_RFKILL_HW`. -/
  hw : Bool
  /-- `STATUS_RFKILL_OPMODE`. -/
  opmode : Bool
  opmodeDown : Bool
  isDown : Bool
  /-- What `iwl_trans_pcie_rf_kill` reported last. -/
  reported : Bool
  /-- `hw_rfkill` of a handler that has unlocked the mutex. -/
  handler : Option Bool
  deriving DecidableEq, Repr

/-- `iwl_trans_pcie_rf_kill`. -/
def iwlTransPcieRfKill (report : Bool) (st : RfKillState) : RfKillState := { st with reported := report }

/-- `iwl_pcie_check_hw_rf_kill`. `hwRfkill` is what `iwl_is_rfkill_set` says. -/
def iwlPcieCheckHwRfKill (hwRfkill : Bool) (st : RfKillState) : RfKillState :=
  let prev := st.opmode
  let st :=
    if hwRfkill then { st with hw := true, opmode := true }
    else
      let st := { st with hw := false }
      if st.opmodeDown then { st with opmode := false } else st
  let report := st.opmode
  if prev != report then iwlTransPcieRfKill report st else st

/-- `iwl_pcie_handle_rfkill_irq`, under the mutex. -/
def irqLocked (hwRfkill : Bool) (st : RfKillState) : RfKillState :=
  let prev := st.opmode
  let st := if hwRfkill then { st with opmode := true, hw := true } else st
  let report := if st.opmodeDown then hwRfkill else st.opmode
  let st := if prev != report then iwlTransPcieRfKill report st else st
  { st with handler := some hwRfkill }

/-- The rest of `iwl_pcie_handle_rfkill_irq`. What it does for a host command in flight is left out. -/
def irqRest (hwRfkill : Bool) (st : RfKillState) : RfKillState :=
  let st := { st with handler := none }
  if hwRfkill then st
  else
    let st := { st with hw := false }
    if st.opmodeDown then { st with opmode := false } else st

/-- `iwl_trans_pcie_handle_stop_rfkill`. -/
def iwlTransPcieHandleStopRfkill (hwRfkill wasInRfkill : Bool) (st : RfKillState) : RfKillState :=
  let st :=
    if hwRfkill then { st with hw := true, opmode := true } else { st with hw := false, opmode := false }
  if hwRfkill != wasInRfkill then iwlTransPcieRfKill hwRfkill st else st

/-- `iwl_trans_pcie_stop_device`. -/
def iwlTransPcieStopDevice (hwRfkill : Bool) (st : RfKillState) : RfKillState :=
  let st := { st with opmodeDown := true }
  let wasInRfkill := st.opmode
  iwlTransPcieHandleStopRfkill hwRfkill wasInRfkill { st with isDown := true }

/-- `_iwl_trans_pcie_start_hw`. `ready` is whether the card gets ready and `iwl_pcie_apm_init` succeeds. -/
def iwlTransPcieStartHw (ready hwRfkill : Bool) (st : RfKillState) : RfKillState :=
  if !ready then st else iwlPcieCheckHwRfKill hwRfkill { st with opmodeDown := false, isDown := false }

/-- What a start of the firmware meets: whether the card gets ready, the switch, the results of `iwl_pcie_nic_init` and
of the loading, and the switch again. -/
structure StartFwEnv where
  runInRfkill : Bool
  ready : Bool
  hwRfkill : Bool
  nicInit : Bool
  loaded : Bool
  hwRfkillAfter : Bool
  deriving DecidableEq, Repr

/-- The results of `iwl_trans_pcie_start_fw`. -/
inductive StartFwResult where
  | done
  | eio
  | erfkill
  | failed
  deriving DecidableEq, Repr

/-- `iwl_trans_pcie_start_fw`. -/
def iwlTransPcieStartFw (env : StartFwEnv) (st : RfKillState) : StartFwResult × RfKillState :=
  if !env.ready then (.eio, st)
  else
    let st := iwlPcieCheckHwRfKill env.hwRfkill st
    if env.hwRfkill && !env.runInRfkill then (.erfkill, st)
    else if st.isDown then (.eio, st)
    else if !env.nicInit then (.failed, st)
    else
      -- the switch may have been toggled while only the load interrupt was enabled
      let st := iwlPcieCheckHwRfKill env.hwRfkillAfter st
      if env.hwRfkillAfter && !env.runInRfkill then (.erfkill, st)
      else if env.loaded then (.done, st) else (.failed, st)

inductive RfKillAct where
  | startHw (ready hwRfkill : Bool)
  | startFw (env : StartFwEnv)
  | stopDevice (hwRfkill : Bool)
  | irqLocked (hwRfkill : Bool)
  | irqRest
  deriving DecidableEq, Repr

/-- One handler runs at a time. -/
def rfKillStep (st : RfKillState) : RfKillAct → Option RfKillState
  | .startHw ready hwRfkill => some (iwlTransPcieStartHw ready hwRfkill st)
  | .startFw env => some (iwlTransPcieStartFw env st).2
  | .stopDevice hwRfkill => some (iwlTransPcieStopDevice hwRfkill st)
  | .irqLocked hwRfkill =>
    match st.handler with
    | none => some (irqLocked hwRfkill st)
    | some _ => none
  | .irqRest => st.handler.map fun hwRfkill => irqRest hwRfkill st

/-- The state that `iwl_trans_pcie_alloc` leaves. -/
def rfKillStart : RfKillState := ⟨false, false, true, false, false, none⟩

/-! ### The report -/

/-- A handler that found the radio enabled, and the op mode down, has yet to clear the bit. -/
def Clearing (st : RfKillState) : Prop := st.handler = some false ∧ st.opmodeDown = true ∧ st.reported = false

/-- **The bit is what was reported**, or about to be; and the hardware bit comes with it. -/
structure Reported (st : RfKillState) : Prop where
  bit : st.opmode = st.reported ∨ Clearing st
  hw : st.hw = true → st.opmode = true

/-- No start of the hardware before the bit is cleared, and no clearing behind another report. -/
def inTime (st : RfKillState) : RfKillAct → Bool
  | .startHw ready _ => !(ready && st.opmode != st.reported)
  | .irqRest => !(st.handler == some false && st.opmodeDown && st.reported)
  | _ => true

section Functions

variable {st : RfKillState} (hwRfkill : Bool)

/-- A report where the bit changes. -/
theorem report_changed {prev bit reported : Bool} (same : prev = reported) :
    bit = if prev != bit then bit else reported := by
  subst same
  cases prev <;> cases bit <;> rfl

/-- **The check**: the bit follows the switch, but is only cleared while the op mode is down. -/
theorem checkHwRfKill_reports :
    iwlPcieCheckHwRfKill hwRfkill st =
      { st with
        hw := hwRfkill
        opmode := hwRfkill || st.opmode && !st.opmodeDown
        reported := if st.opmode != (hwRfkill || st.opmode && !st.opmodeDown) then
          hwRfkill || st.opmode && !st.opmodeDown else st.reported } := by
  obtain ⟨hw, opmode, opmodeDown, isDown, reported, handler⟩ := st
  cases hwRfkill <;> cases opmode <;> cases opmodeDown <;> rfl

@[simp] theorem checkHwRfKill_handler : (iwlPcieCheckHwRfKill hwRfkill st).handler = st.handler := by
  rw [checkHwRfKill_reports]

@[simp] theorem checkHwRfKill_isDown : (iwlPcieCheckHwRfKill hwRfkill st).isDown = st.isDown := by
  rw [checkHwRfKill_reports]

/-- **The handler, under the mutex**: the bit is set, but not yet cleared. -/
theorem irqLocked_reports :
    irqLocked hwRfkill st =
      { st with
        hw := hwRfkill || st.hw
        opmode := hwRfkill || st.opmode
        reported := if st.opmodeDown && !hwRfkill then (if st.opmode then false else st.reported)
          else if hwRfkill && !st.opmode then true else st.reported
        handler := some hwRfkill } := by
  obtain ⟨hw, opmode, opmodeDown, isDown, reported, handler⟩ := st
  cases hwRfkill <;> cases opmode <;> cases opmodeDown <;> rfl

/-- **The stop**: bits and switch agree. -/
theorem stopDevice_reports :
    iwlTransPcieStopDevice hwRfkill st =
      { st with
        hw := hwRfkill
        opmode := hwRfkill
        opmodeDown := true
        isDown := true
        reported := if st.opmode != hwRfkill then hwRfkill else st.reported } := by
  obtain ⟨hw, opmode, opmodeDown, isDown, reported, handler⟩ := st
  cases hwRfkill <;> cases opmode <;> rfl

theorem irqRest_eq :
    irqRest hwRfkill st =
      { st with
        hw := hwRfkill && st.hw
        opmode := st.opmode && (hwRfkill || !st.opmodeDown)
        handler := none } := by
  obtain ⟨hw, opmode, opmodeDown, isDown, reported, handler⟩ := st
  cases hwRfkill <;> cases hw <;> cases opmode <;> cases opmodeDown <;> rfl

end Functions

/-! ### Steps -/

section Steps

variable {st next : RfKillState}

theorem Reported.settled (reported : Reported st) (none : ¬ Clearing st) : st.opmode = st.reported :=
  reported.bit.resolve_right none

/-- What `bit` says where the handler has nothing to clear. -/
theorem Reported.of_eq (same : st.opmode = st.reported) (hw : st.hw = true → st.opmode = true) : Reported st :=
  ⟨.inl same, hw⟩

theorem checkHwRfKill_reported (hwRfkill : Bool) (reported : Reported st) :
    Reported (iwlPcieCheckHwRfKill hwRfkill st) := by
  obtain ⟨bit, hw⟩ := reported
  rw [checkHwRfKill_reports]
  refine ⟨?_, fun killed => ?_⟩
  · rcases bit with same | clearing
    · exact .inl (report_changed same)
    · obtain ⟨handler, down, told⟩ := clearing
      dsimp only
      rw [down, told]
      cases hwRfkill with
      | false => exact .inl (by cases st.opmode <;> rfl)
      | true =>
        cases before : st.opmode with
        | false => exact .inl rfl
        | true => exact .inr ⟨handler, rfl, rfl⟩
  · dsimp only at killed ⊢
    rw [killed]
    rfl

theorem stopDevice_reported (hwRfkill : Bool) (reported : Reported st) :
    Reported (iwlTransPcieStopDevice hwRfkill st) := by
  obtain ⟨bit, -⟩ := reported
  rw [stopDevice_reports]
  refine ⟨?_, id⟩
  dsimp only
  rcases bit with same | clearing
  · exact .inl (report_changed same)
  · obtain ⟨handler, -, told⟩ := clearing
    rw [told]
    cases hwRfkill with
    | false => exact .inl (by cases st.opmode <;> rfl)
    | true =>
      cases before : st.opmode with
      | false => exact .inl rfl
      | true => exact .inr ⟨handler, rfl, rfl⟩

theorem irqLocked_reported (hwRfkill : Bool) (reported : Reported st) (idle : st.handler = none) :
    Reported (irqLocked hwRfkill st) := by
  have same : st.opmode = st.reported := by
    refine reported.settled fun clearing => ?_
    rw [clearing.1] at idle
    cases idle
  have hw := reported.hw
  rw [irqLocked_reports]
  refine ⟨?_, fun killed => ?_⟩
  · dsimp only
    rw [← same]
    cases hwRfkill with
    | false =>
      cases down : st.opmodeDown with
      | false => exact .inl rfl
      | true =>
        -- the bit is cleared behind the mutex
        refine .inr ⟨rfl, rfl, ?_⟩
        cases st.opmode <;> rfl
    | true => exact .inl (by cases st.opmode <;> cases st.opmodeDown <;> rfl)
  · dsimp only at killed ⊢
    cases hwRfkill with
    | false => exact hw killed
    | true => rfl

/-- **The rest of a handler**, unless it clears the bit of another report. -/
theorem irqRest_reported {hwRfkill : Bool} (reported : Reported st) (handler : st.handler = some hwRfkill)
    (intime : inTime st .irqRest = true) : Reported (irqRest hwRfkill st) := by
  obtain ⟨bit, hw⟩ := reported
  unfold inTime at intime
  rw [handler] at intime
  rw [irqRest_eq]
  cases hwRfkill with
  | true =>
    refine .of_eq ?_ (fun killed => ?_)
    · have same : st.opmode = st.reported := bit.resolve_right fun clearing => by
        have := handler.symm.trans clearing.1
        cases this
      dsimp only
      rw [← same]
      exact Bool.and_true _
    · dsimp only at killed ⊢
      rw [hw killed]
      rfl
  | false =>
    refine .of_eq ?_ (fun killed => absurd killed Bool.false_ne_true)
    dsimp only
    cases down : st.opmodeDown with
    | false =>
      have same : st.opmode = st.reported := bit.resolve_right fun clearing =>
        Bool.false_ne_true (down.symm.trans clearing.2.1)
      rw [← same]
      exact Bool.and_true _
    | true =>
      rw [down] at intime
      cases told : st.reported with
      | false => exact Bool.and_false _
      | true =>
        rw [told] at intime
        cases intime

theorem startFw_reported (env : StartFwEnv) (reported : Reported st) : Reported (iwlTransPcieStartFw env st).2 := by
  have first := checkHwRfKill_reported env.hwRfkill reported
  have second := checkHwRfKill_reported env.hwRfkillAfter first
  unfold iwlTransPcieStartFw
  dsimp only
  split_ifs
  · exact reported
  · exact first
  · exact first
  · exact first
  · exact second
  · exact second
  · exact second

/-- **The step** that comes in time. -/
theorem rfKillStep_reported {act : RfKillAct} (reported : Reported st) (intime : inTime st act = true)
    (stepped : rfKillStep st act = some next) : Reported next := by
  cases act with
  | startHw ready hwRfkill =>
    obtain rfl := Option.some.inj stepped
    unfold iwlTransPcieStartHw
    cases ready with
    | false => exact reported
    | true =>
      have same : st.opmode = st.reported := by simpa [inTime] using intime
      exact checkHwRfKill_reported hwRfkill (.of_eq same reported.hw)
  | startFw env =>
    obtain rfl := Option.some.inj stepped
    exact startFw_reported env reported
  | stopDevice hwRfkill =>
    obtain rfl := Option.some.inj stepped
    exact stopDevice_reported hwRfkill reported
  | irqLocked hwRfkill =>
    unfold rfKillStep at stepped
    cases idle : st.handler with
    | none =>
      rw [idle] at stepped
      obtain rfl := Option.some.inj stepped
      exact irqLocked_reported hwRfkill reported idle
    | some other =>
      rw [idle] at stepped
      cases stepped
  | irqRest =>
    obtain ⟨hwRfkill, handler, rfl⟩ := Option.map_eq_some_iff.mp stepped
    exact irqRest_reported reported handler intime

/-- **The step** that comes too early, or too late. -/
theorem rfKillStep_loses {act : RfKillAct} (reported : Reported st) (late : inTime st act = false) :
    ∃ next, rfKillStep st act = some next ∧ ¬ Reported next := by
  cases act with
  | startHw ready hwRfkill =>
    obtain ⟨isReady, differ⟩ : ready = true ∧ st.opmode ≠ st.reported := by simpa [inTime] using late
    obtain ⟨-, -, told⟩ := reported.bit.resolve_left differ
    have set : st.opmode = true := by simpa [told] using differ
    refine ⟨_, rfl, fun still => ?_⟩
    -- the bit stays, as the op mode is up, and nothing is reported
    rw [isReady] at still
    change Reported (iwlPcieCheckHwRfKill hwRfkill { st with opmodeDown := false, isDown := false }) at still
    rw [checkHwRfKill_reports] at still
    rcases still.bit with same | clearing
    · dsimp only at same
      rw [set, told] at same
      cases hwRfkill <;> cases same
    · exact Bool.false_ne_true clearing.2.1
  | irqRest =>
    obtain ⟨⟨handler, down⟩, told⟩ : (st.handler = some false ∧ st.opmodeDown = true) ∧ st.reported = true := by
      simpa [inTime] using late
    refine ⟨irqRest false st, ?_, fun still => ?_⟩
    · unfold rfKillStep
      rw [handler]
      rfl
    · rw [irqRest_eq] at still
      rcases still.bit with same | clearing
      · dsimp only at same
        rw [down, told] at same
        cases set : st.opmode <;> rw [set] at same <;> cases same
      · cases clearing.1
  | startFw env => cases late
  | stopDevice hwRfkill => cases late
  | irqLocked hwRfkill => cases late

end Steps

/-- **What the op mode is told.** In every state of a run `STATUS_RFKILL_OPMODE` is what was reported last, up to a
handler that is about to clear it, and is set where `STATUS_RFKILL_HW` is, exactly if every step comes in time. -/
theorem reported_iff (acts : List RfKillAct) :
    Always rfKillStep Reported rfKillStart acts ↔ allowed rfKillStep inTime rfKillStart acts = true :=
  always_iff_allowed_of_enabled Reported
    (fun _ _ _ reported intime stepped => rfKillStep_reported reported intime stepped) (fun _ reported => reported)
    (fun _ _ reported late => rfKillStep_loses reported late)
    (.of_eq rfl fun killed => absurd killed Bool.false_ne_true)

/-! ### Handlers that are not interrupted -/

/-- Both halves of each handler follow each other. -/
def handlersWhole : List RfKillAct → Prop
  | [] => True
  | .irqLocked _ :: .irqRest :: later => handlersWhole later
  | .irqLocked _ :: _ => False
  | .irqRest :: _ => False
  | _ :: later => handlersWhole later

section Whole

variable {st next : RfKillState}

/-- Between handlers the bit is what was reported. -/
theorem Reported.eq_of_idle (reported : Reported st) (idle : st.handler = none) : st.opmode = st.reported :=
  reported.settled fun clearing => by
    rw [clearing.1] at idle
    cases idle

/-- An operation of the op mode comes in time between handlers, and leaves none. -/
theorem idle_step {act : RfKillAct} (reported : Reported st) (idle : st.handler = none)
    (stepped : rfKillStep st act = some next) (op : ∀ hwRfkill, act ≠ .irqLocked hwRfkill) :
    inTime st act = true ∧ next.handler = none := by
  have same := reported.eq_of_idle idle
  cases act with
  | startHw ready hwRfkill =>
    obtain rfl := Option.some.inj stepped
    refine ⟨by simp [inTime, same], ?_⟩
    unfold iwlTransPcieStartHw
    split
    · exact idle
    · rw [checkHwRfKill_handler]
      exact idle
  | startFw env =>
    obtain rfl := Option.some.inj stepped
    refine ⟨rfl, ?_⟩
    unfold iwlTransPcieStartFw
    dsimp only
    split_ifs <;> simp only [checkHwRfKill_handler, idle]
  | stopDevice hwRfkill =>
    obtain rfl := Option.some.inj stepped
    rw [stopDevice_reports]
    exact ⟨rfl, idle⟩
  | irqLocked hwRfkill => exact absurd rfl (op hwRfkill)
  | irqRest =>
    obtain ⟨_, handler, -⟩ := Option.map_eq_some_iff.mp stepped
    rw [idle] at handler
    cases handler

/-- The second half comes in time right behind the first. -/
theorem inTime_rest (reported : Reported st) (idle : st.handler = none) (hwRfkill : Bool) :
    inTime (irqLocked hwRfkill st) .irqRest = true := by
  have same := reported.eq_of_idle idle
  unfold inTime
  rw [irqLocked_reports]
  dsimp only
  rw [← same]
  cases hwRfkill <;> cases st.opmode <;> cases st.opmodeDown <;> rfl

theorem whole_inTime (acts : List RfKillAct) (whole : handlersWhole acts) (reported : Reported st)
    (idle : st.handler = none) : allowed rfKillStep inTime st acts = true := by
  induction acts using handlersWhole.induct generalizing st with
  | case1 => rfl
  | case2 hwRfkill later ih =>
    have locked := irqLocked_reported hwRfkill reported idle
    have handler : (irqLocked hwRfkill st).handler = some hwRfkill := by rw [irqLocked_reports]
    have intime := inTime_rest reported idle hwRfkill
    have rest := irqRest_reported locked handler intime
    have first : rfKillStep st (.irqLocked hwRfkill) = some (irqLocked hwRfkill st) := by
      unfold rfKillStep
      rw [idle]
    have second : rfKillStep (irqLocked hwRfkill st) .irqRest = some (irqRest hwRfkill (irqLocked hwRfkill st)) := by
      unfold rfKillStep
      rw [handler]
      rfl
    have later := ih whole rest (by rw [irqRest_eq])
    simp only [allowed, first, second, Option.all_some, intime, later, Bool.and_true]
    rfl
  | case3 hwRfkill later other =>
    rw [handlersWhole] at whole
    · exact whole.elim
    · exact other
  | case4 later => exact False.elim whole
  | case5 act later both locked rest ih =>
    cases stepped : rfKillStep st act with
    | none =>
      cases act with
      | irqLocked hwRfkill => exact (locked hwRfkill rfl).elim
      | irqRest => exact (rest rfl).elim
      | startHw | startFw | stopDevice => cases stepped
    | some next =>
      obtain ⟨intime, idleNext⟩ := idle_step reported idle stepped locked
      have rests : handlersWhole later := by
        rw [handlersWhole] at whole
        · exact whole
        · exact both
        · exact locked
        · exact rest
      rw [allowed, intime, stepped]
      exact ih rests (rfKillStep_reported reported intime stepped) idleNext

end Whole

/-! ### Starting firmware -/

/-- Firmware that is not to run in RF-kill is not started when the switch is found set before or after it is loaded, and
none is started while the device is down. -/
theorem startFw_done {env : StartFwEnv} {st : RfKillState} (started : (iwlTransPcieStartFw env st).1 = .done) :
    (env.runInRfkill = true ∨ env.hwRfkill = false ∧ env.hwRfkillAfter = false) ∧ st.isDown = false := by
  unfold iwlTransPcieStartFw at started
  simp only [checkHwRfKill_isDown] at started
  split_ifs at started with ready killed down init after loaded
  all_goals
    have up : st.isDown = false := by simpa using down
    refine ⟨?_, up⟩
    cases run : env.runInRfkill with
    | true => exact .inl rfl
    | false =>
      rw [run] at killed after
      exact .inr ⟨by simpa using killed, by simpa using after⟩

end IntelWifi.Pcie.RfKill
