/-
**Where a temperature leads.**

The advanced handler looks for the temperature in the rows of the current state. The bounds of a row are
`u32` and the temperature is `s32`, so C compares them as `u32`: below zero every temperature is above all
thresholds, and the rows that begin at `IWL_ABSOLUTE_ZERO` do not hold it.

The legacy handler writes `tt_power_mode` for the new state before the power update. Where the update fails,
or CT-kill is put off for want of `force`, it takes the state back and leaves `tt_power_mode`.

* `followsTable_iff`: the forced calls that go where the table says.
* `legacyPaired_iff`: the runs in which power mode and state go together.
-/

import IntelWifi.Dvm.ThermalThrottle
import IntelWifi.Lib.Machine

namespace IntelWifi.Dvm.Thermal

open Machine

/-- A new state stays: CT-kill is forced, or the power update for another one passes. -/
def TtCall.settles (call : TtCall) (state : IwlTtState) : Bool :=
  if state = .ctKill then call.force else call.powerUpdates

/-- **The state after the locked part.** -/
theorem legacyLocked_state (call : TtCall) {oldState : IwlTtState} {priv : IwlPriv}
    (changed : priv.state ≠ oldState) : (legacyLocked call oldState priv).1.state =
      if call.settles priv.state then priv.state else oldState := by
  unfold legacyLocked TtCall.settles
  by_cases kills : priv.state = .ctKill
  · have alive : oldState ≠ .ctKill := fun killed => changed (kills.trans killed.symm)
    cases call.force <;> simp [kills, alive]
  · cases call.powerUpdates <;> by_cases killed : oldState = .ctKill <;> simp [kills, killed]

/-! ### The advanced handler -/

/-- A row of the state's table that leads to `next` holds the temperature. -/
def RowFor (state : IwlTtState) (temp : BitVec 32) (next : IwlTtState) : Prop :=
  ∃ entry ∈ transaction state, entry.nextState = next ∧
    (entry.ttLow : Int) ≤ temp.toInt ∧ temp.toInt ≤ entry.ttHigh

/-- The temperature is at a CT-kill threshold of the state's table, or above. -/
def AtKillThreshold (state : IwlTtState) (temp : BitVec 32) : Prop :=
  ∃ entry ∈ transaction state, entry.nextState = .ctKill ∧ (entry.ttLow : Int) ≤ temp.toInt

/-- **The handler follows the table**: it moves where the row that holds the temperature leads, stays where there
is none, and enters the CT-kill state only from its threshold on. -/
structure FollowsTable (call : TtCall) (priv : IwlPriv) : Prop where
  moves : ∀ next, RowFor priv.state call.temp next → (iwlAdvanceTtHandler call priv).1.state = next
  stays : (∀ next, ¬ RowFor priv.state call.temp next) → (iwlAdvanceTtHandler call priv).1.state = priv.state
  enters : priv.state ≠ .ctKill → (iwlAdvanceTtHandler call priv).1.state = .ctKill →
    AtKillThreshold priv.state call.temp

/-- A call with `force`. -/
def TtCall.forced (call : TtCall) : TtCall := { call with force := true }

/-- The temperature is not below zero, or the state is CT-kill, whose rows lead there from above; and the power
update passes where a row leads to a new state other than CT-kill. -/
def tableFollowed (call : TtCall) (priv : IwlPriv) : Prop :=
  (0 ≤ call.temp.toInt ∨ priv.state = .ctKill) ∧
    (call.powerUpdates = true ∨ ∀ next, RowFor priv.state call.temp next → next = priv.state ∨ next = .ctKill)

section Advance

variable {state next next' : IwlTtState} {temp : BitVec 32} {call : TtCall} {priv : IwlPriv}

/-- The rows of a table do not overlap, unless they lead to the same state. -/
theorem RowFor.unique (row : RowFor state temp next) (row' : RowFor state temp next') : next = next' := by
  obtain ⟨entry, member, rfl, low, high⟩ := row
  obtain ⟨entry', member', rfl, low', high'⟩ := row'
  cases state <;>
    simp only [transaction, List.mem_cons, List.not_mem_nil, or_false] at member member' <;>
    rcases member with rfl | rfl | rfl <;> rcases member' with rfl | rfl | rfl <;>
    first
    | rfl
    | (simp only [ctKillThreshold, ctKillExitThreshold, iwlAbsoluteMax] at low high low' high'; omega)

theorem not_rowFor_of_neg (neg : temp.toInt < 0) : ¬ RowFor state temp next := by
  rintro ⟨entry, _, _, low, _⟩
  omega

/-- A temperature from zero on is the same number as a `u32`. -/
theorem toNat_of_nonneg (nonneg : 0 ≤ temp.toInt) : (temp.toNat : Int) = temp.toInt := by
  have := temp.isLt
  rw [BitVec.toInt_eq_toNat_cond] at nonneg ⊢
  split at nonneg <;> split <;> omega

/-- The search finds a row that holds the temperature, from zero on. -/
theorem rowFor_of_found (nonneg : 0 ≤ temp.toInt) {entry : IwlTtTrans}
    (found : advanceTrans state temp = some entry) : RowFor state temp entry.nextState := by
  have inside := List.find?_some found
  simp only [Bool.and_eq_true, decide_eq_true_eq] at inside
  have same := toNat_of_nonneg nonneg
  exact ⟨entry, List.mem_of_find?_eq_some found, rfl, by omega, by omega⟩

theorem not_rowFor_of_none (nonneg : 0 ≤ temp.toInt) (none : advanceTrans state temp = none) :
    ¬ RowFor state temp next := by
  rintro ⟨entry, member, _, low, high⟩
  have outside := List.find?_eq_none.mp none entry member
  have same := toNat_of_nonneg nonneg
  simp only [Bool.and_eq_true, decide_eq_true_eq] at outside
  omega

/-- Below zero the search finds the CT-kill row of every table. -/
theorem found_of_neg (neg : temp.toInt < 0) (state : IwlTtState) :
    ∃ entry, advanceTrans state temp = some entry ∧ entry.nextState = .ctKill := by
  have large : 2 ^ 31 ≤ temp.toNat := by
    rw [BitVec.toInt_eq_toNat_cond] at neg
    split at neg <;> omega
  have fits : temp.toNat ≤ 4294967295 := Nat.le_of_lt_succ temp.isLt
  have below (bound : Nat) (small : bound < 2 ^ 31) : ¬ temp.toNat ≤ bound := by omega
  have above (bound : Nat) (small : bound < 2 ^ 31) : bound ≤ temp.toNat := by omega
  unfold advanceTrans
  cases state <;>
    simp [transaction, ctKillThreshold, ctKillExitThreshold, iwlAbsoluteMax, List.find?, below, above, fits]

/-- **Where a forced call ends**: at the state of the row that is found, unless the power update for it fails. -/
theorem forced_state (call : TtCall) (priv : IwlPriv) : (iwlAdvanceTtHandler call.forced priv).1.state =
    match advanceTrans priv.state call.temp with
    | none => priv.state
    | some entry => if call.forced.settles entry.nextState then entry.nextState else priv.state := by
  have same : call.forced.temp = call.temp := rfl
  unfold iwlAdvanceTtHandler
  dsimp only
  rw [same]
  cases advanceTrans priv.state call.temp with
  | none => rfl
  | some entry =>
    dsimp only
    by_cases stays : priv.state = entry.nextState
    · rw [if_neg (not_not.mpr stays), ← stays, ite_self]
    · obtain ⟨state, _⟩ := advanceRestrict_same call.forced { priv with state := entry.nextState }
      have changed : (advanceRestrict call.forced { priv with state := entry.nextState }).state ≠ priv.state :=
        fun back => stays (back.symm.trans state)
      rw [if_pos stays, advanceLocked_eq call.forced changed, legacyLocked_state call.forced changed, state]

theorem forced_settles (call : TtCall) (state : IwlTtState) :
    call.forced.settles state = true ↔ call.powerUpdates = true ∨ state = .ctKill := by
  unfold TtCall.settles TtCall.forced
  by_cases kills : state = .ctKill
  · rw [if_pos kills]
    exact iff_of_true rfl (.inr kills)
  · rw [if_neg kills]
    exact (or_iff_left kills).symm

/-- Below zero the handler enters CT-kill. -/
theorem forced_of_neg (neg : call.temp.toInt < 0) : (iwlAdvanceTtHandler call.forced priv).1.state = .ctKill := by
  obtain ⟨entry, found, kills⟩ := found_of_neg neg priv.state
  rw [forced_state, found]
  dsimp only
  rw [if_pos ((forced_settles ..).mpr (.inr kills)), kills]

/-- **Which forced calls follow the table.** -/
theorem followsTable_iff (call : TtCall) (priv : IwlPriv) :
    FollowsTable call.forced priv ↔ tableFollowed call priv := by
  unfold tableFollowed
  by_cases neg : call.temp.toInt < 0
  · have none (next : IwlTtState) : ¬ RowFor priv.state call.temp next := not_rowFor_of_neg neg
    have ends := @forced_of_neg call priv neg
    constructor
    · intro follows
      exact ⟨.inr ((follows.stays none).symm.trans ends), .inr fun next row => absurd row (none next)⟩
    · rintro ⟨below | killed, _⟩
      · omega
      · exact ⟨fun next row => absurd row (none next), fun _ => ends.trans killed.symm,
          fun alive => absurd killed alive⟩
  · have nonneg := Int.not_lt.mp neg
    rw [and_iff_right (.inl nonneg)]
    have ends := forced_state call priv
    cases found : advanceTrans priv.state call.temp with
    | none =>
      have none (next : IwlTtState) : ¬ RowFor priv.state call.temp next := not_rowFor_of_none nonneg found
      rw [found] at ends
      refine iff_of_true ⟨fun next row => absurd row (none next), fun _ => ends, fun alive entered => ?_⟩
        (.inr fun next row => absurd row (none next))
      exact absurd (ends.symm.trans entered) alive
    | some entry =>
      have row := rowFor_of_found nonneg found
      rw [found] at ends
      dsimp only at ends
      constructor
      · intro follows
        have moved := follows.moves entry.nextState row
        rw [ends] at moved
        by_cases settles : call.forced.settles entry.nextState = true
        · refine ((forced_settles ..).mp settles).imp_right fun kills next other => .inr ?_
          rw [← row.unique other, kills]
        · rw [if_neg settles] at moved
          exact .inr fun next other => .inl ((row.unique other).symm.trans moved.symm)
      · intro passes
        have arrives : (iwlAdvanceTtHandler call.forced priv).1.state = entry.nextState := by
          rw [ends]
          by_cases settles : call.forced.settles entry.nextState = true
          · rw [if_pos settles]
          · obtain ⟨fails, alive⟩ := not_or.mp (mt (forced_settles ..).mpr settles)
            rw [if_neg settles]
            exact (((passes.resolve_left fails) _ row).resolve_right alive).symm
        refine ⟨fun next other => arrives.trans (row.unique other),
          fun none => absurd row (none entry.nextState), fun _ entered => ?_⟩
        obtain ⟨held, member, leads, low, _⟩ := row
        exact ⟨held, member, leads.trans (arrives.symm.trans entered), low⟩

end Advance

/-- At ten degrees below zero a forced call stops the device. -/
theorem frost_kills : ¬ FollowsTable (TtCall.forced ⟨-10, false, true, id⟩) ⟨.ti0, true, 0, false, []⟩ := by
  intro follows
  have stays := follows.stays fun _ => not_rowFor_of_neg (by decide)
  revert stays
  decide

/-! ### The legacy handler -/

/-- **The power mode of the state.** -/
structure Paired (priv : IwlPriv) : Prop where
  ti1 : priv.state = .ti1 → priv.ttPowerMode = iwlPowerIndex3
  ti2 : priv.state = .ti2 → priv.ttPowerMode = iwlPowerIndex4
  ctKill : priv.state = .ctKill → priv.ttPowerMode = iwlPowerIndex5

/-- The call makes a power update, and it fails. -/
def updateFails (priv : IwlPriv) (call : TtCall) : Prop :=
  legacyState call.temp ≠ priv.state ∧ legacyState call.temp ≠ .ctKill ∧ call.powerUpdates = false

/-- A call of `iwl_legacy_tt_handler` as a step. -/
def legacyStep (priv : IwlPriv) (call : TtCall) : Option IwlPriv := some (iwlLegacyTtHandler call priv).1

/-- **What a step should do**: the power mode is that of the state, and a failed power update changes neither. -/
structure PairedStep (priv : IwlPriv) (call : TtCall) (next : IwlPriv) : Prop where
  paired : Paired next
  restored : updateFails priv call → next.state = priv.state ∧ next.ttPowerMode = priv.ttPowerMode

/-- The state does not change; or it is CT-kill, which is forced or comes from `IWL_TI_0`; or the power update
passes, or the new state has the power mode that is there. -/
def modeKept (priv : IwlPriv) (call : TtCall) : Bool :=
  legacyState call.temp == priv.state ||
    if legacyState call.temp = .ctKill then call.force || priv.state == .ti0
    else call.powerUpdates ||
      legacyPowerMode { priv with state := legacyState call.temp } == priv.ttPowerMode

section Legacy

variable {priv priv' : IwlPriv} {call : TtCall}

/-- The power mode that is written for a new state is its own. -/
theorem paired_legacyPowerMode (state : priv'.state = priv.state)
    (mode : priv'.ttPowerMode = legacyPowerMode priv) : Paired priv' := by
  unfold legacyPowerMode at mode
  constructor
  all_goals
    intro is
    rw [state] at is
    rw [mode, is]

theorem Paired.of_eq (paired : Paired priv) (state : priv'.state = priv.state)
    (mode : priv'.ttPowerMode = priv.ttPowerMode) : Paired priv' := by
  constructor
  · rw [state, mode]
    exact paired.ti1
  · rw [state, mode]
    exact paired.ti2
  · rw [state, mode]
    exact paired.ctKill

/-- The state and the power mode after a call. -/
theorem legacy_state (call : TtCall) (priv : IwlPriv) : (iwlLegacyTtHandler call priv).1.state =
    if call.settles (legacyState call.temp) then legacyState call.temp else priv.state := by
  unfold iwlLegacyTtHandler
  dsimp only
  by_cases same : legacyState call.temp = priv.state
  · rw [if_neg (not_not.mpr same), same, ite_self]
  · rw [if_pos same]
    exact legacyLocked_state call same

theorem legacy_mode (call : TtCall) (priv : IwlPriv) : (iwlLegacyTtHandler call priv).1.ttPowerMode =
    if legacyState call.temp = priv.state then priv.ttPowerMode
    else legacyPowerMode { priv with state := legacyState call.temp } := by
  unfold iwlLegacyTtHandler
  dsimp only
  by_cases same : legacyState call.temp = priv.state
  · rw [if_neg (not_not.mpr same), if_pos same]
  · rw [if_pos same, if_neg same]
    unfold legacyLocked
    dsimp only
    split_ifs <;> rfl

/-- **One call** keeps state and power mode together just when it is one of `modeKept`. -/
theorem pairedStep_iff (paired : Paired priv) (call : TtCall) :
    PairedStep priv call (iwlLegacyTtHandler call priv).1 ↔ modeKept priv call = true := by
  have state := legacy_state call priv
  have mode := legacy_mode call priv
  unfold TtCall.settles at state
  unfold modeKept
  by_cases same : legacyState call.temp = priv.state
  · rw [same, beq_self_eq_true, Bool.true_or]
    rw [same, ite_self] at state
    rw [if_pos same] at mode
    exact iff_of_true ⟨paired.of_eq state mode, fun _ => ⟨state, mode⟩⟩ rfl
  rw [if_neg same] at mode
  rw [beq_false_of_ne same, Bool.false_or]
  by_cases kills : legacyState call.temp = .ctKill
  · rw [if_pos kills] at state ⊢
    have harmless : ¬ updateFails priv call := fun fails => fails.2.1 kills
    cases forced : call.force with
    | true =>
      rw [forced, if_pos rfl] at state
      exact iff_of_true ⟨paired_legacyPowerMode state mode, fun fails => absurd fails harmless⟩ rfl
    | false =>
      rw [forced, if_neg Bool.false_ne_true] at state
      rw [kills] at mode
      -- The power mode is that of CT-kill, and the state the old one.
      have wrong : legacyPowerMode { priv with state := .ctKill } = iwlPowerIndex5 := rfl
      rw [wrong] at mode
      rw [Bool.false_or, beq_iff_eq]
      constructor
      · rintro ⟨after, _⟩
        cases old : priv.state with
        | ti0 => rfl
        | ti1 =>
          have three := after.ti1 (state.trans old)
          rw [mode] at three
          cases three
        | ti2 =>
          have four := after.ti2 (state.trans old)
          rw [mode] at four
          cases four
        | ctKill => exact absurd (kills.trans old.symm) same
      · intro cool
        rw [cool] at state
        refine ⟨?_, fun fails => absurd fails harmless⟩
        constructor
        all_goals
          intro hot
          cases state.symm.trans hot
  · rw [if_neg kills] at state ⊢
    cases updates : call.powerUpdates with
    | true =>
      rw [updates, if_pos rfl] at state
      refine iff_of_true ⟨paired_legacyPowerMode state mode, fun fails => ?_⟩ rfl
      cases updates.symm.trans fails.2.2
    | false =>
      rw [updates, if_neg Bool.false_ne_true] at state
      rw [Bool.false_or, beq_iff_eq, ← mode]
      constructor
      · exact fun right => (right.restored ⟨same, kills, updates⟩).2
      · exact fun right => ⟨paired.of_eq state right, fun _ => ⟨state, right⟩⟩

end Legacy

/-- **State and power mode go together** all along a run of the legacy handler just when all calls of the run
are of `modeKept`. -/
theorem legacyPaired_iff (advThermalThrottle hasMemory : Bool) (staging : List (BitVec 32)) (calls : List TtCall) :
    Throughout legacyStep PairedStep (iwlTtInitialize advThermalThrottle hasMemory staging) calls ↔
      allowed legacyStep modeKept (iwlTtInitialize advThermalThrottle hasMemory staging) calls = true := by
  refine throughout_iff_allowed Paired (fun priv call next paired kept stepped => ?_)
    (fun priv call next paired lost stepped right => ?_) (fun _ _ => ⟨_, rfl⟩) ?_
  · obtain rfl := Option.some.inj stepped
    have right := (pairedStep_iff paired call).mpr kept
    exact ⟨right.paired, right⟩
  · obtain rfl := Option.some.inj stepped
    rw [(pairedStep_iff paired call).mp right] at lost
    cases lost
  · constructor
    all_goals
      intro hot
      cases hot

/-- At 95 degrees the power mode is lowered; at 105 the power update fails: the state stays, and the power mode is
that of the state which was not entered. -/
theorem failedUpdate_unpaired :
    ¬ Throughout legacyStep PairedStep (iwlTtInitialize false true [])
      [⟨95, false, true, id⟩, ⟨105, false, false, id⟩] := by
  intro all
  have second := ((all _ rfl).2 _ rfl).1.paired.ti1 (by decide)
  revert second
  decide

end IntelWifi.Dvm.Thermal
