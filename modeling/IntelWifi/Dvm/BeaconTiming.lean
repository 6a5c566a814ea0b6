/-
**Beacon timing.**

`iwl_send_rxon_timing` computes the beacon interval of a context from its interface's, or copies the interval of
the other context when that one is associated. What is copied was computed by an earlier call, or is still 0 from
the allocation: then the remainder macro divides by 0. What follows a division by 0 does not matter.

* `adjustBeaconInterval_bounds`: an interval that is computed.
* `timingRight_iff`: the runs in which every call does what it should are those in which what is copied was
  computed before.
-/

import IntelWifi.Dvm.Stations
import IntelWifi.Lib.Machine
import Mathlib.Algebra.Ring.Int.Defs
import Mathlib.Algebra.Ring.Nat

namespace IntelWifi.Dvm.Timing

/-! ### The call -/

/-- `enum nl80211_iftype`, as far as the timing and the PAN parameters depend on it. -/
inductive IfType where
  | station
  | ap
  | other
  deriving DecidableEq, Repr

/-- Of an interface: its type, and of its `bss_conf` the beacon interval and the DTIM period. -/
structure TimingVif where
  type : IfType
  beaconInt : UInt16
  dtimPeriod : UInt8

/-- `struct iwl_rxon_time_cmd`. -/
structure RxonTimeCmd where
  timestamp : UInt64
  /-- `__le16`. -/
  beaconInterval : Nat
  atimWindow : Nat
  /-- `__le32`. -/
  beaconInitVal : Nat
  listenInterval : UInt16
  dtimPeriod : UInt8
  deltaCpBssTbtts : UInt8

/-- After a `memset`. -/
def RxonTimeCmd.zero : RxonTimeCmd := ⟨0, 0, 0, 0, 0, 0, 0⟩

/-- Of both contexts: `timing` and `beacon_int`. -/
structure TimingState where
  timing : CtxId → RxonTimeCmd
  beaconInt : CtxId → Nat
  /-- The last call divided by 0. -/
  faulted : Bool

/-- After the allocation. -/
def TimingState.zero : TimingState := ⟨fun _ => .zero, fun _ => 0, false⟩

/-- A call of `iwl_send_rxon_timing`, and what it finds. -/
structure TimingCall where
  ctx : CtxId
  vif : CtxId → Option TimingVif
  /-- `iwl_is_associated`. -/
  associated : CtxId → Bool
  /-- `priv->timestamp`. -/
  timestamp : UInt64
  listenInterval : UInt16

/-- `TIME_UNIT`. -/
def timeUnit : Nat := 1024

/-- `IWL_MAX_UCODE_BEACON_INTERVAL`. -/
def iwlMaxUcodeBeaconInterval : Nat := 4

/-- `iwl_adjust_beacon_interval`, in `u16`. -/
def iwlAdjustBeaconInterval (beaconVal maxBeaconVal : Nat) : Nat :=
  -- `DEFAULT_BEACON_INTERVAL`
  if beaconVal = 0 then 200
  else
    let beaconFactor := (beaconVal + maxBeaconVal) / maxBeaconVal % 2 ^ 16
    let newVal := beaconVal / beaconFactor % 2 ^ 16
    if newVal = 0 then maxBeaconVal else newVal

/-- `do_div`: the remainder, by a `uint32_t`; `none` where the division faults. -/
def doDiv (n : UInt64) (base : Nat) : Option Nat :=
  if base % 2 ^ 32 = 0 then none else some (n.toNat % (base % 2 ^ 32))

/-- The interface has a beacon interval. -/
def hasBeaconInt (vif : Option TimingVif) : Bool := (vif.map fun vif => vif.beaconInt != 0).getD false

/-- The context whose interval is copied, if one is. -/
def TimingCall.source (call : TimingCall) : Option CtxId :=
  match call.ctx with
  | .pan =>
    if ((call.vif .pan).map TimingVif.type != some .station) && call.associated .bss && hasBeaconInt (call.vif .bss)
    then some .bss else none
  | .bss =>
    if call.associated .pan && hasBeaconInt (call.vif .pan) &&
      (!call.associated .bss || !hasBeaconInt (call.vif .bss))
    then some .pan else none

/-- The beacon interval that the call sets. -/
def TimingCall.interval (call : TimingCall) (st : TimingState) : Nat :=
  match call.source with
  | some other => (st.timing other).beaconInterval
  | none =>
    let beaconInt := ((call.vif call.ctx).map fun vif => vif.beaconInt.toNat).getD 0
    iwlAdjustBeaconInterval beaconInt (iwlMaxUcodeBeaconInterval * timeUnit)

/-- `bss_conf.dtim_period ?: 1`, or 1 without an interface. -/
def TimingCall.dtimPeriod (call : TimingCall) : UInt8 :=
  match call.vif call.ctx with
  | some vif => if vif.dtimPeriod = 0 then 1 else vif.dtimPeriod
  | none => 1

/-- `iwl_send_rxon_timing`. The command that is sent is the context's `timing`. -/
def iwlSendRxonTiming (st : TimingState) (call : TimingCall) : TimingState :=
  let timing := { RxonTimeCmd.zero with timestamp := call.timestamp, listenInterval := call.listenInterval }
  let beaconInt := call.interval st
  let timing := { timing with beaconInterval := beaconInt }
  let intervalTm := beaconInt * timeUnit
  match doDiv call.timestamp intervalTm with
  | none => ⟨Function.update st.timing call.ctx timing, Function.update st.beaconInt call.ctx beaconInt, true⟩
  | some rem =>
    let timing := { timing with beaconInitVal := intervalTm - rem, dtimPeriod := call.dtimPeriod }
    ⟨Function.update st.timing call.ctx timing, Function.update st.beaconInt call.ctx beaconInt, false⟩

/-- One call. -/
def timingStep (st : TimingState) (call : TimingCall) : Option TimingState := some (iwlSendRxonTiming st call)

/-! ### What a call should do -/

/-- **What a call should have done** to its context. -/
structure TimingRight (call : TimingCall) (after : TimingState) : Prop where
  divides : after.faulted = false
  nonzero : after.beaconInt call.ctx * timeUnit ≠ 0
  most : (after.timing call.ctx).beaconInterval ≤ iwlMaxUcodeBeaconInterval * timeUnit
  positive : 0 < (after.timing call.ctx).beaconInitVal
  within : (after.timing call.ctx).beaconInitVal ≤ after.beaconInt call.ctx * timeUnit
  aligned : (call.timestamp.toNat + (after.timing call.ctx).beaconInitVal) %
    (after.beaconInt call.ctx * timeUnit) = 0

/-- What is copied, if anything is, is not 0. -/
def sourceSet (st : TimingState) (call : TimingCall) : Bool :=
  match call.source with
  | some other => (st.timing other).beaconInterval != 0
  | none => true

variable {st : TimingState} {call : TimingCall}

/-! ### The interval -/

/-- **An interval that is computed** is no more than the largest one and never 0. -/
theorem adjustBeaconInterval_bounds {beaconVal : Nat} (u16 : beaconVal < 2 ^ 16) :
    0 < iwlAdjustBeaconInterval beaconVal 4096 ∧ iwlAdjustBeaconInterval beaconVal 4096 ≤ 4096 := by
  unfold iwlAdjustBeaconInterval
  by_cases unset : beaconVal = 0
  · rw [if_pos unset]
    exact ⟨by decide, by decide⟩
  · rw [if_neg unset]
    dsimp only
    -- the factor is one more than the number of whole intervals
    obtain ⟨whole, rest, below, rfl⟩ : ∃ whole rest, rest < 4096 ∧ beaconVal = 4096 * whole + rest :=
      ⟨beaconVal / 4096, beaconVal % 4096, Nat.mod_lt _ (by decide), (Nat.div_add_mod ..).symm⟩
    have factor : (4096 * whole + rest + 4096) / 4096 % 2 ^ 16 = whole + 1 := by omega
    rw [factor]
    have quotient : (4096 * whole + rest) / (whole + 1) ≤ 4096 := by
      refine Nat.div_le_of_le_mul ?_
      rw [Nat.add_mul]
      omega
    generalize (4096 * whole + rest) / (whole + 1) = newVal at quotient ⊢
    rw [Nat.mod_eq_of_lt (by omega)]
    split <;> omega

theorem interval_le (bounded : ∀ ctx, (st.timing ctx).beaconInterval ≤ 4096) : call.interval st ≤ 4096 := by
  unfold TimingCall.interval
  cases call.source with
  | some other => exact bounded other
  | none =>
    refine (adjustBeaconInterval_bounds ?_).2
    cases call.vif call.ctx with
    | none => decide
    | some vif => exact vif.beaconInt.toNat_lt

/-- An interval is 0 if what is copied is. -/
theorem interval_eq_zero_iff : call.interval st = 0 ↔ sourceSet st call = false := by
  unfold TimingCall.interval sourceSet
  cases call.source with
  | some other => exact bne_eq_false_iff_eq.symm
  | none =>
    refine iff_of_false (Nat.pos_iff_ne_zero.mp (adjustBeaconInterval_bounds ?_).1) (fun same => Bool.noConfusion same)
    cases call.vif call.ctx with
    | none => decide
    | some vif => exact vif.beaconInt.toNat_lt

/-! ### One call -/

theorem intervalTm_lt (most : call.interval st ≤ 4096) : call.interval st * timeUnit % 2 ^ 32 =
    call.interval st * timeUnit := by
  unfold timeUnit
  exact Nat.mod_eq_of_lt (by omega)

theorem sendRxonTiming_interval (st : TimingState) (call : TimingCall) :
    ((iwlSendRxonTiming st call).timing call.ctx).beaconInterval = call.interval st ∧
      (iwlSendRxonTiming st call).beaconInt call.ctx = call.interval st := by
  unfold iwlSendRxonTiming
  dsimp only
  split <;> simp

/-- The other context stays as it was. -/
theorem sendRxonTiming_frame {ctx : CtxId} (other : ctx ≠ call.ctx) :
    (iwlSendRxonTiming st call).timing ctx = st.timing ctx := by
  unfold iwlSendRxonTiming
  dsimp only
  split <;> exact Function.update_of_ne other _ _

theorem sendRxonTiming_bounded (bounded : ∀ ctx, (st.timing ctx).beaconInterval ≤ 4096) (ctx : CtxId) :
    ((iwlSendRxonTiming st call).timing ctx).beaconInterval ≤ 4096 := by
  by_cases own : ctx = call.ctx
  · rw [own, (sendRxonTiming_interval st call).1]
    exact interval_le bounded
  · rw [sendRxonTiming_frame own]
    exact bounded ctx

/-- **A call whose interval is set**: the rest of an interval, from the timestamp on. -/
theorem sendRxonTiming_right (bounded : ∀ ctx, (st.timing ctx).beaconInterval ≤ 4096)
    (set : sourceSet st call = true) : TimingRight call (iwlSendRxonTiming st call) := by
  obtain ⟨interval, own⟩ := sendRxonTiming_interval st call
  have nonzero : call.interval st ≠ 0 := by
    intro zero
    rw [interval_eq_zero_iff.mp zero] at set
    cases set
  have least : call.interval st ≤ 4096 := interval_le bounded
  have positive : 0 < call.interval st * timeUnit := Nat.mul_pos (Nat.pos_of_ne_zero nonzero) (by decide)
  have divides : doDiv call.timestamp (call.interval st * timeUnit) =
      some (call.timestamp.toNat % (call.interval st * timeUnit)) := by
    unfold doDiv
    rw [intervalTm_lt least, if_neg (Nat.pos_iff_ne_zero.mp positive)]
  have init : ((iwlSendRxonTiming st call).timing call.ctx).beaconInitVal =
        call.interval st * timeUnit - call.timestamp.toNat % (call.interval st * timeUnit) ∧
      (iwlSendRxonTiming st call).faulted = false := by
    unfold iwlSendRxonTiming
    dsimp only
    rw [divides]
    simp
  have below := Nat.mod_lt call.timestamp.toNat positive
  refine ⟨init.2, ?_, ?_, ?_, ?_, ?_⟩
  · rw [own]
    exact Nat.pos_iff_ne_zero.mp positive
  · rw [interval]
    exact least
  · rw [init.1]
    exact Nat.sub_pos_of_lt below
  · rw [init.1, own]
    exact Nat.sub_le _ _
  · have whole := Nat.div_add_mod call.timestamp.toNat (call.interval st * timeUnit)
    rw [init.1, own, ← Nat.add_sub_assoc (Nat.le_of_lt below), Nat.add_comm, Nat.add_sub_assoc (Nat.mod_le _ _),
      show call.timestamp.toNat - call.timestamp.toNat % (call.interval st * timeUnit) =
        call.interval st * timeUnit * (call.timestamp.toNat / (call.interval st * timeUnit)) from
          Nat.sub_eq_of_eq_add whole.symm,
      Nat.add_mul_mod_self_left, Nat.mod_self]

/-- A call whose interval is not set divides by 0. -/
theorem sendRxonTiming_faults (unset : sourceSet st call = false) : ¬ TimingRight call (iwlSendRxonTiming st call) := by
  intro right
  refine right.nonzero ?_
  rw [(sendRxonTiming_interval st call).2, interval_eq_zero_iff.mpr unset, Nat.zero_mul]

/-! ### Runs -/

/-- **The runs in which every call does what it should**: whenever a context copies the interval of the other, a
call has set that one before. -/
theorem timingRight_iff (calls : List TimingCall) :
    Machine.Throughout timingStep (fun _ call after => TimingRight call after) .zero calls ↔
      Machine.allowed timingStep sourceSet .zero calls = true := by
  refine Machine.throughout_iff_allowed (fun st => ∀ ctx, (st.timing ctx).beaconInterval ≤ 4096) ?_ ?_
    (fun _ _ => ⟨_, rfl⟩) fun ctx => Nat.zero_le _
  · intro st call next bounded set stepped
    rw [← Option.some.inj stepped]
    exact ⟨sendRxonTiming_bounded bounded, sendRxonTiming_right bounded set⟩
  · intro st call next _ unset stepped
    rw [← Option.some.inj stepped]
    exact sendRxonTiming_faults unset

/-- A first call, for an access point on PAN, while BSS is associated. -/
def firstOnPan : TimingCall where
  ctx := .pan
  vif := fun
    | .bss => some ⟨.station, 100, 1⟩
    | .pan => some ⟨.ap, 100, 1⟩
  associated := fun
    | .bss => true
    | .pan => false
  timestamp := 12345
  listenInterval := 10

/-- **A division by 0.** -/
theorem firstOnPan_faults : (firstOnPan.interval .zero, (iwlSendRxonTiming .zero firstOnPan).faulted) = (0, true) ∧
    ¬ Machine.Throughout timingStep (fun _ call after => TimingRight call after) .zero [firstOnPan] := by
  refine ⟨by decide, fun all => ?_⟩
  have right := (all _ rfl).1
  exact absurd right.divides (by decide)

end IntelWifi.Dvm.Timing
