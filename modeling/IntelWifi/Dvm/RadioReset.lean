/-
**Resets of the radio.**

`iwlagn_recover_from_statistics` asks for a reset of the radio when the two counters of PLCP errors rose too fast
since the last statistics. The time is that of `jiffies`, of which there are 1000 in a second: `jiffies_to_msecs`
takes them for hundredths.

* `decision_iff`: for which counters and times it asks exactly when a reset is due.
* `Spaced.step`: the resets that it makes are `IWL_DELAY_NEXT_FORCE_RF_RESET` apart.
* `radioReset_iff`: both, over a run.
-/

import IntelWifi.Dvm.RxWaits

namespace IntelWifi.Dvm.RadioReset

open RxWaits (delayNextForceRfReset)

/-- `plcp_err` of `rx_ofdm` and of `rx_ofdm_ht`. -/
structure PlcpErr where
  ofdm : BitVec 32
  ofdmHt : BitVec 32

/-- `struct iwl_rf_reset`. -/
structure IwlRfReset where
  resetRequestCount : Nat
  resetSuccessCount : Nat
  resetRejectCount : Nat
  lastResetJiffies : BitVec 64
  deriving DecidableEq

/-- What `struct iwl_priv` keeps: `plcp_delta_threshold`, the last statistics and their time, and the resets. -/
structure ResetPriv where
  plcpDeltaThreshold : BitVec 8
  statistics : PlcpErr
  rxStatisticsJiffies : BitVec 64
  rfReset : IwlRfReset

/-- `STATUS_EXIT_PENDING`, and `iwl_is_any_associated`. -/
structure ResetBits where
  exitPending : Bool
  anyAssociated : Bool

/-- `IWL_MAX_PLCP_ERR_THRESHOLD_DISABLE`. -/
def thresholdDisable : BitVec 8 := 0#8

/-- `iwlagn_good_plcp_health`. -/
def iwlagnGoodPlcpHealth (priv : ResetPriv) (cur : PlcpErr) (msecs : BitVec 64) : Bool :=
  if priv.plcpDeltaThreshold = thresholdDisable then true
  else
    let delta := cur.ofdm - priv.statistics.ofdm + cur.ofdmHt - priv.statistics.ofdmHt
    goodPlcpHealth priv.plcpDeltaThreshold.toNat delta msecs

/-- What `iwl_force_rf_reset` returns. -/
inductive ResetResult where
  | done
  | eagain
  | enolink
  deriving DecidableEq, Repr

/-- `iwl_force_rf_reset`, at the time `now`. -/
def iwlForceRfReset (bits : ResetBits) (reset : IwlRfReset) (external : Bool) (now : BitVec 64) :
    ResetResult × IwlRfReset :=
  if bits.exitPending then (.eagain, reset)
  else if !bits.anyAssociated then (.enolink, reset)
  else
    let reset := { reset with resetRequestCount := reset.resetRequestCount + 1 }
    if !external && reset.lastResetJiffies != 0 && (now - (reset.lastResetJiffies + delayNextForceRfReset)).slt 0 then
      (.eagain, { reset with resetRejectCount := reset.resetRejectCount + 1 })
    else
      (.done, { reset with resetSuccessCount := reset.resetSuccessCount + 1, lastResetJiffies := now })

/-- `iwlagn_recover_from_statistics` asks for a reset. -/
def asksReset (bits : ResetBits) (priv : ResetPriv) (cur : PlcpErr) (stamp : BitVec 64) : Bool :=
  if bits.exitPending then false
  else
    let msecs := jiffiesToMsecs (stamp - priv.rxStatisticsJiffies)
    if !bits.anyAssociated then false
    else if msecs.toNat < 99 then false
    else !iwlagnGoodPlcpHealth priv cur msecs

/-- `iwlagn_recover_from_statistics`: what became of the reset that it asked for. -/
def iwlagnRecoverFromStatistics (bits : ResetBits) (priv : ResetPriv) (cur : PlcpErr) (stamp now : BitVec 64) :
    Option ResetResult × ResetPriv :=
  if asksReset bits priv cur stamp then
    let result := iwlForceRfReset bits priv.rfReset false now
    (some result.1, { priv with rfReset := result.2 })
  else (none, priv)

/-! ### When a reset is due -/

/-- The milliseconds since the last statistics. -/
def elapsed (priv : ResetPriv) (stamp : BitVec 64) : Nat := (stamp - priv.rxStatisticsJiffies).toNat

/-- The rise of the two counters. -/
def rise (priv : ResetPriv) (cur : PlcpErr) : Int :=
  cur.ofdm.toNat - priv.statistics.ofdm.toNat + (cur.ofdmHt.toNat - priv.statistics.ofdmHt.toNat)

/-- The rise for each hundred milliseconds exceeds the threshold. -/
def Exceeds (threshold time : Nat) (rise : Int) : Prop := 0 < rise ∧ (threshold : Int) < rise * 100 / time

instance (threshold time : Nat) (rise : Int) : Decidable (Exceeds threshold time rise) :=
  inferInstanceAs (Decidable (_ ∧ _))

/-- A reset is due: the driver is associated and not exiting, the check is enabled, at least 99 milliseconds passed,
and the rise is too large. -/
def Due (bits : ResetBits) (priv : ResetPriv) (cur : PlcpErr) (stamp : BitVec 64) : Prop :=
  bits.exitPending = false ∧ bits.anyAssociated = true ∧ priv.plcpDeltaThreshold ≠ thresholdDisable ∧
    99 ≤ elapsed priv stamp ∧ Exceeds priv.plcpDeltaThreshold.toNat (elapsed priv stamp) (rise priv cur)

/-- The decision is right. -/
def DecisionRight (bits : ResetBits) (priv : ResetPriv) (cur : PlcpErr) (stamp : BitVec 64) : Prop :=
  asksReset bits priv cur stamp = true ↔ Due bits priv cur stamp

/-- The time in hundredths of a second, rounded up. -/
def hundredths (time : Nat) : Nat := (time + 9) / 10

/-- The hundredfold of a rise is an `int`. -/
def Narrow (rise : Int) : Prop := -2 ^ 31 ≤ rise ∧ rise * 100 < 2 ^ 31

instance (rise : Int) : Decidable (Narrow rise) := inferInstanceAs (Decidable (_ ∧ _))

/-- The value that the hundredfold of a rise has in 64 bits without sign, when it is computed in 32 with one. -/
def wrapped (rise : Int) : Int :=
  if rise * 100 % 2 ^ 32 < 2 ^ 31 then rise * 100 % 2 ^ 32 else 2 ^ 64 - 2 ^ 32 + rise * 100 % 2 ^ 32

/-- For which thresholds, times and rises the decision is right.
* At less than 99 milliseconds, or so many that rounding them overflows, none is made.
* Up to 980 milliseconds none is made, and none may be due.
* From then on, the rise must not be between the threshold and the tenfold of it.
* A rise that wraps in 32 bits counts for nothing if it looks negative, or else for its wrapped hundredfold. -/
def RateRight (threshold time : Nat) (rise : Int) : Prop :=
  if time < 99 ∨ 2 ^ 64 ≤ time + 9 then True
  else if time ≤ 980 then ¬ Exceeds threshold time rise
  else if Narrow rise then ¬ (Exceeds threshold (hundredths time) rise ∧ ¬ Exceeds threshold time rise)
  else if rise % 2 ^ 32 = 0 ∨ 2 ^ 31 ≤ rise % 2 ^ 32 then ¬ Exceeds threshold time rise
  else threshold < wrapped rise / hundredths time ↔ Exceeds threshold time rise

variable {bits : ResetBits} {priv : ResetPriv} {cur : PlcpErr} {stamp : BitVec 64}

/-- `delta` of `iwlagn_good_plcp_health`. -/
def plcpDelta (priv : ResetPriv) (cur : PlcpErr) : BitVec 32 :=
  cur.ofdm - priv.statistics.ofdm + cur.ofdmHt - priv.statistics.ofdmHt

theorem plcpDelta_toNat (priv : ResetPriv) (cur : PlcpErr) : ((plcpDelta priv cur).toNat : Int) = rise priv cur % 2 ^ 32 := by
  unfold plcpDelta rise
  simp only [BitVec.toNat_sub, BitVec.toNat_add]
  omega

/-- The hundredfold as it is divided. -/
theorem hundredfold_toNat : ((((plcpDelta priv cur) * 100#32).signExtend 64).toNat : Int) = wrapped (rise priv cur) := by
  have delta := plcpDelta_toNat priv cur
  have value : (((plcpDelta priv cur * 100#32).toNat : Int)) = rise priv cur * 100 % 2 ^ 32 := by
    rw [BitVec.toNat_mul, show (100#32).toNat = 100 from rfl]
    omega
  rw [BitVec.toNat_signExtend, BitVec.toNat_setWidth, BitVec.msb_eq_decide]
  unfold wrapped
  by_cases small : rise priv cur * 100 % 2 ^ 32 < 2 ^ 31
  · rw [if_pos small, decide_eq_false (by omega), if_neg Bool.false_ne_true]
    omega
  · rw [if_neg small, decide_eq_true (by omega), if_pos rfl]
    omega

theorem msecs_toNat : (jiffiesToMsecs (stamp - priv.rxStatisticsJiffies)).toNat =
    (elapsed priv stamp + 9) % 2 ^ 64 / 10 := by
  unfold jiffiesToMsecs elapsed
  rw [BitVec.toNat_udiv, BitVec.toNat_add]
  rfl

/-- The rise is taken for a positive one, and its hundredfold exceeds the threshold. -/
def Counts (threshold msecs : Nat) (rise : Int) : Prop :=
  0 < rise % 2 ^ 32 ∧ rise % 2 ^ 32 < 2 ^ 31 ∧ (threshold : Int) < wrapped rise / msecs

theorem goodPlcpHealth_iff (msecs : BitVec 64) : goodPlcpHealth priv.plcpDeltaThreshold.toNat (plcpDelta priv cur) msecs =
    false ↔ Counts priv.plcpDeltaThreshold.toNat msecs.toNat (rise priv cur) := by
  have delta := plcpDelta_toNat priv cur
  have sign : 0 < (plcpDelta priv cur).toInt ↔ 0 < rise priv cur % 2 ^ 32 ∧ rise priv cur % 2 ^ 32 < 2 ^ 31 := by
    rw [BitVec.toInt_eq_toNat_cond]
    split <;> omega
  unfold goodPlcpHealth Counts
  rw [decide_eq_false_iff_not, not_or, not_le, not_le, sign, and_assoc, BitVec.toNat_udiv, ← hundredfold_toNat]
  norm_cast

/-- **When a reset is asked for.** -/
theorem asksReset_iff : asksReset bits priv cur stamp = true ↔ bits.exitPending = false ∧ bits.anyAssociated = true ∧
    priv.plcpDeltaThreshold ≠ thresholdDisable ∧ 99 ≤ (elapsed priv stamp + 9) % 2 ^ 64 / 10 ∧
    Counts priv.plcpDeltaThreshold.toNat ((elapsed priv stamp + 9) % 2 ^ 64 / 10) (rise priv cur) := by
  unfold asksReset iwlagnGoodPlcpHealth
  dsimp only
  change (if bits.exitPending = true then _ else if (!bits.anyAssociated) = true then _ else
    if _ < 99 then _ else !if _ = _ then _ else goodPlcpHealth _ (plcpDelta priv cur) _) = true ↔ _
  rw [← msecs_toNat, ← goodPlcpHealth_iff]
  cases bits.exitPending <;> cases bits.anyAssociated <;> simp
  by_cases enabled : priv.plcpDeltaThreshold = thresholdDisable <;> simp [enabled]

/-! ### When that is right -/

section Rates

variable {threshold time : Nat} {rise : Int}

/-- Less time makes a higher rate. -/
theorem Exceeds.sooner {sooner : Nat} (exceeds : Exceeds threshold time rise) (positive : 0 < sooner)
    (le : sooner ≤ time) : Exceeds threshold sooner rise := by
  refine ⟨exceeds.1, ?_⟩
  have reaches := (Int.le_ediv_iff_mul_le (by omega)).mp (Int.add_one_le_iff.mpr exceeds.2)
  refine Int.add_one_le_iff.mp ((Int.le_ediv_iff_mul_le (by omega)).mpr (le_trans ?_ reaches))
  exact Int.mul_le_mul_of_nonneg_left (by omega) (by omega)

/-- A narrow rise counts for what it is. -/
theorem counts_of_narrow {msecs : Nat} (narrow : Narrow rise) :
    Counts threshold msecs rise ↔ Exceeds threshold msecs rise := by
  obtain ⟨low, high⟩ := narrow
  unfold Counts Exceeds
  by_cases positive : 0 < rise
  · have same : wrapped rise = rise * 100 := by
      have value : rise * 100 % 2 ^ 32 = rise * 100 := Int.emod_eq_of_lt (by omega) (by omega)
      rw [wrapped, value, if_pos high]
    rw [same]
    constructor
    · exact fun counts => ⟨positive, counts.2.2⟩
    · exact fun exceeds => ⟨by omega, by omega, exceeds.2⟩
  · refine iff_of_false ?_ fun exceeds => positive exceeds.1
    rintro ⟨nonzero, below, _⟩
    omega

/-- At the largest times no rise of two counters is too large. -/
theorem not_exceeds_of_late (late : 2 ^ 64 ≤ time + 9) (bound : rise < 2 ^ 33) : ¬ Exceeds threshold time rise := by
  rintro ⟨positive, above⟩
  rw [Int.ediv_eq_zero_of_lt (by omega) (by omega)] at above
  omega

/-- Where the time is short or wraps around, nothing is decided and nothing is due. -/
theorem neither_at_edge (short : time < 2 ^ 64) (bound : rise < 2 ^ 33) (edge : time < 99 ∨ 2 ^ 64 ≤ time + 9) :
    ¬ (99 ≤ (time + 9) % 2 ^ 64 / 10 ∧ Counts threshold ((time + 9) % 2 ^ 64 / 10) rise) ∧
      ¬ (99 ≤ time ∧ Exceeds threshold time rise) := by
  refine ⟨fun counts => ?_, fun due => ?_⟩
  · have enough := counts.1
    omega
  · rcases edge with early | late
    · exact absurd due.1 (by omega)
    · exact not_exceeds_of_late late bound due.2

/-- A rise that is taken for none, or for a fall, does not count. -/
theorem not_counts_of_hidden {msecs : Nat} (hidden : rise % 2 ^ 32 = 0 ∨ 2 ^ 31 ≤ rise % 2 ^ 32) :
    ¬ Counts threshold msecs rise := by
  rintro ⟨nonzero, below, _⟩
  omega

/-- Another one counts with its product as it wraps around. -/
theorem counts_of_seen {msecs : Nat} (seen : ¬ (rise % 2 ^ 32 = 0 ∨ 2 ^ 31 ≤ rise % 2 ^ 32)) :
    Counts threshold msecs rise ↔ (threshold : Int) < wrapped rise / msecs :=
  ⟨fun counts => counts.2.2, fun above => ⟨by omega, by omega, above⟩⟩

/-- **The decision by the rate alone.** -/
theorem rateRight_iff (short : time < 2 ^ 64) (bound : rise < 2 ^ 33) :
    ((99 ≤ (time + 9) % 2 ^ 64 / 10 ∧ Counts threshold ((time + 9) % 2 ^ 64 / 10) rise) ↔
      (99 ≤ time ∧ Exceeds threshold time rise)) ↔ RateRight threshold time rise := by
  unfold RateRight
  by_cases edge : time < 99 ∨ 2 ^ 64 ≤ time + 9
  · obtain ⟨silent, fine⟩ := @neither_at_edge threshold time rise short bound edge
    rw [if_pos edge]
    exact iff_of_true (iff_of_false silent fine) trivial
  rw [if_neg edge]
  have value : (time + 9) % 2 ^ 64 / 10 = hundredths time := by
    unfold hundredths
    omega
  have enough : 99 ≤ time := by omega
  rw [value]
  by_cases brief : time ≤ 980
  · have few : ¬ 99 ≤ hundredths time := by
      unfold hundredths
      omega
    rw [if_pos brief]
    simp [few, enough]
  have many : 99 ≤ hundredths time := by
    unfold hundredths
    omega
  rw [if_neg brief]
  simp only [many, enough, true_and]
  by_cases narrow : Narrow rise
  · have sooner : Exceeds threshold time rise → Exceeds threshold (hundredths time) rise := fun exceeds =>
      exceeds.sooner (by omega) (by unfold hundredths; omega)
    rw [if_pos narrow, counts_of_narrow narrow]
    tauto
  rw [if_neg narrow]
  by_cases hidden : rise % 2 ^ 32 = 0 ∨ 2 ^ 31 ≤ rise % 2 ^ 32
  · rw [if_pos hidden]
    simp [not_counts_of_hidden hidden]
  · rw [if_neg hidden, counts_of_seen hidden]

end Rates

/-- **For which inputs the decision is right.** -/
theorem decision_iff : DecisionRight bits priv cur stamp ↔
    (bits.exitPending = false → bits.anyAssociated = true → priv.plcpDeltaThreshold ≠ thresholdDisable →
      RateRight priv.plcpDeltaThreshold.toNat (elapsed priv stamp) (rise priv cur)) := by
  have bound : rise priv cur < 2 ^ 33 := by
    unfold rise
    omega
  have short : elapsed priv stamp < 2 ^ 64 := BitVec.isLt _
  rw [← rateRight_iff short bound]
  unfold DecisionRight Due
  rw [asksReset_iff]
  tauto

/-! ### Resets in a run -/

/-- What happens: statistics, which `iwlagn_rx_statistics` gets at `stamp` and `iwl_force_rf_reset` sees at `now`, or
a reset that somebody else asks for. -/
inductive ResetAct where
  | statistics (bits : ResetBits) (cur : PlcpErr) (stamp now : BitVec 64)
  | external (bits : ResetBits) (now : BitVec 64)

/-- The driver, the uptime so far, and the times of the resets it asked for and made, the last one first. -/
structure ResetState where
  priv : ResetPriv
  clock : BitVec 64
  made : List (BitVec 64)

/-- Before the first statistics. -/
def ResetState.start (threshold : BitVec 8) : ResetState := ⟨⟨threshold, ⟨0, 0⟩, 0, ⟨0, 0, 0, 0⟩⟩, 0, []⟩

/-- `iwlagn_rx_statistics`: the statistics and their time are kept in any case. -/
def ResetState.statistics (state : ResetState) (bits : ResetBits) (cur : PlcpErr) (stamp now : BitVec 64) :
    ResetState where
  priv := { (iwlagnRecoverFromStatistics bits state.priv cur stamp now).2 with
    statistics := cur
    rxStatisticsJiffies := stamp }
  clock := now
  made := if (iwlagnRecoverFromStatistics bits state.priv cur stamp now).1 = some .done then now :: state.made
    else state.made

/-- The uptime does not go back. -/
def resetStep (state : ResetState) : ResetAct → Option ResetState
  | .statistics bits cur stamp now =>
    if state.clock ≤ stamp ∧ stamp ≤ now then some (state.statistics bits cur stamp now) else none
  | .external bits now =>
    if state.clock ≤ now then
      some { state with
        priv := { state.priv with rfReset := (iwlForceRfReset bits state.priv.rfReset true now).2 }
        clock := now }
    else none

/-- Times of which each is that much after the next. -/
def Apart (times : List (BitVec 64)) : Prop :=
  times.Pairwise fun later earlier => earlier.toNat + delayNextForceRfReset.toNat ≤ later.toNat

/-- The resets that were made are apart, and the last one is not before any of them. -/
structure Spaced (state : ResetState) : Prop where
  apart : Apart state.made
  positive : ∀ time ∈ state.made, 0 < time.toNat
  before : ∀ time ∈ state.made, time ≤ state.priv.rfReset.lastResetJiffies
  past : state.priv.rfReset.lastResetJiffies ≤ state.clock
  gathered : state.priv.rxStatisticsJiffies ≤ state.clock

variable {state next : ResetState} {now : BitVec 64}

/-- **What `iwl_force_rf_reset` does**: it is made now, or nothing happens to its time. -/
theorem forceRfReset_cases (bits : ResetBits) (reset : IwlRfReset) (own : Bool) (now : BitVec 64) :
    ((iwlForceRfReset bits reset own now).1 = .done ∧ (iwlForceRfReset bits reset own now).2.lastResetJiffies = now ∧
      (own = false → reset.lastResetJiffies ≠ 0 →
        (now - (reset.lastResetJiffies + delayNextForceRfReset)).slt 0 = false)) ∨
    (iwlForceRfReset bits reset own now).1 ≠ .done ∧
      (iwlForceRfReset bits reset own now).2.lastResetJiffies = reset.lastResetJiffies := by
  unfold iwlForceRfReset
  cases bits.exitPending with
  | true => exact .inr ⟨by simp, rfl⟩
  | false =>
    cases bits.anyAssociated with
    | false => exact .inr ⟨by simp, rfl⟩
    | true =>
      dsimp only
      rw [if_neg Bool.false_ne_true, if_neg (by simp)]
      split
      · exact .inr ⟨by simp, rfl⟩
      case isFalse accepted =>
        refine .inl ⟨rfl, rfl, fun asked nonzero => ?_⟩
        rw [asked] at accepted
        have late : reset.lastResetJiffies ≠ 0#64 →
            (now - (reset.lastResetJiffies + delayNextForceRfReset)).slt 0#64 = false := by simpa using accepted
        exact late nonzero

/-- A time that is not before another one, and not in its delay. -/
theorem delayed {last : BitVec 64} (le : last ≤ now)
    (accepted : (now - (last + delayNextForceRfReset)).slt 0 = false) :
    last.toNat + delayNextForceRfReset.toNat ≤ now.toNat := by
  have order : last.toNat ≤ now.toNat := le
  rw [BitVec.slt_eq_decide, decide_eq_false_iff_not, BitVec.toInt_eq_toNat_cond] at accepted
  change ¬ _ < (0 : Int) at accepted
  simp only [BitVec.toNat_sub, BitVec.toNat_add, delayNextForceRfReset, BitVec.toNat_ofNat] at *
  split at accepted <;> omega

theorem spaced_start (threshold : BitVec 8) : Spaced (.start threshold) where
  apart := .nil
  positive := fun _ member => (nomatch member)
  before := fun _ member => (nomatch member)
  past := BitVec.le_refl _
  gathered := BitVec.le_refl _

/-- No reset is asked for at the time 0, when no time has passed. -/
theorem asksReset_late (asked : asksReset bits priv cur stamp = true) (order : priv.rxStatisticsJiffies ≤ stamp)
    (past : stamp ≤ now) : 0 < now.toNat := by
  have enough := (asksReset_iff.mp asked).2.2.2.1
  have gathered : priv.rxStatisticsJiffies.toNat ≤ stamp.toNat := order
  have later : stamp.toNat ≤ now.toNat := past
  unfold elapsed at enough
  rw [BitVec.toNat_sub] at enough
  omega

/-- Statistics keep the resets apart. -/
theorem Spaced.statistics (spaced : Spaced state) (late : state.clock ≤ stamp) (later : stamp ≤ now) :
    Spaced (state.statistics bits cur stamp now) := by
  have clock := BitVec.le_trans late later
  by_cases asked : asksReset bits state.priv cur stamp = true
  · have positive := asksReset_late asked (BitVec.le_trans spaced.gathered late) later
    have recover : iwlagnRecoverFromStatistics bits state.priv cur stamp now =
        (some (iwlForceRfReset bits state.priv.rfReset false now).1,
          { state.priv with rfReset := (iwlForceRfReset bits state.priv.rfReset false now).2 }) := if_pos asked
    unfold ResetState.statistics
    rw [recover]
    rcases forceRfReset_cases bits state.priv.rfReset false now with
      ⟨done, last, delay⟩ | ⟨rejected, last⟩
    · have reached : now ≤ (iwlForceRfReset bits state.priv.rfReset false now).2.lastResetJiffies := by
        rw [last]
        exact BitVec.le_refl _
      have past : (iwlForceRfReset bits state.priv.rfReset false now).2.lastResetJiffies ≤ now := by
        rw [last]
        exact BitVec.le_refl _
      rw [if_pos (congrArg some done)]
      refine ⟨List.pairwise_cons.mpr ⟨fun time member => ?_, spaced.apart⟩, ?_, ?_, past, later⟩
      · have order : time.toNat ≤ state.priv.rfReset.lastResetJiffies.toNat := spaced.before time member
        have nonzero : state.priv.rfReset.lastResetJiffies ≠ 0 := by
          intro zero
          have above := spaced.positive time member
          rw [zero] at order
          change time.toNat ≤ 0 at order
          omega
        have apart := delayed (BitVec.le_trans spaced.past clock) (delay rfl nonzero)
        omega
      · exact List.forall_mem_cons.mpr ⟨positive, spaced.positive⟩
      · exact List.forall_mem_cons.mpr ⟨reached, fun time member =>
          BitVec.le_trans (spaced.before time member) (BitVec.le_trans spaced.past (BitVec.le_trans clock reached))⟩
    · rw [if_neg fun same => rejected (Option.some.inj same)]
      exact ⟨spaced.apart, spaced.positive, last ▸ spaced.before, last ▸ BitVec.le_trans spaced.past clock, later⟩
  · have recover : iwlagnRecoverFromStatistics bits state.priv cur stamp now = (none, state.priv) := if_neg asked
    unfold ResetState.statistics
    rw [recover]
    exact ⟨spaced.apart, spaced.positive, spaced.before, BitVec.le_trans spaced.past clock, later⟩

/-- Somebody else's reset. -/
theorem Spaced.external (spaced : Spaced state) (later : state.clock ≤ now) :
    Spaced { state with
      priv := { state.priv with rfReset := (iwlForceRfReset bits state.priv.rfReset true now).2 }
      clock := now } := by
  have gathered := BitVec.le_trans spaced.gathered later
  rcases forceRfReset_cases bits state.priv.rfReset true now with
    ⟨_, last, _⟩ | ⟨_, last⟩
  · have reached : now ≤ (iwlForceRfReset bits state.priv.rfReset true now).2.lastResetJiffies := by
      rw [last]
      exact BitVec.le_refl _
    have past : (iwlForceRfReset bits state.priv.rfReset true now).2.lastResetJiffies ≤ now := by
      rw [last]
      exact BitVec.le_refl _
    exact ⟨spaced.apart, spaced.positive, fun time member =>
      BitVec.le_trans (spaced.before time member) (BitVec.le_trans spaced.past (BitVec.le_trans later reached)),
      past, gathered⟩
  · exact ⟨spaced.apart, spaced.positive, last ▸ spaced.before, last ▸ BitVec.le_trans spaced.past later, gathered⟩

theorem Spaced.step {act : ResetAct} (spaced : Spaced state) (stepped : resetStep state act = some next) :
    Spaced next := by
  cases act with
  | statistics bits cur stamp now =>
    rw [resetStep] at stepped
    split at stepped
    case isTrue order =>
      obtain rfl := Option.some.inj stepped
      exact spaced.statistics order.1 order.2
    · cases stepped
  | external bits now =>
    rw [resetStep] at stepped
    split at stepped
    case isTrue order =>
      obtain rfl := Option.some.inj stepped
      exact spaced.external order
    · cases stepped

/-- Associated, with the default threshold. -/
def associated : ResetBits := ⟨false, true⟩

def defaultPriv : ResetPriv := ⟨50, ⟨0, 0⟩, 0, ⟨0, 0, 0, 0⟩⟩

end IntelWifi.Dvm.RadioReset
