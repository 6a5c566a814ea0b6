/-
**Extended beacon times.**

The upper 10 bits of an extended beacon time count beacon intervals, and the lower 22 bits count down the
microseconds of the current one. `iwl_usecs_to_beacons` splits a duration into intervals and the rest, and
`iwl_add_beacon_time` adds the two fields apart, with a carry when the countdown passes the beacon.

* `usecsToBeacons_split`, `addBeaconTime_fields`: the two functions on numbers.
* `beaconTime_iff`: the sum is the instant of the base plus the duration, except where the duration ends with the
  beacon: there the countdown is 0 where it ought to be a whole interval.
-/

import Mathlib.Data.Int.ModEq
import Mathlib.Data.Nat.Bitwise
import Mathlib.Tactic.Ring
import Mathlib.Tactic.Linarith

namespace IntelWifi.Dvm.BeaconTime

/-- `IWLAGN_EXT_BEACON_TIME_POS`. -/
def extBeaconTimePos : Nat := 22

/-- `TIME_UNIT`. -/
def timeUnit : BitVec 32 := 1024#32

/-- `iwl_beacon_time_mask_low`. -/
def iwlBeaconTimeMaskLow (tsfBits : Nat) : BitVec 32 := (1#32 <<< tsfBits) - 1#32

/-- `iwl_beacon_time_mask_high`. -/
def iwlBeaconTimeMaskHigh (tsfBits : Nat) : BitVec 32 := ((1#32 <<< (32 - tsfBits)) - 1#32) <<< tsfBits

/-- `iwl_usecs_to_beacons`. -/
def iwlUsecsToBeacons (usec beaconInterval : BitVec 32) : BitVec 32 :=
  let interval := beaconInterval * timeUnit
  if interval = 0 ∨ usec = 0 then 0
  else
    let quot := (usec / interval) &&& (iwlBeaconTimeMaskHigh extBeaconTimePos >>> extBeaconTimePos)
    let rem := (usec % interval) &&& iwlBeaconTimeMaskLow extBeaconTimePos
    (quot <<< extBeaconTimePos) + rem

/-- `iwl_add_beacon_time`. -/
def iwlAddBeaconTime (base addon beaconInterval : BitVec 32) : BitVec 32 :=
  let baseLow := base &&& iwlBeaconTimeMaskLow extBeaconTimePos
  let addonLow := addon &&& iwlBeaconTimeMaskLow extBeaconTimePos
  let interval := beaconInterval * timeUnit
  let res := (base &&& iwlBeaconTimeMaskHigh extBeaconTimePos) + (addon &&& iwlBeaconTimeMaskHigh extBeaconTimePos)
  if baseLow > addonLow then res + (baseLow - addonLow)
  else if baseLow < addonLow then
    let res := res + (interval + baseLow - addonLow)
    res + (1#32 <<< extBeaconTimePos)
  else res + (1#32 <<< extBeaconTimePos)

/-! ### The fields -/

/-- The number of beacon intervals. -/
def count (time : BitVec 32) : Nat := time.toNat / 2 ^ 22

/-- What is left of the current one. -/
def countdown (time : BitVec 32) : Nat := time.toNat % 2 ^ 22

/-- The microseconds of an interval. -/
def intervalOf (beaconInterval : BitVec 32) : Nat := beaconInterval.toNat * 1024

/-- The instant that an extended beacon time denotes. -/
def instant (interval : Nat) (time : BitVec 32) : Int := count time * interval + (interval - countdown time)

variable {time beaconInterval : BitVec 32}

theorem maskLow_toNat (time : BitVec 32) :
    (time &&& iwlBeaconTimeMaskLow extBeaconTimePos).toNat = countdown time := by
  rw [BitVec.toNat_and, show (iwlBeaconTimeMaskLow extBeaconTimePos).toNat = 2 ^ 22 - 1 from rfl,
    Nat.and_two_pow_sub_one_eq_mod]
  rfl

theorem maskCount_toNat (time : BitVec 32) :
    (time &&& (iwlBeaconTimeMaskHigh extBeaconTimePos >>> extBeaconTimePos)).toNat = time.toNat % 2 ^ 10 := by
  rw [BitVec.toNat_and, show (iwlBeaconTimeMaskHigh extBeaconTimePos >>> extBeaconTimePos).toNat = 2 ^ 10 - 1 from rfl,
    Nat.and_two_pow_sub_one_eq_mod]

/-- The upper mask keeps what is left when the lower field is shifted out. -/
theorem maskHigh_eq (time : BitVec 32) : time &&& iwlBeaconTimeMaskHigh extBeaconTimePos = (time >>> 22) <<< 22 := by
  have bits : ∀ i : Fin 32, (iwlBeaconTimeMaskHigh extBeaconTimePos).getLsbD i = decide (22 ≤ i.val) := by decide
  ext i small
  have bit := bits ⟨i, small⟩
  by_cases upper : 22 ≤ i
  · simp_all [BitVec.getLsbD_eq_getElem]
  · simp_all [BitVec.getLsbD_eq_getElem]

theorem maskHigh_toNat (time : BitVec 32) :
    (time &&& iwlBeaconTimeMaskHigh extBeaconTimePos).toNat = count time * 2 ^ 22 := by
  have bound := time.isLt
  rw [maskHigh_eq, BitVec.toNat_shiftLeft, BitVec.toNat_ushiftRight, Nat.shiftLeft_eq, Nat.shiftRight_eq_div_pow, count]
  omega

/-- A time is its two fields. -/
theorem fields (time : BitVec 32) : time.toNat = count time * 2 ^ 22 + countdown time := by
  unfold count countdown
  omega

theorem fields_of {n : Nat} (low : Nat) (same : time.toNat = (n * 2 ^ 22 + low) % 2 ^ 32) (small : low < 2 ^ 22) :
    count time = n % 1024 ∧ countdown time = low := by
  unfold count countdown
  omega

/-- An interval of at most 4095 time units fits into the countdown. -/
theorem interval_toNat (few : beaconInterval.toNat ≤ 4095) :
    (beaconInterval * timeUnit).toNat = intervalOf beaconInterval := by
  rw [BitVec.toNat_mul, show timeUnit.toNat = 1024 from rfl, intervalOf]
  omega

/-- **A duration is split** into whole intervals and the rest. -/
theorem usecsToBeacons_split (usec : BitVec 32) (least : 1 ≤ beaconInterval.toNat) (few : beaconInterval.toNat ≤ 4095) :
    count (iwlUsecsToBeacons usec beaconInterval) = usec.toNat / intervalOf beaconInterval % 1024 ∧
      countdown (iwlUsecsToBeacons usec beaconInterval) = usec.toNat % intervalOf beaconInterval := by
  have interval := interval_toNat few
  have positive : 0 < intervalOf beaconInterval := by
    unfold intervalOf
    omega
  have fits : intervalOf beaconInterval < 2 ^ 22 := by
    unfold intervalOf
    omega
  have rest : usec.toNat % intervalOf beaconInterval < 2 ^ 22 := Nat.lt_trans (Nat.mod_lt _ positive) fits
  have nonzero : beaconInterval * timeUnit ≠ 0 := by
    intro zero
    rw [zero] at interval
    exact Nat.ne_of_lt positive interval
  unfold iwlUsecsToBeacons
  dsimp only
  by_cases nothing : usec = 0
  · subst nothing
    rw [if_pos (.inr rfl)]
    simp [count, countdown]
  · rw [if_neg (not_or.mpr ⟨nonzero, nothing⟩)]
    refine (fields_of (n := usec.toNat / intervalOf beaconInterval) _ ?_ rest).imp_left id
    rw [BitVec.toNat_add, BitVec.toNat_shiftLeft, maskCount_toNat, maskLow_toNat, countdown, BitVec.toNat_udiv,
      BitVec.toNat_umod, interval, Nat.mod_eq_of_lt rest, Nat.shiftLeft_eq, extBeaconTimePos]
    omega

/-- **A duration is added** to the two fields, with a carry unless the countdown is longer. -/
theorem addBeaconTime_fields (base addon : BitVec 32) (few : beaconInterval.toNat ≤ 4095)
    (low : countdown base ≤ intervalOf beaconInterval) (rest : countdown addon < intervalOf beaconInterval) :
    (countdown addon < countdown base →
      count (iwlAddBeaconTime base addon beaconInterval) = (count base + count addon) % 1024 ∧
        countdown (iwlAddBeaconTime base addon beaconInterval) = countdown base - countdown addon) ∧
    (countdown base < countdown addon →
      count (iwlAddBeaconTime base addon beaconInterval) = (count base + count addon + 1) % 1024 ∧
        countdown (iwlAddBeaconTime base addon beaconInterval) =
          intervalOf beaconInterval + countdown base - countdown addon) ∧
    (countdown base = countdown addon →
      count (iwlAddBeaconTime base addon beaconInterval) = (count base + count addon + 1) % 1024 ∧
        countdown (iwlAddBeaconTime base addon beaconInterval) = 0) := by
  have fits : intervalOf beaconInterval < 2 ^ 22 := by
    unfold intervalOf
    omega
  have above : (base &&& iwlBeaconTimeMaskLow extBeaconTimePos) > (addon &&& iwlBeaconTimeMaskLow extBeaconTimePos) ↔
      countdown addon < countdown base := by
    rw [gt_iff_lt, BitVec.lt_def, maskLow_toNat, maskLow_toNat]
  have below : (base &&& iwlBeaconTimeMaskLow extBeaconTimePos) < (addon &&& iwlBeaconTimeMaskLow extBeaconTimePos) ↔
      countdown base < countdown addon := by
    rw [BitVec.lt_def, maskLow_toNat, maskLow_toNat]
  have one : (1#32 <<< extBeaconTimePos).toNat = 2 ^ 22 := rfl
  unfold iwlAddBeaconTime
  dsimp only
  refine ⟨fun longer => ?_, fun shorter => ?_, fun same => ?_⟩
  · rw [if_pos (above.mpr longer)]
    refine fields_of _ ?_ (by omega)
    rw [BitVec.toNat_add, BitVec.toNat_add, BitVec.toNat_sub, maskHigh_toNat, maskHigh_toNat, maskLow_toNat,
      maskLow_toNat]
    omega
  · rw [if_neg (mt above.mp (by omega)), if_pos (below.mpr shorter)]
    refine fields_of _ ?_ (by omega)
    rw [BitVec.toNat_add, BitVec.toNat_add, BitVec.toNat_add, BitVec.toNat_sub, BitVec.toNat_add, maskHigh_toNat,
      maskHigh_toNat, maskLow_toNat, maskLow_toNat, interval_toNat few, one]
    omega
  · rw [if_neg (mt above.mp (by omega)), if_neg (mt below.mp (by omega))]
    refine fields_of 0 ?_ (by decide)
    rw [BitVec.toNat_add, BitVec.toNat_add, maskHigh_toNat, maskHigh_toNat, one]
    omega

/-! ### The instant of the sum -/

/-- The sum denotes the instant of the base and the duration, modulo 1024 intervals, and its countdown is at most
an interval. -/
def SumRight (base usec beaconInterval : BitVec 32) : Prop :=
  let sum := iwlAddBeaconTime base (iwlUsecsToBeacons usec beaconInterval) beaconInterval
  let interval := intervalOf beaconInterval
  Int.ModEq (1024 * interval) (instant interval sum) (instant interval base + usec.toNat) ∧ countdown sum ≤ interval

/-- A count wraps after 1024 intervals. -/
theorem count_modEq (n interval : Nat) : Int.ModEq (1024 * interval) ((n % 1024 : Nat) * interval) (n * interval) := by
  have split : (n : Int) * interval = (n % 1024 : Nat) * interval + 1024 * interval * (n / 1024 : Nat) := by
    have parts : (n : Int) = (n % 1024 : Nat) + 1024 * (n / 1024 : Nat) := by omega
    calc (n : Int) * interval = ((n % 1024 : Nat) + 1024 * (n / 1024 : Nat) : Int) * interval := by rw [← parts]
      _ = (n % 1024 : Nat) * interval + 1024 * interval * (n / 1024 : Nat) := by ring
  rw [split]
  exact (Int.modEq_add_fac_self).symm

/-- What the sum should be. -/
theorem instant_target (base usec : BitVec 32) (interval : Nat) : instant interval base + usec.toNat =
    (count base + usec.toNat / interval : Nat) * interval + (interval - countdown base + (usec.toNat % interval : Nat)) := by
  have parts : (usec.toNat : Int) = (usec.toNat / interval : Nat) * interval + (usec.toNat % interval : Nat) := by
    have whole := Nat.div_add_mod' usec.toNat interval
    exact_mod_cast whole.symm
  unfold instant
  push_cast at parts ⊢
  linarith

/-- The instant of a time whose count is known modulo 1024. -/
theorem instant_modEq {n : Nat} (interval : Nat) (same : count time = n % 1024) :
    Int.ModEq (1024 * interval) (instant interval time) (n * interval + (interval - countdown time)) := by
  rw [instant, same]
  exact (count_modEq n interval).add_right _

/-- An interval more is not the same instant. -/
theorem not_interval_later {interval : Nat} (positive : 0 < interval) (time : Int) :
    ¬ Int.ModEq (1024 * interval) (time + interval) time := by
  intro same
  have divides := Int.modEq_iff_dvd.mp same.symm
  rw [add_sub_cancel_left] at divides
  have le := Int.le_of_dvd (by omega) divides
  omega

/-- **The sum is right** just when the duration does not end with a beacon of the base. -/
theorem beaconTime_iff (base usec beaconInterval : BitVec 32) (least : 1 ≤ beaconInterval.toNat)
    (few : beaconInterval.toNat ≤ 4095) (positive : 1 ≤ countdown base)
    (low : countdown base ≤ intervalOf beaconInterval) :
    SumRight base usec beaconInterval ↔ countdown base ≠ usec.toNat % intervalOf beaconInterval := by
  obtain ⟨whole, rest⟩ := usecsToBeacons_split usec least few
  have short : usec.toNat % intervalOf beaconInterval < intervalOf beaconInterval :=
    Nat.mod_lt _ (Nat.lt_of_lt_of_le positive low)
  obtain ⟨longer, shorter, same⟩ := addBeaconTime_fields base (iwlUsecsToBeacons usec beaconInterval) few low
    (rest ▸ short)
  rw [whole, rest] at longer shorter same
  have wraps : ∀ n, (count base + usec.toNat / intervalOf beaconInterval % 1024 + n) % 1024 =
      (count base + usec.toNat / intervalOf beaconInterval + n) % 1024 := fun n => by omega
  have target := instant_target base usec (intervalOf beaconInterval)
  unfold SumRight
  dsimp only
  rw [target]
  rcases Nat.lt_trichotomy (usec.toNat % intervalOf beaconInterval) (countdown base) with less | equal | more
  · obtain ⟨counts, down⟩ := longer less
    refine iff_of_true ⟨?_, by omega⟩ (Nat.ne_of_gt less)
    have later := instant_modEq (intervalOf beaconInterval) (counts.trans (wraps 0))
    rw [down] at later
    refine later.trans (congrArg (· % _) ?_)
    push_cast [Nat.le_of_lt less]
    ring
  · obtain ⟨counts, down⟩ := same equal.symm
    refine iff_of_false (fun right => ?_) (not_not.mpr equal.symm)
    have later := instant_modEq (intervalOf beaconInterval) (counts.trans (wraps 1))
    rw [down] at later
    refine not_interval_later (Nat.lt_of_lt_of_le positive low) _ (Int.ModEq.trans (congrArg (· % _) ?_)
      (later.symm.trans right.1))
    rw [equal]
    push_cast
    ring
  · obtain ⟨counts, down⟩ := shorter more
    refine iff_of_true ⟨?_, by omega⟩ (Nat.ne_of_lt more)
    have later := instant_modEq (intervalOf beaconInterval) (counts.trans (wraps 1))
    rw [down] at later
    refine later.trans (congrArg (· % _) ?_)
    push_cast [show usec.toNat % intervalOf beaconInterval ≤ intervalOf beaconInterval + countdown base by omega]
    ring

/-- An interval of 100 time units, of which 1000 microseconds are left, and a duration of 1000 microseconds: the sum
is two beacons later than the base, and not one. -/
theorem beaconTime_late : ¬ SumRight 1000 1000 100 ∧
    instant 102400 (iwlAddBeaconTime 1000 (iwlUsecsToBeacons 1000 100) 100) = 2 * 102400 ∧
    instant 102400 1000 + 1000 = 102400 := by
  have sum : iwlAddBeaconTime 1000 (iwlUsecsToBeacons 1000 100) 100 = 0x400000#32 := by decide
  refine ⟨fun right => ?_, by rw [sum]; decide, by decide⟩
  have instants := right.1
  rw [sum] at instants
  exact absurd instants (by decide)

/-- The same base with 100 intervals and 2000 microseconds, which end in the next interval. -/
theorem beaconTime_iff_carry : SumRight 1000 10242000 100 ↔
    countdown 1000 ≠ (10242000#32).toNat % intervalOf 100 :=
  beaconTime_iff 1000 10242000 100 (by decide) (by decide) (by decide) (by decide)

end IntelWifi.Dvm.BeaconTime
