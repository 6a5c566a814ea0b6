/-
**The temperature of the 5150.**

The radio reports a voltage, from which the temperature in Kelvin is the calibrated offset plus the voltage divided
by `IWL_5150_VOLTAGE_TO_TEMPERATURE_COEFF`, which is -5. The offset and the threshold of the firmware are computed
with sign; the division of a reading is not, and divides by 2³² - 5.

* `offset_toInt`: the offset is that of the integers.
* `stored_toInt`: the temperature that is stored, which hardly depends on the reading.
* `temperature_iff`: for which calibrations and readings it is right.
-/

import Mathlib.Algebra.Ring.Int.Defs
import Mathlib.Algebra.Ring.Nat
import Mathlib.Tactic.Common

namespace IntelWifi.Dvm.Temperature

/-- `kelvin_temperature` and `kelvin_voltage` of `struct iwl_nvm_data`. -/
structure NvmData where
  kelvinTemperature : BitVec 16
  kelvinVoltage : BitVec 16

/-- `IWL_5150_VOLTAGE_TO_TEMPERATURE_COEFF`. -/
def voltageToTemperatureCoeff : BitVec 32 := -5#32

/-- `CELSIUS_TO_KELVIN`. -/
def celsiusToKelvin (x : BitVec 32) : BitVec 32 := x + 273#32

/-- `KELVIN_TO_CELSIUS`. -/
def kelvinToCelsius (x : BitVec 32) : BitVec 32 := x - 273#32

/-- `CT_KILL_THRESHOLD_LEGACY`. -/
def ctKillThresholdLegacy : BitVec 32 := 110#32

/-- `iwl_temp_calib_to_offset`: the words are promoted to `int`. -/
def iwlTempCalibToOffset (nvm : NvmData) : BitVec 32 :=
  nvm.kelvinTemperature.setWidth 32 - (nvm.kelvinVoltage.setWidth 32).sdiv voltageToTemperatureCoeff

/-- `iwl5150_set_ct_threshold`: what becomes `hw_params.ct_kill_threshold`. -/
def iwl5150SetCtThreshold (nvm : NvmData) : BitVec 32 :=
  let threshold := celsiusToKelvin ctKillThresholdLegacy - iwlTempCalibToOffset nvm
  threshold * voltageToTemperatureCoeff

/-- `iwl5150_temperature`: what becomes `priv->temperature`. The reading is a `u32`, and so is the quotient. -/
def iwl5150Temperature (nvm : NvmData) (reading : BitVec 32) : BitVec 32 :=
  let vt := reading / voltageToTemperatureCoeff + iwlTempCalibToOffset nvm
  kelvinToCelsius vt

/-! ### Over the integers -/

/-- The offset. -/
def offset (nvm : NvmData) : Int := nvm.kelvinTemperature.toNat - (nvm.kelvinVoltage.toNat : Int).tdiv (-5)

/-- The temperature of a reading in degrees Celsius. -/
def celsius (nvm : NvmData) (reading : BitVec 32) : Int := offset nvm + (reading.toNat : Int).tdiv (-5) - 273

/-- A reading is stored as its temperature, a higher reading is not stored as a higher one, and the threshold of the
firmware, unless it is negative, is stored as that of the driver. -/
structure TemperatureRight (nvm : NvmData) (reading higher : BitVec 32) : Prop where
  stored : (iwl5150Temperature nvm reading).toInt = celsius nvm reading
  falls : reading ≤ higher → (iwl5150Temperature nvm higher).toInt ≤ (iwl5150Temperature nvm reading).toInt
  threshold : 0 ≤ (iwl5150SetCtThreshold nvm).toInt →
    (iwl5150Temperature nvm (iwl5150SetCtThreshold nvm)).toInt = ctKillThresholdLegacy.toInt

variable {nvm : NvmData} {reading higher : BitVec 32}

theorem tdiv_coeff (n : Nat) : (n : Int).tdiv (-5) = -((n / 5 : Nat) : Int) := by
  rw [Int.tdiv_neg, Int.tdiv_eq_ediv_of_nonneg (Int.natCast_nonneg n)]
  rfl

theorem offset_eq (nvm : NvmData) : offset nvm = nvm.kelvinTemperature.toNat + (nvm.kelvinVoltage.toNat / 5 : Nat) := by
  rw [offset, tdiv_coeff, Int.sub_neg]

theorem offset_bounds (nvm : NvmData) : 0 ≤ offset nvm ∧ offset nvm < 2 ^ 17 := by
  have temperature := nvm.kelvinTemperature.isLt
  have voltage := nvm.kelvinVoltage.isLt
  rw [offset_eq]
  omega

/-- A number of 32 bits is its own remainder. -/
theorem bmod_self {n : Int} (low : -2 ^ 31 ≤ n) (high : n < 2 ^ 31) : n.bmod (2 ^ 32) = n :=
  Int.bmod_eq_of_le (by omega) (by omega)

theorem word_toInt (word : BitVec 16) : (word.setWidth 32).toInt = word.toNat := by
  have bound := word.isLt
  rw [BitVec.toInt_setWidth, bmod_self (by omega) (by omega)]

/-- **The offset is that of the integers.** -/
theorem offset_toInt (nvm : NvmData) : (iwlTempCalibToOffset nvm).toInt = offset nvm := by
  have bounds := offset_bounds nvm
  have voltage := nvm.kelvinVoltage.isLt
  have quotient : ((nvm.kelvinVoltage.setWidth 32).sdiv voltageToTemperatureCoeff).toInt =
      (nvm.kelvinVoltage.toNat : Int).tdiv (-5) := by
    rw [BitVec.toInt_sdiv, word_toInt, show voltageToTemperatureCoeff.toInt = -5 from rfl, tdiv_coeff,
      bmod_self (by omega) (by omega)]
  rw [iwlTempCalibToOffset, BitVec.toInt_sub, word_toInt, quotient]
  exact bmod_self (by unfold offset at bounds; omega) (by unfold offset at bounds; omega)

/-- The quotient of a reading without sign. -/
def quotient (reading : BitVec 32) : Int := if reading.toNat < 2 ^ 32 - 5 then 0 else 1

/-- **What is stored** is the offset, or one degree more. -/
theorem stored_toInt : (iwl5150Temperature nvm reading).toInt = offset nvm + quotient reading - 273 := by
  have bounds := offset_bounds nvm
  have divided : (reading / voltageToTemperatureCoeff).toInt = quotient reading := by
    have bound := reading.isLt
    have value : (reading / voltageToTemperatureCoeff).toNat = reading.toNat / (2 ^ 32 - 5) := BitVec.toNat_udiv
    rw [BitVec.toInt_eq_toNat_cond, value, quotient]
    split <;> split <;> omega
  have kelvin : (reading / voltageToTemperatureCoeff + iwlTempCalibToOffset nvm).toInt =
      offset nvm + quotient reading := by
    rw [BitVec.toInt_add, divided, offset_toInt, Int.add_comm]
    unfold quotient
    split <;> exact bmod_self (by omega) (by omega)
  rw [iwl5150Temperature, kelvinToCelsius, BitVec.toInt_sub, kelvin, show (273#32).toInt = 273 from rfl]
  unfold quotient
  split <;> exact bmod_self (by omega) (by omega)

/-- The threshold of the firmware is five times what the offset exceeds that of the driver by. -/
theorem threshold_toInt (nvm : NvmData) : (iwl5150SetCtThreshold nvm).toInt = (offset nvm - 383) * 5 := by
  have bounds := offset_bounds nvm
  have kelvin : (celsiusToKelvin ctKillThresholdLegacy - iwlTempCalibToOffset nvm).toInt = 383 - offset nvm := by
    rw [BitVec.toInt_sub, offset_toInt]
    exact bmod_self (by show _ ≤ (383 : Int) - _; omega) (by show (383 : Int) - _ < _; omega)
  rw [iwl5150SetCtThreshold, BitVec.toInt_mul, kelvin, show voltageToTemperatureCoeff.toInt = -5 from rfl,
    bmod_self (by omega) (by omega)]
  omega

/-- **A reading is stored as its temperature** just when it is less than five. -/
theorem stored_iff : (iwl5150Temperature nvm reading).toInt = celsius nvm reading ↔ reading.toNat < 5 := by
  have bound := reading.isLt
  rw [stored_toInt, celsius, tdiv_coeff, quotient]
  split <;> omega

/-- **A higher reading is stored as a higher temperature** just when it is one of the last five and the other is not. -/
theorem falls_iff : (iwl5150Temperature nvm higher).toInt ≤ (iwl5150Temperature nvm reading).toInt ↔
    ¬ (reading.toNat < 2 ^ 32 - 5 ∧ 2 ^ 32 - 5 ≤ higher.toNat) := by
  rw [stored_toInt, stored_toInt, quotient, quotient]
  split <;> split <;> omega

/-- **The thresholds agree** just when that of the firmware is negative or zero. -/
theorem threshold_iff : (0 ≤ (iwl5150SetCtThreshold nvm).toInt →
    (iwl5150Temperature nvm (iwl5150SetCtThreshold nvm)).toInt = ctKillThresholdLegacy.toInt) ↔ offset nvm ≤ 383 := by
  have bounds := offset_bounds nvm
  have value := threshold_toInt nvm
  rw [stored_toInt, quotient, show ctKillThresholdLegacy.toInt = 110 from rfl]
  rw [BitVec.toInt_eq_toNat_cond] at value ⊢
  split at value <;> split <;> omega

/-- **The temperature is right** for just these calibrations and readings. -/
theorem temperature_iff (nvm : NvmData) (reading higher : BitVec 32) :
    TemperatureRight nvm reading higher ↔
      reading.toNat < 5 ∧ higher.toNat < 2 ^ 32 - 5 ∧ offset nvm ≤ 383 := by
  constructor
  · intro right
    have small := stored_iff.mp right.stored
    refine ⟨small, ?_, threshold_iff.mp right.threshold⟩
    by_contra last
    have le : reading ≤ higher := by
      show reading.toNat ≤ higher.toNat
      omega
    exact falls_iff.mp (right.falls le) ⟨by omega, by omega⟩
  · rintro ⟨small, notLast, low⟩
    exact ⟨stored_iff.mpr small, fun _ => falls_iff.mpr fun both => by omega, threshold_iff.mpr low⟩

/-- A calibration at 300 K with a voltage of 500, and readings of 500 and of the largest number. -/
theorem temperature_wrong : ¬ TemperatureRight ⟨300, 500⟩ 500 0xffffffff ∧
    (iwl5150Temperature ⟨300, 500⟩ 500).toInt = 127 ∧ celsius ⟨300, 500⟩ 500 = 27 := by
  refine ⟨fun right => ?_, by decide, by decide⟩
  have small := stored_iff.mp right.stored
  exact absurd small (by decide)

end IntelWifi.Dvm.Temperature
