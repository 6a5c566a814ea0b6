/-
**The transmit power limit of the device.**

Without an enhanced table, `max_tx_pwr_half_dbm` is the best limit of the channels, in half dBm; a request, in dBm,
is doubled and cut down to it. Both times the double is cast to an `s8`: a limit or a request of 64 dBm or more
wraps, and so does a limit below -64 dBm.

* `channelMapPower_iff`: when the best of the wrapped limits is the best limit, clamped to the range of an `s8`.
* `globalLmt_iff`: when a request in range is cut down as it should be.
* `powerLimits_iff`: when both are right.
-/

import IntelWifi.Lib.Folds
import IntelWifi.Dvm.PowerNesting
import IntelWifi.Nvm.TxPower

namespace IntelWifi.Dvm.Power

open Nvm Checked Folds

/-! ### What is meant -/

/-- An `int`, clamped to the range of an `s8`. -/
def clampS8 (value : Int) : Int := max (-128) (min 127 value)

/-- The best limit of the channels, in half dBm. -/
def bestHalfDbm (channels : List Ieee80211Channel) : Int :=
  (channels.map fun chan => 2 * chan.maxPower).foldl max (-128)

/-- **Both limits are right**: that of the image, and the one that a request is sent with. -/
structure PowerLimitsRight (params : IwlEepromParams) (eeprom : Eeprom) (out : IwlNvmData) (dev : Device)
    (txPower : Int) (sent : Priv) : Prop where
  most : out.maxTxPwrHalfDbm = clampS8 (bestHalfDbm (tableChannels params eeprom))
  lmt : sent.tx.globalLmt = some (min (2 * txPower) dev.maxTxPwrHalfDbm)

/-- **When no limit of a channel wraps to where it shows**: none is 64 dBm or more, and one below -64 dBm stays
below another one even when wrapped. -/
structure LimitsFit (channels : List Ieee80211Channel) : Prop where
  below : ∀ chan ∈ channels, chan.maxPower < 64
  covered : ∀ chan ∈ channels, chan.maxPower < -64 → ∃ other ∈ channels, chan.maxPower + 128 ≤ other.maxPower

/-! ### The channel map -/

theorem toS8_double {power : Int} (low : -128 ≤ power) (high : power ≤ 127) : toS8 (power * 2) =
    if power < -64 then 2 * power + 256 else if power < 64 then 2 * power else 2 * power - 256 := by
  unfold toS8 s8
  split_ifs <;> omega

section Map

variable {channels : List Ieee80211Channel} {bound : Int}

theorem channelMapPower_eq :
    channelMapPower channels = (channels.map fun chan => toS8 (chan.maxPower * 2)).foldl max (-128) :=
  (List.foldl_map ..).symm

theorem channelMapPower_le_iff : channelMapPower channels ≤ bound ↔
    -128 ≤ bound ∧ ∀ chan ∈ channels, toS8 (chan.maxPower * 2) ≤ bound := by
  rw [channelMapPower_eq, foldl_max_le_iff, List.forall_mem_map]

theorem bestHalfDbm_le_iff :
    bestHalfDbm channels ≤ bound ↔ -128 ≤ bound ∧ ∀ chan ∈ channels, 2 * chan.maxPower ≤ bound := by
  rw [bestHalfDbm, foldl_max_le_iff, List.forall_mem_map]

theorem le_bestHalfDbm_iff :
    bound ≤ bestHalfDbm channels ↔ bound ≤ -128 ∨ ∃ chan ∈ channels, bound ≤ 2 * chan.maxPower := by
  simp [bestHalfDbm, le_foldl_max_iff]

variable (range : ∀ chan ∈ channels, -128 ≤ chan.maxPower ∧ chan.maxPower ≤ 127)
include range

/-- Where the result is right, no limit wraps to where it shows. -/
theorem fits_of_right (same : channelMapPower channels = clampS8 (bestHalfDbm channels)) : LimitsFit channels := by
  unfold clampS8 at same
  have shows := (channelMapPower_le_iff.mp (Int.le_refl (channelMapPower channels))).2
  constructor
  · intro chan member
    by_contra high
    have best : 127 ≤ bestHalfDbm channels := le_bestHalfDbm_iff.mpr (Or.inr ⟨chan, member, by omega⟩)
    have most : channelMapPower channels ≤ 126 := by
      refine channelMapPower_le_iff.mpr ⟨by decide, fun other member => ?_⟩
      have := range other member
      rw [toS8_double (range other member).1 (range other member).2]
      split_ifs <;> omega
    omega
  · intro chan member low
    have := range chan member
    have wrapped := shows chan member
    rw [toS8_double (range chan member).1 (range chan member).2, if_pos low, same] at wrapped
    obtain none | ⟨other, there, least⟩ := le_bestHalfDbm_iff.mp
      (show 2 * chan.maxPower + 256 ≤ bestHalfDbm channels by omega)
    · omega
    · exact ⟨other, there, by omega⟩

/-- And where none does, it is right. -/
theorem right_of_fits (fits : LimitsFit channels) : channelMapPower channels = clampS8 (bestHalfDbm channels) := by
  unfold clampS8
  obtain ⟨floor, shows⟩ := channelMapPower_le_iff.mp (Int.le_refl (channelMapPower channels))
  have best := (bestHalfDbm_le_iff.mp (Int.le_refl (bestHalfDbm channels))).2
  have upper : channelMapPower channels ≤ max (-128) (min 127 (bestHalfDbm channels)) := by
    refine channelMapPower_le_iff.mpr ⟨by omega, fun chan member => ?_⟩
    have least := best chan member
    have := range chan member
    have := fits.below chan member
    rw [toS8_double (range chan member).1 (range chan member).2]
    by_cases low : chan.maxPower < -64
    · obtain ⟨other, there, high⟩ := fits.covered chan member low
      have := best other there
      rw [if_pos low]
      omega
    · rw [if_neg low]
      split_ifs
      omega
  have lower : bestHalfDbm channels ≤ channelMapPower channels := by
    refine bestHalfDbm_le_iff.mpr ⟨floor, fun chan member => ?_⟩
    have shown := shows chan member
    have := fits.below chan member
    rw [toS8_double (range chan member).1 (range chan member).2] at shown
    split_ifs at shown <;> omega
  omega

/-- **When the best of the wrapped limits is the best limit.** -/
theorem channelMapPower_iff : channelMapPower channels = clampS8 (bestHalfDbm channels) ↔ LimitsFit channels :=
  ⟨fits_of_right range, right_of_fits range⟩

end Map

/-- The channels of a table have the powers of bytes. -/
theorem tableChannels_range (params : IwlEepromParams) (eeprom : Eeprom) :
    ∀ chan ∈ tableChannels params eeprom, -128 ≤ chan.maxPower ∧ chan.maxPower ≤ 127 := by
  intro chan member
  obtain ⟨band, _, found⟩ := List.mem_flatMap.mp member
  obtain ⟨entry, _, is⟩ := List.mem_filterMap.mp found
  unfold tableChannel at is
  dsimp only at is
  split at is
  · cases is
    refine ⟨?_, s8_range ..⟩
    show -128 ≤ s8 _
    unfold s8
    split <;> omega
  · cases is

/-- Without an enhanced table the limit comes from the channel map. -/
theorem initChannelMap_plain {params : IwlEepromParams} (plain : params.enhancedTxpower = false) (eeprom : Eeprom)
    (log : Bool) (validTxAnt : Nat) (maxTxPwrHalfDbm : Int) :
    Gives (iwlInitChannelMap params eeprom log validTxAnt maxTxPwrHalfDbm)
      (·.maxTxPwrHalfDbm = channelMapPower (tableChannels params eeprom)) := by
  have mapped (power : TxPower) : initTxPower params eeprom log validTxAnt power =
      .ok { power with maxTxPwrHalfDbm := channelMapPower power.channels } :=
    if_neg (plain ▸ Bool.false_ne_true)
  unfold iwlInitChannelMap
  simp only [mapped]
  refine (readBands_gives _ _ _ _).followed (gives_ite (fun _ => gives_ok rfl) fun _ => ?_)
  exact gives_then fun _ => gives_ok rfl

/-! ### The request -/

/-- **When a request in range is cut down as it should be.** -/
theorem globalLmt_iff {dev : Device} (range : -128 ≤ dev.maxTxPwrHalfDbm ∧ dev.maxTxPwrHalfDbm ≤ 127) {txPower : Int}
    (inRange : dev.inRange txPower = true) :
    globalLmt dev txPower = min (2 * txPower) dev.maxTxPwrHalfDbm ↔ ¬ (dev.maxTxPwrHalfDbm = 127 ∧ txPower = 64) := by
  have bounds : 0 ≤ txPower ∧ txPower ≤ 64 ∧ (txPower = 64 → dev.maxTxPwrHalfDbm = 127) := by
    unfold Device.inRange divRoundUp at inRange
    rw [Bool.and_eq_true, decide_eq_true_iff, decide_eq_true_iff] at inRange
    have whole := Int.mul_tdiv_add_tmod (dev.maxTxPwrHalfDbm + 2 - 1) 2
    by_cases sign : 0 ≤ dev.maxTxPwrHalfDbm + 2 - 1
    · have rest := Int.tmod_nonneg 2 sign
      omega
    · have rest := Int.lt_tmod_of_pos (dev.maxTxPwrHalfDbm + 2 - 1) (show (0 : Int) < 2 by decide)
      omega
  have doubled : toS8 (2 * txPower) = if txPower = 64 then -128 else 2 * txPower := by
    unfold toS8 s8
    split_ifs <;> omega
  unfold globalLmt
  rw [doubled]
  dsimp only
  split_ifs <;> omega

/-- A request that returns 0 and is sent. -/
theorem setTxPower_sent {dev : Device} {env : Setup} {st : Priv} {txPower : Int} {force : Bool}
    (accepts : (iwlSetTxPower dev env st txPower force).1 = .ok)
    (sends : (iwlSetTxPower dev env st txPower force).2.tx.sent = st.tx.sent + 1) :
    dev.inRange txPower = true ∧
      (iwlSetTxPower dev env st txPower force).2.tx.globalLmt = some (globalLmt dev txPower) := by
  have cases := setTxPower_cases dev env st txPower force
  generalize iwlSetTxPower dev env st txPower force = result at cases accepts sends
  have unsent : st.tx.sent ≠ st.tx.sent + 1 := Nat.ne_of_lt (Nat.lt_succ_self _)
  cases cases with
  | disabled _ => exact absurd sends unsent
  | unchanged _ _ _ => exact absurd sends unsent
  | outOfRange _ => cases accepts
  | refused _ => cases accepts
  | deferred _ _ _ _ _ _ => exact absurd sends unsent
  | scans _ _ _ => cases accepts
  | failed _ => cases accepts
  | sent _ range _ _ _ => exact ⟨range, rfl⟩

/-- **When the limits are right**: for every image without an enhanced table that is parsed, every limit of a device
and every request that is accepted and sent. -/
theorem powerLimits_iff {cfg : IwlCfg} {params : IwlEepromParams} {data out : IwlNvmData} {eeprom : Eeprom}
    (configured : cfg.eepromParams = some params) (plain : params.enhancedTxpower = false)
    (parsed : iwlParseEepromData cfg (some data) eeprom = .ok out)
    (dev : Device) (env : Setup) (st : Priv) (txPower : Int) (force : Bool)
    (range : -128 ≤ dev.maxTxPwrHalfDbm ∧ dev.maxTxPwrHalfDbm ≤ 127)
    (accepts : (iwlSetTxPower dev env st txPower force).1 = .ok)
    (sends : (iwlSetTxPower dev env st txPower force).2.tx.sent = st.tx.sent + 1) :
    PowerLimitsRight params eeprom out dev txPower (iwlSetTxPower dev env st txPower force).2 ↔
      LimitsFit (tableChannels params eeprom) ∧ ¬ (dev.maxTxPwrHalfDbm = 127 ∧ txPower = 64) := by
  obtain ⟨power, mapped, _, most, _⟩ := parse_channelMap data configured out parsed
  have limit := initChannelMap_plain plain eeprom cfg.log (txAntennas cfg eeprom) data.maxTxPwrHalfDbm power mapped
  obtain ⟨inRange, sent⟩ := setTxPower_sent accepts sends
  rw [← channelMapPower_iff (tableChannels_range params eeprom), ← globalLmt_iff range inRange, ← limit, ← most]
  constructor
  · intro right
    exact ⟨right.most, Option.some.inj (sent.symm.trans right.lmt)⟩
  · rintro ⟨best, cut⟩
    exact ⟨best, sent.trans (congrArg some cut)⟩

/-- An image with the channel 1 of the 2.4 GHz band, at so many dBm. -/
def channelImage (power : UInt8) : Eeprom :=
  List.replicate 8 0 ++ [0x09, power] ++ List.replicate 202 0 ++ [0x80, 0x00] ++ List.replicate 400 0

/-- What is parsed of it, with such a limit. -/
def channelData (maxPower maxTxPwrHalfDbm : Int) : IwlNvmData :=
  { zeroNvmData with
    hwAddr := List.replicate 6 0
    xtalCalib := List.replicate 4 0
    validTxAnt := 3
    validRxAnt := 3
    maxTxPwrHalfDbm := maxTxPwrHalfDbm
    channels := [⟨1, .ghz2, true, false, true, true, maxPower⟩] }

theorem smallParams_size : (#[0x08, 0x26, 0x42, 0x5C, 0x74, 0x82, 0x92] : Array UInt8).size = 7 := rfl

/-- The bands of `smallCfg`. -/
def smallParams : IwlEepromParams := ⟨⟨#[0x08, 0x26, 0x42, 0x5C, 0x74, 0x82, 0x92], smallParams_size⟩, false⟩

/-- A device with such a limit. -/
def limitedTo (maxTxPwrHalfDbm : Int) : Device := ⟨true, false, maxTxPwrHalfDbm⟩

theorem powerLimits_iff_fifteen :
    PowerLimitsRight smallParams (channelImage 15) (channelData 15 30) (limitedTo 30) 14
        (iwlSetTxPower (limitedTo 30) .plain .zero 14 false).2 ↔
      LimitsFit (tableChannels smallParams (channelImage 15)) ∧
        ¬ ((limitedTo 30).maxTxPwrHalfDbm = 127 ∧ (14 : Int) = 64) :=
  @powerLimits_iff smallCfg smallParams zeroNvmData (channelData 15 30) (channelImage 15) rfl rfl (by decide +kernel)
    (limitedTo 30) .plain .zero 14 false (by decide +kernel) (by decide +kernel) (by decide +kernel)

/-- **The limits wrap**: of a channel at 100 dBm the device's limit is -56, where 127 is meant; and where the limit is
127, a request for 64 dBm is sent as -128. -/
theorem powerLimits_wrap :
    (iwlParseEepromData smallCfg (some zeroNvmData) (channelImage 100) = .ok (channelData 100 (-56)) ∧
      clampS8 (bestHalfDbm (tableChannels smallParams (channelImage 100))) = 127 ∧
      ∀ dev txPower sent,
        ¬ PowerLimitsRight smallParams (channelImage 100) (channelData 100 (-56)) dev txPower sent) ∧
    (iwlSetTxPower (limitedTo 127) .plain .zero 64 false).1 = .ok ∧
      (iwlSetTxPower (limitedTo 127) .plain .zero 64 false).2.tx.globalLmt = some (-128) ∧
      ∀ params eeprom out,
        ¬ PowerLimitsRight params eeprom out (limitedTo 127) 64
          (iwlSetTxPower (limitedTo 127) .plain .zero 64 false).2 := by
  refine ⟨⟨by decide +kernel, by decide +kernel, fun _ _ _ right => ?_⟩, by decide +kernel, by decide +kernel,
    fun _ _ _ right => ?_⟩
  · have most := right.most
    revert most
    decide +kernel
  · have lmt := right.lmt
    revert lmt
    decide +kernel

end IntelWifi.Dvm.Power
