/-
**The channels of an NVM, and their frequencies.**

`iwl_nvm_channels` and `iwl_ext_nvm_channels` name the channels in the order in which an NVM and the firmware list
them: the 14 channels of 2.4 GHz first. Their centers increase along each table, and from channel 14 on any two are
at least 20 MHz apart.
-/

import IntelWifi.Nvm.Eeprom
import Mathlib.Data.List.Chain

namespace IntelWifi.NvmParse

open IntelWifi.Nvm (Nl80211Band)

/-- `enum iwl_nvm_type`. -/
inductive IwlNvmType where
  | nvm
  | ext
  | sdp
  deriving DecidableEq, Repr

/-- `iwl_nvm_channels`. -/
def iwlNvmChannels : List Nat :=
  [1, 2, 3, 4, 5, 6, 7, 8, 9, 10, 11, 12, 13, 14,
    36, 40, 44, 48, 52, 56, 60, 64, 100, 104, 108, 112, 116, 120, 124, 128, 132, 136, 140, 144,
    149, 153, 157, 161, 165]

/-- `iwl_ext_nvm_channels`. -/
def iwlExtNvmChannels : List Nat :=
  [1, 2, 3, 4, 5, 6, 7, 8, 9, 10, 11, 12, 13, 14,
    36, 40, 44, 48, 52, 56, 60, 64, 68, 72, 76, 80, 84, 88, 92,
    96, 100, 104, 108, 112, 116, 120, 124, 128, 132, 136, 140, 144,
    149, 153, 157, 161, 165, 169, 173, 177, 181]

/-- `nvm_chan`. -/
def IwlNvmType.channels : IwlNvmType → List Nat
  | .ext => iwlExtNvmChannels
  | .nvm | .sdp => iwlNvmChannels

/-- `NUM_2GHZ_CHANNELS`, also `NUM_2GHZ_CHANNELS_EXT`. -/
def num2ghzChannels : Nat := 14

/-- `FIRST_2GHZ_HT_MINUS`. -/
def first2ghzHtMinus : Nat := 5
/-- `LAST_2GHZ_HT_PLUS`. -/
def last2ghzHtPlus : Nat := 9

/-- `LAST_5GHZ_HT`, and `LAST_5GHZ_HT_FAMILY_8000`. -/
def IwlNvmType.last5ghzHt : IwlNvmType → Nat
  | .ext => 181
  | .nvm | .sdp => 165

/-- `ieee80211_channel_to_frequency`, in MHz: 0 for a channel that is not supported. -/
def ieee80211ChannelToFrequency (chan : Nat) (band : Nl80211Band) : Nat :=
  if chan = 0 then 0
  else
    match band with
    | .ghz2 => if chan = 14 then 2484 else if chan < 14 then 2407 + chan * 5 else 0
    | .ghz5 => if 182 ≤ chan ∧ chan ≤ 196 then 4000 + chan * 5 else 5000 + chan * 5

/-- The band of an index. -/
def bandOf (chIdx : Nat) : Nl80211Band := if chIdx < num2ghzChannels then .ghz2 else .ghz5

/-! ### `enum iwl_nvm_channel_flags` -/

def nvmChannelValid : BitVec 16 := 1#16 <<< 0
def nvmChannelActive : BitVec 16 := 1#16 <<< 3
def nvmChannelRadar : BitVec 16 := 1#16 <<< 4
def nvmChannelIndoorOnly : BitVec 16 := 1#16 <<< 5
def nvmChannelGoConcurrent : BitVec 16 := 1#16 <<< 6
def nvmChannel40mhz : BitVec 16 := 1#16 <<< 9
def nvmChannel80mhz : BitVec 16 := 1#16 <<< 10
def nvmChannel160mhz : BitVec 16 := 1#16 <<< 11

/-- A flag is set. -/
def has (flags mask : BitVec 16) : Bool := flags &&& mask != 0

/-! ### Centers -/

/-- The center of each channel of a table. -/
def IwlNvmType.centers (type : IwlNvmType) : List Nat :=
  type.channels.mapIdx fun chIdx chan => ieee80211ChannelToFrequency chan (bandOf chIdx)

variable {type : IwlNvmType}

@[simp] theorem length_centers : type.centers.length = type.channels.length := List.length_mapIdx

/-- **The centers increase along a table**, from channel 1 on. -/
theorem centers_increase : (2412 :: type.centers.tail).Pairwise (· < ·) := by
  rw [← List.isChain_iff_pairwise]
  cases type <;> decide +kernel

/-- **From channel 14 on there are 20 MHz** between the centers, at least. -/
theorem centers_apart : (type.centers.drop 13).Pairwise fun a b => a + 20 ≤ b := by
  have trans : IsTrans Nat fun a b => a + 20 ≤ b := ⟨fun a b c first second => by omega⟩
  rw [← List.isChain_iff_pairwise]
  cases type <;> decide +kernel

theorem centers_cons : type.centers = 2412 :: type.centers.tail := by
  cases type <;> rfl

theorem center_lt {i j a b : Nat} (first : type.centers[i]? = some a) (second : type.centers[j]? = some b)
    (before : i < j) : a < b := by
  have ordered : (2412 :: type.centers.tail).Pairwise (· < ·) := centers_increase
  rw [← centers_cons, List.pairwise_iff_getElem] at ordered
  obtain ⟨here, rfl⟩ := List.getElem?_eq_some_iff.mp first
  obtain ⟨there, rfl⟩ := List.getElem?_eq_some_iff.mp second
  exact ordered i j here there before

theorem center_ge {i a : Nat} (center : type.centers[i]? = some a) : 2412 ≤ a := by
  rcases Nat.eq_zero_or_pos i with rfl | later
  · rw [centers_cons] at center
    exact (Option.some.inj center).le
  · exact (center_lt (by rw [centers_cons]; rfl) center later).le

theorem center_far {i j a b : Nat} (first : type.centers[i]? = some a) (second : type.centers[j]? = some b)
    (high : num2ghzChannels ≤ j) (before : i < j) : a + 20 ≤ b := by
  have apart : (type.centers.drop 13).Pairwise fun a b => a + 20 ≤ b := centers_apart
  rw [List.pairwise_iff_getElem] at apart
  have far {i : Nat} {a : Nat} (first : type.centers[i]? = some a) (start : 13 ≤ i) (before : i < j) : a + 20 ≤ b := by
    obtain ⟨here, rfl⟩ := List.getElem?_eq_some_iff.mp first
    obtain ⟨there, rfl⟩ := List.getElem?_eq_some_iff.mp second
    have parts := apart (i - 13) (j - 13) (by rw [List.length_drop]; omega) (by rw [List.length_drop]; omega) (by omega)
    rw [List.getElem_drop, List.getElem_drop] at parts
    simpa only [show 13 + (i - 13) = i by omega, show 13 + (j - 13) = j by omega] using parts
  unfold num2ghzChannels at high
  rcases Nat.lt_or_ge i 13 with low | start
  · obtain ⟨inside, _⟩ := List.getElem?_eq_some_iff.mp second
    have last : type.centers[13]? = some type.centers[13] := List.getElem?_eq_getElem (by omega)
    have below := center_lt first last low
    have gap := far last le_rfl (by omega)
    omega
  · exact far first start before

end IntelWifi.NvmParse
