/-
**The channel map.**

`iwl_init_channel_map` appends the valid channels of five tables, and `iwl_init_sband_channels` looks for the
channels of a band where they begin and as far as they go. Only the first table is of the 2.4 GHz band, so the
channels of each band are adjacent.

The two HT40 tables are then walked; an entry is for a channel and for the one four above it. The walk is
skipped when neither band has a table. When one of them has none, `EEPROM_REGULATORY_BAND_NO_HT40` is taken
for the offset of its table.

* `sbands_cover`: the two bands share out the channels that are in use.
* `ht40Right_iff`: the HT40 flags are those of the tables just when a table that is not there does not show.
-/

import IntelWifi.Nvm.TxPower
import IntelWifi.Lib.Tiling

namespace IntelWifi.Nvm

open Bytes Checked Tiling

variable {eeprom : Eeprom} {params : IwlEepromParams}

/-! ### The supported bands -/

/-- `struct ieee80211_supported_band`: its channels are a part of `data->channels`, its bit rates begin at an index
of `iwl_cfg80211_rates`. -/
structure Ieee80211SupportedBand where
  band : Nl80211Band
  bitrates : Nat
  nBitrates : Nat
  channels : Part

/-- The first loop of `iwl_init_sband_channels`, over the channels from `idx` on. -/
def skipsOthers (band : Nl80211Band) : List Ieee80211Channel → Nat → Nat
  | [], idx => idx
  | chan :: later, idx => if chan.band ≠ band then skipsOthers band later (idx + 1) else idx

/-- The second loop. -/
def countsBand (band : Nl80211Band) : List Ieee80211Channel → Nat → Nat
  | [], n => n
  | chan :: later, n => if chan.band = band then countsBand band later (n + 1) else n

/-- `iwl_init_sband_channels`: where the channels of the band begin, and how many there are. -/
def iwlInitSbandChannels (channels : List Ieee80211Channel) (band : Nl80211Band) : Part :=
  let idx := skipsOthers band channels 0
  ⟨idx, countsBand band (channels.drop idx) 0⟩

/-- `RATES_52_OFFS` and `N_RATES_24`. -/
def rates52Offs : Nat := 4
def nRates24 : Nat := 12

/-- The bands of `struct iwl_nvm_data`, and how many channels they use. -/
structure Sbands where
  ghz2 : Ieee80211SupportedBand
  ghz5 : Ieee80211SupportedBand
  nUsed : Nat

/-- What `iwl_init_sbands` makes of the channels, but for `ht_cap`. -/
def iwlInitSbands (channels : List Ieee80211Channel) : Sbands :=
  let ghz2 := iwlInitSbandChannels channels .ghz2
  let ghz5 := iwlInitSbandChannels channels .ghz5
  { ghz2 := ⟨.ghz2, 0, nRates24, ghz2⟩
    ghz5 := ⟨.ghz5, rates52Offs, nRates24 - rates52Offs, ghz5⟩
    nUsed := ghz2.length + ghz5.length }

/-- The channel numbers of the five tables, with their bands. -/
def channelTable : List (Nl80211Band × Nat) :=
  [1, 2, 3, 4, 5].flatMap fun band =>
    (eepromChArray band).map fun hwValue => (if band = 1 then Nl80211Band.ghz2 else .ghz5, hwValue)

/-- `IWL_NUM_CHANNELS`. -/
def iwlNumChannels : Nat := 56

/-- **The two bands share out the channels**: these are in table order and fit the array, each is in one part
and no part goes beyond them, and each part has channels of its own band. -/
structure SbandsCover (channels : List Ieee80211Channel) (sbands : Sbands) : Prop where
  ordered : (keysOf channels).Sublist channelTable
  few : channels.length ≤ iwlNumChannels
  covered : ∀ i, covering [sbands.ghz2.channels, sbands.ghz5.channels] i = if i < channels.length then 1 else 0
  own : ∀ sband ∈ [sbands.ghz2, sbands.ghz5], ∀ i chan, sband.channels.covers i = true →
    channels[i]? = some chan → chan.band = sband.band
  used : sbands.nUsed = channels.length

section Sbands

variable {band : Nl80211Band} {channels two five : List Ieee80211Channel}

theorem skipsOthers_all (others : ∀ chan ∈ two, chan.band ≠ band) (five : List Ieee80211Channel) (idx : Nat) :
    skipsOthers band (two ++ five) idx = skipsOthers band five (idx + two.length) := by
  induction two generalizing idx with
  | nil => rfl
  | cons chan later ih =>
    rw [List.forall_mem_cons] at others
    have first : skipsOthers band (chan :: later ++ five) idx = skipsOthers band (later ++ five) (idx + 1) :=
      if_pos others.1
    rw [first, ih others.2, List.length_cons, Nat.add_assoc, Nat.add_comm 1]

theorem countsBand_all (same : ∀ chan ∈ two, chan.band = band) (others : ∀ chan ∈ five, chan.band ≠ band)
    (n : Nat) :
    countsBand band (two ++ five) n = n + two.length := by
  induction two generalizing n with
  | nil =>
    cases five with
    | nil => rfl
    | cons chan later => exact if_neg (others chan List.mem_cons_self)
  | cons chan later ih =>
    rw [List.forall_mem_cons] at same
    have first : countsBand band (chan :: later ++ five) n = countsBand band (later ++ five) (n + 1) :=
      if_pos same.1
    rw [first, ih same.2, List.length_cons, Nat.add_assoc, Nat.add_comm 1]

/-- The channels of a band that come first. -/
theorem initSband_first (same : ∀ chan ∈ two, chan.band = band) (others : ∀ chan ∈ five, chan.band ≠ band) :
    (iwlInitSbandChannels (two ++ five) band).length = two.length ∧
      (two.length ≠ 0 → (iwlInitSbandChannels (two ++ five) band).start = 0) := by
  unfold iwlInitSbandChannels
  cases two with
  | nil =>
    have skips := skipsOthers_all others [] 0
    rw [List.append_nil, Nat.zero_add] at skips
    dsimp only
    rw [List.nil_append, skips]
    unfold skipsOthers
    rw [List.drop_length]
    exact ⟨rfl, fun some => absurd rfl some⟩
  | cons chan later =>
    have here : skipsOthers band (chan :: later ++ five) 0 = 0 := by
      rw [List.cons_append]
      exact if_neg (not_not.mpr (same chan List.mem_cons_self))
    dsimp only
    rw [here, List.drop_zero, countsBand_all same others, Nat.zero_add]
    exact ⟨rfl, fun _ => rfl⟩

/-- A part with nothing in it may begin anywhere. -/
theorem covers_first {part : Part} {n i : Nat} (length : part.length = n) (start : n ≠ 0 → part.start = 0) :
    part.covers i = true ↔ i < n := by
  rw [Part.covers_iff]
  unfold Part.stop
  by_cases none : n = 0
  · omega
  · have begins := start none
    omega

/-- The channels of a band that come last. -/
theorem initSband_last (others : ∀ chan ∈ two, chan.band ≠ band) (same : ∀ chan ∈ five, chan.band = band) :
    iwlInitSbandChannels (two ++ five) band = ⟨two.length, five.length⟩ := by
  have begins : skipsOthers band five (0 + two.length) = two.length := by
    rw [Nat.zero_add]
    cases five with
    | nil => rfl
    | cons chan later => exact if_neg (not_not.mpr (same chan List.mem_cons_self))
  have counts : countsBand band (five ++ []) 0 = 0 + five.length :=
    countsBand_all same (fun _ none => absurd none List.not_mem_nil) 0
  rw [List.append_nil, Nat.zero_add] at counts
  unfold iwlInitSbandChannels
  dsimp only
  rw [skipsOthers_all others, begins, List.drop_left, counts]

/-- **Adjacent bands** are shared out. -/
theorem initSbands_cover (twoBand : ∀ chan ∈ two, chan.band = .ghz2) (fiveBand : ∀ chan ∈ five, chan.band = .ghz5)
    (ordered : (keysOf (two ++ five)).Sublist channelTable) (few : (two ++ five).length ≤ iwlNumChannels) :
    SbandsCover (two ++ five) (iwlInitSbands (two ++ five)) := by
  have notFive : ∀ chan ∈ two, chan.band ≠ .ghz5 := fun chan member => by
    rw [twoBand chan member]
    decide
  have notTwo : ∀ chan ∈ five, chan.band ≠ .ghz2 := fun chan member => by
    rw [fiveBand chan member]
    decide
  have first := initSband_first twoBand notTwo
  have last := initSband_last notFive fiveBand
  have inTwo (i : Nat) : (iwlInitSbands (two ++ five)).ghz2.channels.covers i = true ↔ i < two.length :=
    covers_first first.1 first.2
  have inFive (i : Nat) : (iwlInitSbands (two ++ five)).ghz5.channels.covers i = true ↔
      two.length ≤ i ∧ i < (two ++ five).length := by
    have part : (iwlInitSbands (two ++ five)).ghz5.channels = ⟨two.length, five.length⟩ := last
    rw [part, List.length_append]
    exact Part.covers_iff
  refine ⟨ordered, few, fun i => ?_, ?_, ?_⟩
  · unfold covering
    rw [List.countP_cons, List.countP_singleton]
    by_cases low : i < two.length
    · have below : i < (two ++ five).length := by
        rw [List.length_append]
        omega
      rw [if_pos ((inTwo i).mpr low), if_neg fun covers => (Nat.not_lt.mpr ((inFive i).mp covers).1) low,
        if_pos below]
    · rw [if_neg (mt (inTwo i).mp low)]
      by_cases below : i < (two ++ five).length
      · rw [if_pos ((inFive i).mpr ⟨Nat.not_lt.mp low, below⟩), if_pos below]
      · rw [if_neg fun covers => below ((inFive i).mp covers).2, if_neg below]
  · simp only [List.forall_mem_cons]
    refine ⟨fun i chan covers here => ?_, fun i chan covers here => ?_, fun _ none => absurd none List.not_mem_nil⟩
    · rw [List.getElem?_append_left ((inTwo i).mp covers)] at here
      exact twoBand chan (List.mem_of_getElem? here)
    · rw [List.getElem?_append_right ((inFive i).mp covers).1] at here
      exact fiveBand chan (List.mem_of_getElem? here)
  · have number : (iwlInitSbands (two ++ five)).nUsed = two.length + five.length := by
      unfold iwlInitSbands
      dsimp only
      rw [first.1, last]
    rw [number, List.length_append]

end Sbands

/-! ### The channels in use -/

/-- The band of the channels of a table. -/
def bandOf (band : Nat) : Nl80211Band := if band = 1 then .ghz2 else .ghz5

theorem tableChannel_key {chInfo : Option Nat} {band : Nat} {entry : Nat × Nat} {chan : Ieee80211Channel}
    (found : tableChannel eeprom chInfo band entry = some chan) :
    (chan.band, chan.hwValue) = (bandOf band, entry.1) := by
  unfold tableChannel at found
  dsimp only at found
  split at found
  · cases found
    rfl
  · cases found

theorem bandChannels_sublist (chInfo : Option Nat) (band : Nat) (hwValues : List Nat) (idx : Nat) :
    (keysOf ((hwValues.zipIdx idx).filterMap (tableChannel eeprom chInfo band))).Sublist
      (hwValues.map fun hwValue => (bandOf band, hwValue)) := by
  induction hwValues generalizing idx with
  | nil => exact List.Sublist.slnil
  | cons hwValue later ih =>
    rw [List.zipIdx_cons, List.filterMap_cons, List.map_cons]
    cases found : tableChannel eeprom chInfo band (hwValue, idx) with
    | none => exact (ih (idx + 1)).cons _
    | some chan =>
      have key := tableChannel_key found
      unfold keysOf at ih ⊢
      rw [List.map_cons, key]
      exact (ih (idx + 1)).cons_cons _

/-- The channels that are read are in table order. -/
theorem tableChannels_sublist (params : IwlEepromParams) (eeprom : Eeprom) :
    (keysOf (tableChannels params eeprom)).Sublist channelTable := by
  have bands (numbers : List Nat) : (keysOf (numbers.flatMap (bandChannels params eeprom))).Sublist
      (numbers.flatMap fun band => (eepromChArray band).map fun hwValue => (bandOf band, hwValue)) := by
    induction numbers with
    | nil => exact List.Sublist.slnil
    | cons band later ih =>
      unfold keysOf at ih ⊢
      rw [List.flatMap_cons, List.flatMap_cons, List.map_append]
      exact (bandChannels_sublist _ band (eepromChArray band) 0).append ih
  exact bands [1, 2, 3, 4, 5]

theorem tableChannels_nodup (params : IwlEepromParams) (eeprom : Eeprom) :
    (keysOf (tableChannels params eeprom)).Nodup :=
  (tableChannels_sublist params eeprom).nodup (by decide)

/-- The power limits change nothing else. -/
theorem initTxPower_limits (log : Bool) (validTxAnt : Nat) (power : TxPower) :
    Gives (initTxPower params eeprom log validTxAnt power)
      (fun after => ∃ limit : Ieee80211Channel → Int,
        after.channels = power.channels.map fun chan => { chan with maxPower := limit chan }) := by
  unfold initTxPower
  cases params.enhancedTxpower with
  | false => exact gives_ok ⟨(·.maxPower), (List.map_id _).symm⟩
  | true => exact (enhancedTxpower_gives _ _ _ _).mono fun after same => ⟨_, congrArg TxPower.channels same⟩

/-- `iwl_init_channel_map` up to its check for HT40 channels. -/
def beforeHt40 (params : IwlEepromParams) (eeprom : Eeprom) (log : Bool) (validTxAnt : Nat)
    (maxTxPwrHalfDbm : Int) : Outcome EepromError TxPower := do
  let channels ← readBands params eeprom [1, 2, 3, 4, 5] []
  initTxPower params eeprom log validTxAnt ⟨channels, maxTxPwrHalfDbm⟩

/-- There the channels are those of the tables, without HT40. -/
theorem beforeHt40_gives (log : Bool) (validTxAnt : Nat) (maxTxPwrHalfDbm : Int) :
    Gives (beforeHt40 params eeprom log validTxAnt maxTxPwrHalfDbm) fun power =>
      keysOf power.channels = keysOf (tableChannels params eeprom) ∧
        ∀ chan ∈ power.channels, unflagged chan = chan := by
  unfold beforeHt40
  refine (readBands_gives _ _ _ _).followed ((initTxPower_limits _ _ _).mono ?_)
  rintro after ⟨limit, channels⟩
  rw [channels]
  constructor
  · unfold keysOf
    rw [List.map_map]
    rfl
  · rw [List.forall_mem_map]
    intro chan member
    obtain ⟨band, _, found⟩ := List.mem_flatMap.mp member
    obtain ⟨entry, _, is⟩ := List.mem_filterMap.mp found
    unfold tableChannel at is
    dsimp only at is
    split at is
    · cases is
      rfl
    · cases is

theorem initChannelMap_eq (log : Bool) (validTxAnt : Nat) (maxTxPwrHalfDbm : Int) :
    iwlInitChannelMap params eeprom log validTxAnt maxTxPwrHalfDbm =
      (beforeHt40 params eeprom log validTxAnt maxTxPwrHalfDbm >>= fun power =>
        if noHt40Bands params then .ok power
        else readHt40Bands params eeprom log [6, 7] power.channels >>= fun channels =>
          .ok { power with channels := channels }) := by
  unfold iwlInitChannelMap beforeHt40
  rw [bind_assoc]

/-- **The channel map** has the channels of the tables. -/
theorem initChannelMap_keys (log : Bool) (validTxAnt : Nat) (maxTxPwrHalfDbm : Int) :
    Gives (iwlInitChannelMap params eeprom log validTxAnt maxTxPwrHalfDbm)
      (keysOf ·.channels = keysOf (tableChannels params eeprom)) := by
  rw [initChannelMap_eq]
  refine gives_bind (beforeHt40_gives _ _ _) fun power before => ?_
  obtain ⟨keys, _⟩ := before
  refine gives_ite (fun _ => gives_ok keys) fun _ => ?_
  refine gives_bind (readHt40Bands_unflagged _ _ _ _ _) fun channels same => gives_ok ?_
  have same := congrArg (List.map fun chan => (chan.band, chan.hwValue)) same
  rw [List.map_map, List.map_map] at same
  exact same.trans keys

/-- Channels whose keys are those of two lists are two parts with these keys. -/
theorem keysOf_append {channels : List Ieee80211Channel} {first second : List (Nl80211Band × Nat)}
    (keys : keysOf channels = first ++ second) :
    ∃ two five, channels = two ++ five ∧ keysOf two = first ∧ keysOf five = second := by
  unfold keysOf at keys
  obtain ⟨two, five, same, twoKeys, fiveKeys⟩ := List.map_eq_append_iff.mp keys
  exact ⟨two, five, same, twoKeys, fiveKeys⟩

/-- The channels that a band's table gives are of its band. -/
theorem bandChannels_band (params : IwlEepromParams) (eeprom : Eeprom) (band : Nat) :
    ∀ key ∈ keysOf (bandChannels params eeprom band), key.1 = bandOf band := by
  intro key member
  obtain ⟨hwValue, _, rfl⟩ := List.mem_map.mp ((bandChannels_sublist _ band _ 0).subset member)
  rfl

/-- The channels of the 2.4 GHz band come first. -/
theorem channels_split {channels : List Ieee80211Channel}
    (keys : keysOf channels = keysOf (tableChannels params eeprom)) :
    ∃ two five, channels = two ++ five ∧ (∀ chan ∈ two, chan.band = .ghz2) ∧ ∀ chan ∈ five, chan.band = .ghz5 := by
  have parts : keysOf (tableChannels params eeprom) = keysOf (bandChannels params eeprom 1) ++
      keysOf ([2, 3, 4, 5].flatMap (bandChannels params eeprom)) := by
    unfold tableChannels keysOf
    rw [List.flatMap_cons, List.map_append]
  obtain ⟨two, five, same, twoKeys, fiveKeys⟩ := keysOf_append (keys.trans parts)
  refine ⟨two, five, same, fun chan member => ?_, fun chan member => ?_⟩
  · have key : (chan.band, chan.hwValue) ∈ keysOf two := List.mem_map_of_mem member
    rw [twoKeys] at key
    exact bandChannels_band params eeprom 1 _ key
  · have key : (chan.band, chan.hwValue) ∈ keysOf five := List.mem_map_of_mem member
    rw [fiveKeys] at key
    obtain ⟨other, inside, is⟩ := List.mem_map.mp key
    obtain ⟨band, listed, found⟩ := List.mem_flatMap.mp inside
    have here := bandChannels_band params eeprom band (other.band, other.hwValue) (List.mem_map_of_mem found)
    have high : bandOf band = .ghz5 := by
      simp only [List.mem_cons, List.not_mem_nil, or_false] at listed
      rcases listed with rfl | rfl | rfl | rfl <;> rfl
    exact (congrArg Prod.fst is).symm.trans (here.trans high)

/-- **The two bands share out the channels** of every image that is parsed. -/
theorem sbands_cover {cfg : IwlCfg} {data out : IwlNvmData}
    (parsed : iwlParseEepromData cfg (some data) eeprom = .ok out) :
    SbandsCover out.channels (iwlInitSbands out.channels) := by
  obtain ⟨params, configured⟩ : ∃ params, cfg.eepromParams = some params := by
    cases configured : cfg.eepromParams with
    | some params => exact ⟨params, rfl⟩
    | none =>
      unfold iwlParseEepromData at parsed
      rw [configured] at parsed
      cases parsed
  obtain ⟨power, mapped, same, _⟩ := parse_channelMap data configured out parsed
  have keys : keysOf out.channels = keysOf (tableChannels params eeprom) := by
    rw [same]
    exact initChannelMap_keys _ _ _ power mapped
  have ordered : (keysOf out.channels).Sublist channelTable := by
    rw [keys]
    exact tableChannels_sublist params eeprom
  have few : out.channels.length ≤ iwlNumChannels := by
    have shorter := ordered.length_le
    unfold keysOf at shorter
    rwa [List.length_map] at shorter
  obtain ⟨two, five, split, twoBand, fiveBand⟩ := channels_split keys
  rw [split] at ordered few ⊢
  exact initSbands_cover twoBand fiveBand ordered few

/-- An image with three channels of each band. -/
def mixedImage : Eeprom :=
  [18, 28, 68, 72, 118].foldl (fun image i => (image.set i 0x09).set (i + 1) 12) sampleImage

def mixedData : IwlNvmData :=
  { sampleData with
    channels := [1, 6, 11].map (⟨·, .ghz2, true, false, true, true, 16⟩) ++
      [36, 40, 149].map (⟨·, .ghz5, true, false, true, true, 12⟩) }

theorem sbands_cover_mixed : SbandsCover mixedData.channels (iwlInitSbands mixedData.channels) :=
  @sbands_cover mixedImage sampleCfg zeroNvmData mixedData (by decide +kernel)

/-! ### HT40 -/

/-- The channel of a pair that a flag is about. -/
def flagChannel (lower : Nat) : Ht40Flag → Nat
  | .plus => lower
  | .minus => lower + 4

/-- A channel without the flags that are seen for it. -/
def Ieee80211Channel.cleared (seen : Ht40Flag → Nl80211Band × Nat → Bool) (chan : Ieee80211Channel) :
    Ieee80211Channel :=
  { chan with
    noHt40Plus := chan.noHt40Plus && !seen .plus (chan.band, chan.hwValue)
    noHt40Minus := chan.noHt40Minus && !seen .minus (chan.band, chan.hwValue) }

/-- The entry of a table, with its index, is valid and about the flag of this channel. -/
def entrySees (eeprom : Eeprom) (chInfo : Option Nat) (band : Nl80211Band) (flag : Ht40Flag)
    (key : Nl80211Band × Nat) (entry : Nat × Nat) : Bool :=
  key == (band, flagChannel entry.1 flag) && channelValid (fieldAt eeprom (chInfo.map (· + 2 * entry.2)) 0 1)

/-- One of these tables has a valid entry about the flag of the channel. -/
def tablesSee (params : IwlEepromParams) (eeprom : Eeprom) (bands : List Nat) (flag : Ht40Flag)
    (key : Nl80211Band × Nat) : Bool :=
  bands.any fun band => (eepromChArray band).zipIdx.any
    (entrySees eeprom (pointerOf eeprom (bandOffset params band)) (ht40Band band) flag key)

/-- The band has an HT40 table: its offset is not `EEPROM_REGULATORY_BAND_NO_HT40`. -/
def hasHt40 (params : IwlEepromParams) (band : Nat) : Bool := params.regulatoryBands.toList.getD (band - 1) 0 != 0

/-- **The HT40 flags of the tables**: the flag of a channel is clear just when a table that is there has a
valid entry for it, and nothing else is changed. -/
def Ht40Right (params : IwlEepromParams) (eeprom : Eeprom) (before after : List Ieee80211Channel) : Prop :=
  after = before.map fun chan =>
    { chan with
      noHt40Plus := !tablesSee params eeprom ([6, 7].filter (hasHt40 params)) .plus (chan.band, chan.hwValue)
      noHt40Minus := !tablesSee params eeprom ([6, 7].filter (hasHt40 params)) .minus (chan.band, chan.hwValue) }

/-- What is read in place of a table that is not there has no valid entry for a channel in use. -/
def StrayHidden (params : IwlEepromParams) (eeprom : Eeprom) : Prop :=
  ∀ band ∈ [6, 7], hasHt40 params band = false →
    ∀ flag, ∀ key ∈ keysOf (tableChannels params eeprom), tablesSee params eeprom [band] flag key = false

section Ht40

variable {seen first second : Ht40Flag → Nl80211Band × Nat → Bool} {channels : List Ieee80211Channel}

theorem cleared_cleared (chan : Ieee80211Channel) :
    (chan.cleared first).cleared second = chan.cleared fun flag key => first flag key || second flag key := by
  unfold Ieee80211Channel.cleared
  simp only [Bool.not_or, Bool.and_assoc]

theorem keysOf_cleared (channels : List Ieee80211Channel) :
    keysOf (channels.map (·.cleared seen)) = keysOf channels := by
  unfold keysOf
  rw [List.map_map]
  rfl

/-- Nothing is seen. -/
theorem map_cleared_none (none : ∀ flag, ∀ key ∈ keysOf channels, seen flag key = false) :
    channels.map (·.cleared seen) = channels := by
  refine (List.map_congr_left fun chan member => ?_).trans (List.map_id channels)
  have used : (chan.band, chan.hwValue) ∈ keysOf channels := List.mem_map_of_mem member
  simp [Ieee80211Channel.cleared, none _ _ used]

/-- Where at most one element is looked for, the first one is all of them. -/
theorem modify_found {α : Type} {p : α → Bool} {f : α → α} {as : List α}
    (once : as.Pairwise fun a b => ¬ (p a = true ∧ p b = true)) :
    (as.findIdx? p).elim as (as.modify · f) = as.map fun a => if p a then f a else a := by
  induction as with
  | nil => rfl
  | cons a later ih =>
    rw [List.pairwise_cons] at once
    rw [List.findIdx?_cons, List.map_cons]
    by_cases here : p a = true
    · have others : (later.map fun b => if p b then f b else b) = later := by
        refine Eq.trans (List.map_congr_left fun b member => ?_) (List.map_id later)
        exact if_neg fun there => once.1 b member ⟨here, there⟩
      rw [if_pos here, if_pos here, Option.elim_some, List.modify_zero_cons, others]
    · rw [if_neg here, if_neg here, ← ih once.2]
      cases later.findIdx? p with
      | none => rfl
      | some i => rfl

@[simp] theorem plus_beq_minus : (Ht40Flag.plus == Ht40Flag.minus) = false := rfl

@[simp] theorem minus_beq_plus : (Ht40Flag.minus == Ht40Flag.plus) = false := rfl

theorem cleared_one (flag : Ht40Flag) (band : Nl80211Band) (channel : Nat) (valid : Bool)
    (chan : Ieee80211Channel) :
    chan.cleared (fun other key => other == flag && (key == (band, channel) && valid)) =
      if (chan.band == band && chan.hwValue == channel) && valid then chan.clear flag else chan := by
  have key : ((chan.band, chan.hwValue) == (band, channel)) = (chan.band == band && chan.hwValue == channel) := rfl
  unfold Ieee80211Channel.cleared Ieee80211Channel.clear
  dsimp only
  rw [key]
  cases (chan.band == band && chan.hwValue == channel) && valid with
  | false => simp
  | true => cases flag <;> simp

/-- **One flag of one pair.** -/
theorem modHt40_gives (eeprom : Eeprom) (log : Bool) (once : (keysOf channels).Nodup) (band : Nl80211Band)
    (channel : Nat) (entry : Option Nat) (flag : Ht40Flag) :
    Gives (iwlModHt40ChanInfo eeprom log channels band channel entry flag)
      (· = channels.map (·.cleared fun other key =>
        other == flag && (key == (band, channel) && channelValid (fieldAt eeprom entry 0 1)))) := by
  have alone : channels.Pairwise fun a b => ¬ ((a.band == band && a.hwValue == channel) = true ∧
      (b.band == band && b.hwValue == channel) = true) := by
    unfold keysOf at once
    refine (List.pairwise_map.mp once).imp fun apart both => apart ?_
    simp only [Bool.and_eq_true, beq_iff_eq] at both
    rw [both.1.1, both.1.2, both.2.1, both.2.2]
  unfold iwlModHt40ChanInfo
  cases found : channels.findIdx? fun chan => chan.band == band && chan.hwValue == channel with
  | none =>
    refine gives_ok ((List.map_congr_left fun chan member => ?_).trans (List.map_id channels)).symm
    have other := List.findIdx?_eq_none_iff.mp found chan member
    rw [cleared_one, other]
    rfl
  | some i =>
    have cleared (flags : Nat) : (if channelValid flags then channels.modify i (·.clear flag) else channels) =
        channels.map
          (·.cleared fun other key => other == flag && (key == (band, channel) && channelValid flags)) := by
      have all := modify_found (f := (·.clear flag)) alone
      rw [found, Option.elim_some] at all
      simp only [cleared_one]
      cases channelValid flags with
      | false => simp
      | true => simpa using all
    refine (deref_gives _ _ _ _).followed (gives_ite (fun _ => gives_then fun _ => ?_) fun _ => ?_)
    · exact gives_ok (cleared _)
    · exact gives_ok (cleared _)

/-- **The pairs of a table**, from one index on. -/
theorem readHt40Band_gives (eeprom : Eeprom) (log : Bool) (chInfo : Option Nat) (band : Nl80211Band) (chIdx : Nat)
    (pairs : List Nat) (once : (keysOf channels).Nodup) :
    Gives (readHt40Band eeprom log chInfo band chIdx pairs channels)
      (· = channels.map
        (·.cleared fun flag key => (pairs.zipIdx chIdx).any (entrySees eeprom chInfo band flag key))) := by
  induction pairs generalizing chIdx channels with
  | nil => exact gives_ok (map_cleared_none fun _ _ _ => rfl).symm
  | cons channel later ih =>
    unfold readHt40Band
    refine (modHt40_gives eeprom log once _ _ _ _).followed ?_
    have lowerOnce := once
    rw [← keysOf_cleared] at lowerOnce
    refine (modHt40_gives eeprom log lowerOnce _ _ _ _).followed ?_
    have upperOnce := lowerOnce
    rw [← keysOf_cleared] at upperOnce
    refine (ih (chIdx + 1) upperOnce).mono fun found same => same.trans ?_
    rw [List.map_map, List.map_map]
    refine List.map_congr_left fun chan _ => ?_
    rw [Function.comp_apply, Function.comp_apply, cleared_cleared, cleared_cleared]
    congr 1
    funext flag key
    rw [List.zipIdx_cons, List.any_cons]
    cases flag <;> simp [entrySees, flagChannel]

/-- **The tables** one after another. -/
theorem readHt40Bands_gives (params : IwlEepromParams) (eeprom : Eeprom) (log : Bool) (bands : List Nat)
    (once : (keysOf channels).Nodup) :
    Gives (readHt40Bands params eeprom log bands channels)
      (· = channels.map (·.cleared (tablesSee params eeprom bands))) := by
  induction bands generalizing channels with
  | nil => exact gives_ok (map_cleared_none fun _ _ _ => rfl).symm
  | cons band later ih =>
    unfold readHt40Bands iwlInitBandReference
    rw [queryAddr_eq, ok_bind]
    refine (readHt40Band_gives eeprom log _ _ 0 (eepromChArray band) once).followed ?_
    have foundOnce := once
    rw [← keysOf_cleared] at foundOnce
    refine (ih foundOnce).mono fun last same => same.trans ?_
    rw [List.map_map]
    refine List.map_congr_left fun chan _ => ?_
    rw [Function.comp_apply, cleared_cleared]
    rfl

/-- A table has entries for one band only. -/
theorem tablesSee_band {bands : List Nat} {flag : Ht40Flag} {key : Nl80211Band × Nat}
    (sees : tablesSee params eeprom bands flag key = true) : ∃ band ∈ bands, key.1 = ht40Band band := by
  obtain ⟨band, listed, entries⟩ := List.any_eq_true.mp sees
  obtain ⟨entry, _, here⟩ := List.any_eq_true.mp entries
  unfold entrySees at here
  rw [Bool.and_eq_true, beq_iff_eq] at here
  refine ⟨band, listed, ?_⟩
  rw [here.1]

/-- **The tables that are there** see what all tables see just when those that are not there see nothing. -/
theorem tablesSee_there_iff (flag : Ht40Flag) (key : Nl80211Band × Nat) :
    tablesSee params eeprom [6, 7] flag key = tablesSee params eeprom ([6, 7].filter (hasHt40 params)) flag key ↔
      ∀ band ∈ [6, 7], hasHt40 params band = false → tablesSee params eeprom [band] flag key = false := by
  have both : ¬ (tablesSee params eeprom [6] flag key = true ∧ tablesSee params eeprom [7] flag key = true) := by
    rintro ⟨low, high⟩
    obtain ⟨_, one, ghz2⟩ := tablesSee_band low
    obtain ⟨_, other, ghz5⟩ := tablesSee_band high
    rw [List.mem_singleton.mp one] at ghz2
    rw [ghz2, List.mem_singleton.mp other] at ghz5
    cases ghz5
  have all : tablesSee params eeprom [6, 7] flag key =
      (tablesSee params eeprom [6] flag key || tablesSee params eeprom [7] flag key) := by
    simp [tablesSee]
  have there : tablesSee params eeprom ([6, 7].filter (hasHt40 params)) flag key =
      (hasHt40 params 6 && tablesSee params eeprom [6] flag key ||
        hasHt40 params 7 && tablesSee params eeprom [7] flag key) := by
    cases low : hasHt40 params 6 <;> cases high : hasHt40 params 7 <;> simp [tablesSee, low, high]
  rw [all, there]
  simp only [List.forall_mem_cons]
  revert both
  cases tablesSee params eeprom [6] flag key <;> cases tablesSee params eeprom [7] flag key <;>
    cases hasHt40 params 6 <;> cases hasHt40 params 7 <;> simp

/-- What the tables do to channels without HT40. -/
theorem ht40Right_cleared_iff (plain : ∀ chan ∈ channels, unflagged chan = chan) :
    Ht40Right params eeprom channels (channels.map (·.cleared seen)) ↔ ∀ flag, ∀ key ∈ keysOf channels,
      seen flag key = tablesSee params eeprom ([6, 7].filter (hasHt40 params)) flag key := by
  have flags : ∀ chan ∈ channels, chan.noHt40Plus = true ∧ chan.noHt40Minus = true := by
    intro chan member
    rw [← plain chan member]
    exact ⟨rfl, rfl⟩
  unfold Ht40Right
  rw [List.map_inj_left]
  constructor
  · intro right flag key used
    obtain ⟨chan, member, rfl⟩ := List.mem_map.mp used
    have here := right chan member
    unfold Ieee80211Channel.cleared at here
    rw [(flags chan member).1, (flags chan member).2, Bool.true_and, Bool.true_and] at here
    cases flag with
    | plus => exact Bool.not_inj (congrArg (·.noHt40Plus) here)
    | minus => exact Bool.not_inj (congrArg (·.noHt40Minus) here)
  · intro sees chan member
    have used : (chan.band, chan.hwValue) ∈ keysOf channels := List.mem_map_of_mem member
    unfold Ieee80211Channel.cleared
    rw [(flags chan member).1, (flags chan member).2, Bool.true_and, Bool.true_and, sees .plus _ used,
      sees .minus _ used]

/-- **When the HT40 flags are those of the tables**: just when neither band has a table, or what is read in
place of one that is not there does not show. -/
theorem ht40Right_iff {log : Bool} {validTxAnt : Nat} {maxTxPwrHalfDbm : Int} {power : TxPower}
    (mapped : iwlInitChannelMap params eeprom log validTxAnt maxTxPwrHalfDbm = .ok power) :
    (∃ before, beforeHt40 params eeprom log validTxAnt maxTxPwrHalfDbm = .ok before ∧
        Ht40Right params eeprom before.channels power.channels) ↔
      noHt40Bands params = true ∨ StrayHidden params eeprom := by
  rw [initChannelMap_eq] at mapped
  obtain ⟨before, first, rest⟩ := bind_eq_ok mapped
  obtain ⟨keys, plain⟩ := beforeHt40_gives _ _ _ before first
  rw [first]
  have here : (∃ other, (.ok before : Outcome EepromError TxPower) = .ok other ∧
      Ht40Right params eeprom other.channels power.channels) ↔
      Ht40Right params eeprom before.channels power.channels := by
    constructor
    · rintro ⟨_, ⟨⟩, right⟩
      exact right
    · exact fun right => ⟨before, rfl, right⟩
  rw [here]
  by_cases none : noHt40Bands params = true
  · rw [if_pos none] at rest
    obtain rfl := Except.ok.inj rest
    refine iff_of_true ?_ (.inl none)
    have tables : [6, 7].filter (hasHt40 params) = [] := by
      unfold noHt40Bands at none
      rw [Bool.and_eq_true, beq_iff_eq, beq_iff_eq] at none
      simp [hasHt40, List.getD_eq_getElem?_getD, none.1, none.2]
    have unchanged :
        Ht40Right params eeprom before.channels (before.channels.map (·.cleared fun _ _ => false)) := by
      rw [ht40Right_cleared_iff plain, tables]
      exact fun _ _ _ => rfl
    rwa [map_cleared_none fun _ _ _ => rfl] at unchanged
  · rw [if_neg none] at rest
    obtain ⟨channels, read, same⟩ := bind_eq_ok rest
    obtain rfl := Except.ok.inj same
    have once := tableChannels_nodup params eeprom
    rw [← keys] at once
    rw [readHt40Bands_gives params eeprom log [6, 7] once channels read, ht40Right_cleared_iff plain,
      or_iff_right none]
    unfold StrayHidden
    rw [← keys]
    simp only [tablesSee_there_iff]
    exact ⟨fun all band listed missing flag key used => all flag key used band listed missing,
      fun all flag key used band listed missing => all band listed missing flag key used⟩

theorem ht40Right_iff_sample :
    (∃ before, beforeHt40 sampleParams sampleImage false 3 0 = .ok before ∧
        Ht40Right sampleParams sampleImage before.channels sampleData.channels) ↔
      noHt40Bands sampleParams = true ∨ StrayHidden sampleParams sampleImage :=
  @ht40Right_iff sampleImage sampleParams false 3 0 ⟨sampleData.channels, 31⟩ (by decide +kernel)

/-- A device of the 2000 series, whose HT40 channels are all in the 2.4 GHz band. -/
def ghz2Ht40Params : IwlEepromParams := ⟨#v[0x08, 0x26, 0x42, 0x5C, 0x74, 0x80, 0x00], true⟩

/-- An image with the channel 36, and with the bit of a valid entry in its first byte. -/
def strayImage : Eeprom := [0x01] ++ List.replicate 67 0 ++ [0x01, 0] ++ List.replicate 534 0

/-- Its channel 36 may be widened upwards, as if there were a table with an entry for it. -/
theorem stray_shows :
    ∃ power, iwlInitChannelMap ghz2Ht40Params strayImage false 3 0 = .ok power ∧
      ¬ ∃ before, beforeHt40 ghz2Ht40Params strayImage false 3 0 = .ok before ∧
        Ht40Right ghz2Ht40Params strayImage before.channels power.channels := by
  refine ⟨⟨[⟨36, .ghz5, true, false, false, true, 0⟩], 0⟩, by decide +kernel, ?_⟩
  rintro ⟨before, first, right⟩
  have plain : beforeHt40 ghz2Ht40Params strayImage false 3 0 =
      .ok ⟨[⟨36, .ghz5, true, false, true, true, 0⟩], 0⟩ := by decide +kernel
  obtain rfl := Except.ok.inj (first.symm.trans plain)
  revert right
  unfold Ht40Right
  decide +kernel

end Ht40

end IntelWifi.Nvm
