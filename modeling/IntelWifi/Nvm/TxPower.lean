/-
**The transmit power limits of an EEPROM image.**

The channels of the first five bands come with a limit of their own; the enhanced TX power table raises the
limits of the channels that its valid entries are for. Of each valid entry the best value over the antennas
also goes into `max_tx_pwr_half_dbm`, which nothing sets before: it begins with what `iwh_malloc` gave.

* `readBands_gives`, `enhancedTxpower_gives`: the channels and limits that are read, as functions of the image.
* `parse_channelMap`: the part of a parsed image that comes from `iwl_init_channel_map`.
* `limitsRight_iff`: the limits are right just when the leftover in `max_tx_pwr_half_dbm` does not show.
-/

import IntelWifi.Lib.Folds
import IntelWifi.Nvm.EepromBounds

namespace IntelWifi.Nvm

open Bytes Checked Folds

variable {eeprom : Eeprom}

/-! ### The channels -/

/-- An entry of a band's table, with its index: the channel if it is valid. -/
def tableChannel (eeprom : Eeprom) (chInfo : Option Nat) (band : Nat) (entry : Nat × Nat) :
    Option Ieee80211Channel :=
  let flags := fieldAt eeprom chInfo (2 * entry.2) 1
  if channelValid flags then
    some (initChannel band entry.1 flags (fieldAt eeprom chInfo (2 * entry.2 + 1) 1))
  else none

/-- The valid channels of a band, in the order of its table. -/
def bandChannels (params : IwlEepromParams) (eeprom : Eeprom) (band : Nat) : List Ieee80211Channel :=
  (eepromChArray band).zipIdx.filterMap (tableChannel eeprom (pointerOf eeprom (bandOffset params band)) band)

/-- The valid channels of the first five bands. -/
def tableChannels (params : IwlEepromParams) (eeprom : Eeprom) : List Ieee80211Channel :=
  [1, 2, 3, 4, 5].flatMap (bandChannels params eeprom)

theorem deref_gives (eeprom : Eeprom) (pointer : Option Nat) (offset n : Nat) :
    Gives (deref eeprom pointer offset n) (· = fieldAt eeprom pointer offset n) :=
  (deref_yields ..).gives

theorem readBand_gives (eeprom : Eeprom) (chInfo : Option Nat) (band chIdx : Nat) (hwValues : List Nat)
    (channels : List Ieee80211Channel) :
    Gives (readBand eeprom chInfo band chIdx hwValues channels)
      (· = channels ++ (hwValues.zipIdx chIdx).filterMap (tableChannel eeprom chInfo band)) := by
  induction hwValues generalizing chIdx channels with
  | nil => exact gives_ok (List.append_nil _).symm
  | cons hwValue later ih =>
    unfold readBand
    rw [List.zipIdx_cons, List.filterMap_cons]
    refine (deref_gives _ _ _ _).followed (gives_ite (fun invalid => ?_) (fun valid => ?_))
    · have skips : tableChannel eeprom chInfo band (hwValue, chIdx) = none :=
        if_neg (by simpa using invalid)
      rw [skips]
      exact ih (chIdx + 1) channels
    · have takes : tableChannel eeprom chInfo band (hwValue, chIdx) =
          some (initChannel band hwValue (fieldAt eeprom chInfo (2 * chIdx) 1)
            (fieldAt eeprom chInfo (2 * chIdx + 1) 1)) := if_pos (by simpa using valid)
      rw [takes]
      refine (deref_gives _ _ _ _).followed ((ih (chIdx + 1) _).mono fun found same => same.trans ?_)
      rw [List.append_assoc, List.singleton_append]

/-- **The channels that are read** are the valid ones of the tables. -/
theorem readBands_gives (params : IwlEepromParams) (eeprom : Eeprom) (bands : List Nat)
    (channels : List Ieee80211Channel) :
    Gives (readBands params eeprom bands channels)
      (· = channels ++ bands.flatMap (bandChannels params eeprom)) := by
  induction bands generalizing channels with
  | nil => exact gives_ok (List.append_nil _).symm
  | cons band later ih =>
    unfold readBands iwlInitBandReference
    rw [queryAddr_eq, ok_bind]
    refine (readBand_gives _ _ _ _ _ _).followed ((ih _).mono fun found same => same.trans ?_)
    rw [List.flatMap_cons, List.append_assoc]
    rfl

/-! ### The enhanced TX power table -/

/-- `struct iwl_eeprom_enhanced_txpwr`, without `delta_20_in_40`. -/
structure IwlEepromEnhancedTxpwr where
  flags : Nat
  channel : Nat
  chainAMax : Int
  chainBMax : Int
  chainCMax : Int
  mimo2Max : Int
  mimo3Max : Int

/-- The entry that a pointer reaches. -/
def enhancedTxpwr (eeprom : Eeprom) (entry : Option Nat) : IwlEepromEnhancedTxpwr where
  flags := fieldAt eeprom entry 0 1
  channel := fieldAt eeprom entry 1 1
  chainAMax := s8 (fieldAt eeprom entry 2 1)
  chainBMax := s8 (fieldAt eeprom entry 3 1)
  chainCMax := s8 (fieldAt eeprom entry 4 1)
  mimo2Max := s8 (fieldAt eeprom entry 6 1)
  mimo3Max := s8 (fieldAt eeprom entry 7 1)

/-- The values of an entry that count with these antennas: those of the valid chains, and the one for as many
chains together. -/
def antennaValues (validTxAnt : Nat) (txp : IwlEepromEnhancedTxpwr) : List Int :=
  (if validTxAnt.testBit 0 then [txp.chainAMax] else []) ++
    ((if validTxAnt.testBit 1 then [txp.chainBMax] else []) ++
      ((if validTxAnt.testBit 2 then [txp.chainCMax] else []) ++
        ((if validTxAnt == 3 || validTxAnt == 6 || validTxAnt == 5 then [txp.mimo2Max] else []) ++
          if validTxAnt == 7 then [txp.mimo3Max] else [])))

/-- The best antenna value of an entry, in half dBm, or 0. -/
def bestAntenna (validTxAnt : Nat) (txp : IwlEepromEnhancedTxpwr) : Int :=
  (antennaValues validTxAnt txp).foldl max 0

/-- Half dBm as dBm, rounded up. -/
def roundedDbm (halfDbm : Int) : Int := (halfDbm + 1) / 2

/-- The entry limits the channel: it is for its band, for its number if it is for one, and not for 40 MHz. -/
def limits (txp : IwlEepromEnhancedTxpwr) (chan : Ieee80211Channel) : Bool :=
  (txp.channel == 0 || chan.hwValue == txp.channel) &&
    (if txp.flags.testBit 1 then Nl80211Band.ghz5 else .ghz2) == chan.band && !txp.flags.testBit 3

/-- The limit of a channel after these entries. -/
def channelLimit (validTxAnt : Nat) (entries : List IwlEepromEnhancedTxpwr) (chan : Ieee80211Channel) : Int :=
  ((entries.filter (limits · chan)).map fun txp => roundedDbm (bestAntenna validTxAnt txp)).foldl max chan.maxPower

/-- Channels and limit after these entries. -/
def limited (validTxAnt : Nat) (entries : List IwlEepromEnhancedTxpwr) (power : TxPower) : TxPower where
  channels := power.channels.map fun chan => { chan with maxPower := channelLimit validTxAnt entries chan }
  maxTxPwrHalfDbm := (entries.map (bestAntenna validTxAnt)).foldl max power.maxTxPwrHalfDbm

/-- The table from one index on, with so many entries. -/
def txpTable (eeprom : Eeprom) (idx rounds : Nat) : List IwlEepromEnhancedTxpwr :=
  (List.range' idx rounds).map fun i =>
    enhancedTxpwr eeprom ((pointerOf eeprom eepromTxpOffs).map (· + 8 * i))

/-- The entries that are flagged valid. -/
def validTxp (entries : List IwlEepromEnhancedTxpwr) : List IwlEepromEnhancedTxpwr :=
  entries.filter fun txp => txp.flags.testBit 0

/-- The number of entries, which the image gives as a number of words. -/
def txpCount (eeprom : Eeprom) : Nat := fieldAt eeprom (pointerOf eeprom eepromTxpSzOffs) 0 2 * 2 / 8

section Limits

variable {validTxAnt : Nat} {txp : IwlEepromEnhancedTxpwr} {power : TxPower}

theorem s8_range (eeprom : Eeprom) (entry : Option Nat) (offset : Nat) :
    s8 (fieldAt eeprom entry offset 1) ≤ 127 := by
  have small : fieldAt eeprom entry offset 1 < 256 := leAt_lt ..
  unfold s8
  split <;> omega

/-- A value fits an `s8`. -/
theorem bestAntenna_range (eeprom : Eeprom) (entry : Option Nat) (validTxAnt : Nat) :
    0 ≤ bestAntenna validTxAnt (enhancedTxpwr eeprom entry) ∧
      bestAntenna validTxAnt (enhancedTxpwr eeprom entry) ≤ 127 := by
  refine ⟨le_foldl_max_iff.mpr (Or.inl (Int.le_refl 0)), foldl_max_le_iff.mpr ⟨by decide, ?_⟩⟩
  unfold antennaValues enhancedTxpwr
  simp only [List.forall_mem_append]
  have one (looked : Bool) (offset : Nat) :
      ∀ value ∈ (if looked then [s8 (fieldAt eeprom entry offset 1)] else []), value ≤ 127 := by
    cases looked with
    | false => exact fun _ none => absurd none List.not_mem_nil
    | true =>
      intro value member
      rw [List.mem_singleton.mp member]
      exact s8_range ..
  exact ⟨one _ _, one _ _, one _ _, one _ _, one _ _⟩

theorem toS8_rounded {halfDbm : Int} (nonneg : 0 ≤ halfDbm) (small : halfDbm ≤ 127) :
    toS8 (roundedDbm halfDbm) = roundedDbm halfDbm := by
  unfold toS8 s8 roundedDbm
  split <;> omega

theorem chainPower_gives (eeprom : Eeprom) (entry : Option Nat) (offset : Nat) (looked : Bool) (result : Int) :
    Gives (chainPower eeprom entry offset looked result)
      (· = (if looked then [s8 (fieldAt eeprom entry offset 1)] else []).foldl max result) := by
  unfold chainPower
  cases looked with
  | false => exact gives_ok rfl
  | true =>
    refine (deref_gives _ _ _ _).followed (gives_ok ?_)
    show _ = max result (s8 (fieldAt eeprom entry offset 1))
    split <;> omega

/-- **`iwl_get_max_txpwr_half_dbm`** is the best antenna value. -/
theorem getMaxTxpwr_gives (eeprom : Eeprom) (validTxAnt : Nat) (entry : Option Nat) :
    Gives (iwlGetMaxTxpwrHalfDbm eeprom validTxAnt entry)
      (· = bestAntenna validTxAnt (enhancedTxpwr eeprom entry)) := by
  unfold iwlGetMaxTxpwrHalfDbm bestAntenna antennaValues
  simp only [List.foldl_append]
  exact (chainPower_gives _ _ _ _ _).followed <| (chainPower_gives _ _ _ _ _).followed <|
    (chainPower_gives _ _ _ _ _).followed <| (chainPower_gives _ _ _ _ _).followed <|
      chainPower_gives _ _ _ _ _

/-- What `iwl_eeprom_enh_txp_read_element` does to a channel. -/
theorem enhTxpChannel_eq (validTxAnt : Nat) (txp : IwlEepromEnhancedTxpwr) (chan : Ieee80211Channel) :
    enhTxpChannel txp.flags txp.channel (roundedDbm (bestAntenna validTxAnt txp)) chan =
      { chan with maxPower := channelLimit validTxAnt [txp] chan } := by
  have kept (stays : limits txp chan = false) :
      { chan with maxPower := channelLimit validTxAnt [txp] chan } = chan := by
    simp [channelLimit, stays]
  unfold enhTxpChannel
  by_cases other : txp.channel ≠ 0 ∧ chan.hwValue ≠ txp.channel
  · rw [if_pos other, kept]
    unfold limits
    rw [beq_false_of_ne other.1, beq_false_of_ne other.2]
    rfl
  rw [if_neg other]
  by_cases apart : (if txp.flags.testBit 1 then Nl80211Band.ghz5 else .ghz2) ≠ chan.band
  · rw [if_pos apart, kept]
    unfold limits
    rw [beq_false_of_ne apart, Bool.and_false, Bool.false_and]
  rw [if_neg apart]
  have number : (txp.channel == 0 || chan.hwValue == txp.channel) = true := by
    simp only [Bool.or_eq_true, beq_iff_eq]
    by_contra neither
    exact other (not_or.mp neither)
  cases wide : txp.flags.testBit 3 with
  | true =>
    rw [if_neg (fun both => nomatch both.2), kept]
    unfold limits
    rw [wide, Bool.not_true, Bool.and_false]
  | false =>
    have meant : limits txp chan = true := by
      unfold limits
      rw [number, beq_iff_eq.mpr (not_not.mp apart), wide]
      rfl
    have limit : channelLimit validTxAnt [txp] chan =
        max chan.maxPower (roundedDbm (bestAntenna validTxAnt txp)) := by
      simp [channelLimit, meant]
    rw [limit]
    by_cases below : chan.maxPower < roundedDbm (bestAntenna validTxAnt txp)
    · rw [if_pos ⟨below, rfl⟩, Int.max_eq_right (Int.le_of_lt below)]
    · rw [if_neg fun both => below both.1, Int.max_eq_left (Int.not_lt.mp below)]

theorem readElement_gives (eeprom : Eeprom) (validTxAnt : Nat) (entry : Option Nat)
    (channels : List Ieee80211Channel) :
    Gives (iwlEepromEnhTxpReadElement eeprom entry (fieldAt eeprom entry 0 1)
        (roundedDbm (bestAntenna validTxAnt (enhancedTxpwr eeprom entry))) channels)
      (· = channels.map fun chan =>
        { chan with maxPower := channelLimit validTxAnt [enhancedTxpwr eeprom entry] chan }) := by
  unfold iwlEepromEnhTxpReadElement
  cases channels with
  | nil => exact gives_ok rfl
  | cons chan later =>
    refine (deref_gives _ _ _ _).followed (gives_ok (congrArg (List.map · (chan :: later)) ?_))
    funext chan
    exact enhTxpChannel_eq validTxAnt (enhancedTxpwr eeprom entry) chan

/-- **One turn of the loop**: a valid entry limits, an invalid one does nothing. -/
theorem txpEntry_gives (eeprom : Eeprom) (log : Bool) (validTxAnt : Nat) (entry : Option Nat) (power : TxPower) :
    Gives (txpEntry eeprom log validTxAnt entry power)
      (· = limited validTxAnt (validTxp [enhancedTxpwr eeprom entry]) power) := by
  unfold txpEntry
  refine (deref_gives _ _ _ _).followed (gives_ite (fun invalid => gives_ok ?_) (fun valid => ?_))
  · have none : validTxp [enhancedTxpwr eeprom entry] = [] :=
      List.filter_cons_of_neg (by simpa [enhancedTxpwr] using invalid)
    rw [none]
    unfold limited channelLimit
    exact TxPower.ext (List.map_id _).symm rfl
  · have here : validTxp [enhancedTxpwr eeprom entry] = [enhancedTxpwr eeprom entry] :=
      List.filter_cons_of_pos (by simpa [enhancedTxpwr] using valid)
    obtain ⟨nonneg, small⟩ := bestAntenna_range eeprom entry validTxAnt
    rw [here]
    refine gives_then fun _ => (getMaxTxpwr_gives _ _ _).followed ?_
    have rounded := toS8_rounded nonneg small
    unfold roundedDbm at rounded
    rw [rounded]
    refine (readElement_gives _ _ _ _).followed (gives_ok (TxPower.ext rfl ?_))
    show _ = max power.maxTxPwrHalfDbm (bestAntenna validTxAnt (enhancedTxpwr eeprom entry))
    dsimp only
    split <;> omega

/-- Entries one after another. -/
theorem limited_limited (first later : List IwlEepromEnhancedTxpwr) :
    limited validTxAnt later (limited validTxAnt first power) = limited validTxAnt (first ++ later) power := by
  unfold limited
  dsimp only
  rw [List.map_map, List.map_append, List.foldl_append]
  refine TxPower.ext (congrArg (List.map · power.channels) ?_) rfl
  funext chan
  unfold channelLimit
  rw [List.filter_append, List.map_append, List.foldl_append]
  rfl

theorem txpEntries_gives (eeprom : Eeprom) (log : Bool) (validTxAnt rounds idx : Nat) (power : TxPower) :
    Gives (txpEntries eeprom log validTxAnt (pointerOf eeprom eepromTxpOffs) rounds idx power)
      (· = limited validTxAnt (validTxp (txpTable eeprom idx rounds)) power) := by
  induction rounds generalizing idx power with
  | zero =>
    refine gives_ok (TxPower.ext ?_ rfl)
    exact (List.map_id _).symm
  | succ rounds ih =>
    unfold txpEntries
    refine (txpEntry_gives _ _ _ _ _).followed ((ih (idx + 1) _).mono fun last same => same.trans ?_)
    rw [limited_limited]
    unfold validTxp txpTable
    rw [← List.filter_append, List.range'_succ, List.map_cons, List.singleton_append]

/-- **The enhanced table** limits by its valid entries. -/
theorem enhancedTxpower_gives (eeprom : Eeprom) (log : Bool) (validTxAnt : Nat) (power : TxPower) :
    Gives (iwlEepromEnhancedTxpower eeprom log validTxAnt power)
      (· = limited validTxAnt (validTxp (txpTable eeprom 0 (txpCount eeprom))) power) := by
  unfold iwlEepromEnhancedTxpower
  rw [queryAddr_eq, ok_bind, queryAddr_eq]
  exact (deref_gives _ _ _ _).followed (txpEntries_gives _ _ _ _ _ _)

end Limits

/-! ### The whole image -/

/-- A channel but for its HT40 flags. -/
def unflagged (chan : Ieee80211Channel) : Ieee80211Channel :=
  { chan with noHt40Plus := true, noHt40Minus := true }

theorem modHt40_unflagged (eeprom : Eeprom) (log : Bool) (channels : List Ieee80211Channel)
    (band : Nl80211Band) (channel : Nat) (entry : Option Nat) (flag : Ht40Flag) :
    Gives (iwlModHt40ChanInfo eeprom log channels band channel entry flag)
      (fun found => found.map unflagged = channels.map unflagged) := by
  unfold iwlModHt40ChanInfo
  cases channels.findIdx? fun chan => chan.band == band && chan.hwValue == channel with
  | none => exact gives_ok rfl
  | some i =>
    have same (flags : Nat) :
        (if channelValid flags then channels.modify i (·.clear flag) else channels).map unflagged =
          channels.map unflagged := by
      split
      · exact map_clear (fun chan => by cases flag <;> rfl) channels i
      · rfl
    refine gives_then fun flags => gives_ite (fun _ => gives_then fun _ => ?_) fun _ => ?_
    · exact gives_ok (same flags)
    · exact gives_ok (same flags)

theorem readHt40Band_unflagged (eeprom : Eeprom) (log : Bool) (chInfo : Option Nat) (band : Nl80211Band)
    (chIdx : Nat) (pairs : List Nat) (channels : List Ieee80211Channel) :
    Gives (readHt40Band eeprom log chInfo band chIdx pairs channels)
      (fun found => found.map unflagged = channels.map unflagged) := by
  induction pairs generalizing chIdx channels with
  | nil => exact gives_ok rfl
  | cons channel later ih =>
    refine gives_bind (modHt40_unflagged _ _ _ _ _ _ _) fun lower first => ?_
    refine gives_bind (modHt40_unflagged _ _ _ _ _ _ _) fun upper second => ?_
    exact (ih (chIdx + 1) upper).mono fun last rest => rest.trans (second.trans first)

/-- **The HT40 tables** change nothing but HT40 flags. -/
theorem readHt40Bands_unflagged (params : IwlEepromParams) (eeprom : Eeprom) (log : Bool) (bands : List Nat)
    (channels : List Ieee80211Channel) :
    Gives (readHt40Bands params eeprom log bands channels)
      (fun found => found.map unflagged = channels.map unflagged) := by
  induction bands generalizing channels with
  | nil => exact gives_ok rfl
  | cons band later ih =>
    refine gives_then fun chInfo => gives_bind (readHt40Band_unflagged _ _ _ _ _ _ _) fun found first => ?_
    exact (ih found).mono fun last rest => rest.trans first

/-- The part of a parsed image that comes from `iwl_init_channel_map`. -/
theorem parse_channelMap {cfg : IwlCfg} {params : IwlEepromParams} (data : IwlNvmData)
    (configured : cfg.eepromParams = some params) :
    Gives (iwlParseEepromData cfg (some data) eeprom) fun out => ∃ power,
      iwlInitChannelMap params eeprom cfg.log (txAntennas cfg eeprom) data.maxTxPwrHalfDbm = .ok power ∧
        out.channels = power.channels ∧ out.maxTxPwrHalfDbm = power.maxTxPwrHalfDbm ∧
        out.validTxAnt = txAntennas cfg eeprom := by
  unfold iwlParseEepromData
  rw [configured]
  simp only [query16_eq, ok_bind]
  refine gives_then fun _ => gives_then fun _ => gives_then fun _ => gives_then fun _ => gives_then fun _ => ?_
  refine gives_then fun _ => gives_then fun _ => gives_then fun _ => gives_then fun _ => gives_then fun _ => ?_
  refine gives_ite (fun _ _ stopped => (nomatch stopped)) fun _ => ?_
  exact gives_bind (fun power same => same) fun power same => gives_ok ⟨power, same, rfl, rfl, rfl⟩

/-- The channel map, where there is an enhanced table. -/
theorem initChannelMap_enhanced {params : IwlEepromParams} (enhanced : params.enhancedTxpower = true)
    (log : Bool) (validTxAnt : Nat) (maxTxPwrHalfDbm : Int) :
    Gives (iwlInitChannelMap params eeprom log validTxAnt maxTxPwrHalfDbm) fun power =>
      power.channels.map unflagged = (limited validTxAnt (validTxp (txpTable eeprom 0 (txpCount eeprom)))
        ⟨tableChannels params eeprom, maxTxPwrHalfDbm⟩).channels.map unflagged ∧
      power.maxTxPwrHalfDbm = (limited validTxAnt (validTxp (txpTable eeprom 0 (txpCount eeprom)))
        ⟨tableChannels params eeprom, maxTxPwrHalfDbm⟩).maxTxPwrHalfDbm := by
  have table (power : TxPower) : initTxPower params eeprom log validTxAnt power =
      iwlEepromEnhancedTxpower eeprom log validTxAnt power := if_pos enhanced
  unfold iwlInitChannelMap
  simp only [table]
  refine (readBands_gives _ _ _ _).followed ((enhancedTxpower_gives _ _ _ _).followed ?_)
  refine gives_ite (fun _ => gives_ok ⟨rfl, rfl⟩) fun _ => ?_
  exact gives_bind (readHt40Bands_unflagged _ _ _ _ _) fun channels same => gives_ok ⟨same, rfl⟩

/-- **The limits of a parsed image**, channel by channel in the order of the tables: the best antenna value of
the valid entries, and for each channel its own limit or the best of those that are for it. -/
structure LimitsRight (params : IwlEepromParams) (eeprom : Eeprom) (out : IwlNvmData) : Prop where
  most : out.maxTxPwrHalfDbm =
    ((validTxp (txpTable eeprom 0 (txpCount eeprom))).map (bestAntenna out.validTxAnt)).foldl max 0
  channels : keysOf out.channels = keysOf (tableChannels params eeprom)
  maxPower : out.channels.map (·.maxPower) = (tableChannels params eeprom).map
    (channelLimit out.validTxAnt (validTxp (txpTable eeprom 0 (txpCount eeprom))))

/-- What `iwh_malloc` left in `max_tx_pwr_half_dbm` does not show: it is not above the best antenna value, or,
without valid entries, it is zero. -/
def leftoverHidden (eeprom : Eeprom) (validTxAnt : Nat) (leftover : Int) : Prop :=
  match validTxp (txpTable eeprom 0 (txpCount eeprom)) with
  | [] => leftover = 0
  | txp :: later => leftover ≤ ((txp :: later).map (bestAntenna validTxAnt)).foldl max 0

/-- The best value, from the leftover on, is the best one just when the leftover does not show. -/
theorem best_of_leftover (eeprom : Eeprom) (validTxAnt : Nat) (leftover : Int) :
    ((validTxp (txpTable eeprom 0 (txpCount eeprom))).map (bestAntenna validTxAnt)).foldl max leftover =
        ((validTxp (txpTable eeprom 0 (txpCount eeprom))).map (bestAntenna validTxAnt)).foldl max 0 ↔
      leftoverHidden eeprom validTxAnt leftover := by
  unfold leftoverHidden
  cases found : validTxp (txpTable eeprom 0 (txpCount eeprom)) with
  | nil => exact Iff.rfl
  | cons txp later =>
    dsimp only
    have nonneg : 0 ≤ bestAntenna validTxAnt txp := by
      have member : txp ∈ txpTable eeprom 0 (txpCount eeprom) :=
        List.mem_of_mem_filter (found ▸ List.mem_cons_self)
      obtain ⟨i, _, rfl⟩ := List.mem_map.mp member
      exact (bestAntenna_range ..).1
    rw [List.map_cons, List.foldl_cons, List.foldl_cons, List.foldl_assoc, Int.max_eq_right nonneg]
    omega

/-- **When the limits of a parsed image are right**: just when the leftover does not show. -/
theorem limitsRight_iff {cfg : IwlCfg} {params : IwlEepromParams} {data out : IwlNvmData}
    (configured : cfg.eepromParams = some params) (enhanced : params.enhancedTxpower = true)
    (parsed : iwlParseEepromData cfg (some data) eeprom = .ok out) :
    LimitsRight params eeprom out ↔ leftoverHidden eeprom (txAntennas cfg eeprom) data.maxTxPwrHalfDbm := by
  obtain ⟨power, mapped, channels, most, antennas⟩ := parse_channelMap data configured out parsed
  obtain ⟨same, limit⟩ := initChannelMap_enhanced enhanced _ _ _ power mapped
  rw [← best_of_leftover]
  constructor
  · intro right
    have best := right.most
    rw [most, limit, antennas] at best
    exact best
  · intro best
    constructor
    · rw [most, limit, antennas]
      exact best
    · have keys := congrArg (List.map fun chan => (chan.band, chan.hwValue)) same
      rw [List.map_map, List.map_map] at keys
      rw [channels]
      refine keys.trans ?_
      unfold limited keysOf
      rw [List.map_map]
      rfl
    · have powers := congrArg (List.map fun chan => chan.maxPower) same
      rw [List.map_map, List.map_map] at powers
      rw [channels, antennas]
      refine powers.trans ?_
      unfold limited
      rw [List.map_map]
      rfl

/-- A device of the 6000 series. -/
def sampleParams : IwlEepromParams := ⟨#v[0x08, 0x26, 0x42, 0x5C, 0x74, 0x80, 0x92], true⟩

def sampleCfg : IwlCfg := { smallCfg with eepromParams := some sampleParams }

/-- An image with the channel 1 of the 2.4 GHz band, at 12 dBm, and one entry of the enhanced table, for 15.5 dBm
on the chain A. -/
def sampleImage : Eeprom :=
  List.replicate 8 0 ++ [0x09, 12] ++ List.replicate 202 0 ++ [0x80, 0x00, 0x90, 0x00] ++ List.replicate 40 0 ++
    [0x01, 0, 31, 0, 0, 0, 0, 0] ++ List.replicate 24 0 ++ [4, 0] ++ List.replicate 314 0

/-- What is parsed of it, where the memory for the limit held 0 before. -/
def sampleData : IwlNvmData :=
  { zeroNvmData with
    hwAddr := List.replicate 6 0
    xtalCalib := List.replicate 4 0
    validTxAnt := 3
    validRxAnt := 3
    maxTxPwrHalfDbm := 31
    channels := [⟨1, .ghz2, true, false, true, true, 16⟩] }

theorem limitsRight_iff_sample :
    LimitsRight sampleParams sampleImage sampleData ↔
      leftoverHidden sampleImage (txAntennas sampleCfg sampleImage) 0 :=
  @limitsRight_iff _ sampleCfg _ zeroNvmData _ rfl rfl (by decide +kernel)

/-- Where the memory held 100, the limit is 50 dBm. -/
theorem leftover_shows :
    ∃ out, iwlParseEepromData sampleCfg (some { zeroNvmData with maxTxPwrHalfDbm := 100 }) sampleImage = .ok out ∧
      ¬ LimitsRight sampleParams sampleImage out := by
  refine ⟨{ sampleData with maxTxPwrHalfDbm := 100 }, by decide +kernel, fun right => ?_⟩
  have most := right.most
  revert most
  decide +kernel

end IntelWifi.Nvm
