/-
**Which bytes of an EEPROM image are read.**

`iwl_eeprom_query_addr` compares the address that it finds with the size of the image, and nothing
compares the end of what is read from there: a field that starts in the last bytes of the image, or a
table that a link moves there, is read past the end. The tables of channels and of TX power are read
also when the query failed.

* `parseEeprom_safe_iff`: every read is inside the image, and no null pointer is followed, exactly when
  each field that is reached and each table fits.
* `parseEeprom_outside`: an image that ends in its MAC address, and one whose regulatory link points
  past the end.
-/

import IntelWifi.Nvm.Eeprom

namespace IntelWifi.Nvm

open Bytes Checked

variable {eeprom : Eeprom} {pointer : Option Nat}

/-! ### Reads -/

/-- What `iwl_eeprom_query16` gives. -/
def wordAt (eeprom : Eeprom) (offset : Nat) : Nat :=
  if eeprom.length < offset + 2 then 0 else leAt eeprom offset 2

/-- The address that `eeprom_indirect_address` finds. -/
def addressOf (eeprom : Eeprom) (address : BitVec 32) : Nat :=
  if address &&& indirectAddress = 0 then address.toNat
  else (address &&& addressMsk).toNat +
    ((eepromLink (address &&& indirectTypeMsk)).elim 0 (wordAt eeprom)) * 2

/-- The pointer that `iwl_eeprom_query_addr` returns. -/
def pointerOf (eeprom : Eeprom) (offset : BitVec 32) : Option Nat :=
  if eeprom.length ≤ addressOf eeprom offset then none else some (addressOf eeprom offset)

theorem query16_eq (eeprom : Eeprom) (offset : Nat) :
    iwlEepromQuery16 eeprom offset = .ok (wordAt eeprom offset) := by
  unfold iwlEepromQuery16 wordAt load
  by_cases short : eeprom.length < offset + 2
  · rw [if_pos short, if_pos short]
  · have inside : Inside eeprom offset 2 := Nat.not_lt.mp short
    rw [if_neg short, if_neg short, if_pos inside]

theorem indirectAddress_eq (eeprom : Eeprom) (address : BitVec 32) :
    eepromIndirectAddress eeprom address = .ok (addressOf eeprom address) := by
  unfold eepromIndirectAddress addressOf
  by_cases direct : address &&& indirectAddress = 0
  · rw [if_pos direct, if_pos direct]
  · rw [if_neg direct, if_neg direct]
    cases eepromLink (address &&& indirectTypeMsk) with
    | none => rfl
    | some link =>
      dsimp only [Option.elim_some]
      rw [query16_eq]
      rfl

theorem queryAddr_eq (eeprom : Eeprom) (offset : BitVec 32) :
    iwlEepromQueryAddr eeprom offset = .ok (pointerOf eeprom offset) := by
  unfold iwlEepromQueryAddr
  rw [indirectAddress_eq]
  rfl

/-- The bytes that a pointer reaches are in the image. -/
def Reaches (eeprom : Eeprom) (pointer : Option Nat) (offset n : Nat) : Prop :=
  ∃ address, pointer = some address ∧ Inside eeprom (address + offset) n

/-- What a pointer reaches. -/
def fieldAt (eeprom : Eeprom) (pointer : Option Nat) (offset n : Nat) : Nat :=
  leAt eeprom (pointer.getD 0 + offset) n

/-- A query that succeeds does not matter where bytes are read that exist. -/
theorem reaches_pointerOf {offset : BitVec 32} {at' n : Nat} (some : 0 < n) :
    Reaches eeprom (pointerOf eeprom offset) at' n ↔ Inside eeprom (addressOf eeprom offset + at') n := by
  unfold Reaches pointerOf Inside
  constructor
  · rintro ⟨address, is, inside⟩
    split at is
    · cases is
    · obtain rfl := Option.some.inj is
      exact inside
  · intro inside
    rw [if_neg (by omega)]
    exact ⟨_, rfl, inside⟩

theorem reaches_map {idx at' n : Nat} :
    Reaches eeprom (pointer.map (· + idx)) at' n ↔ Reaches eeprom pointer (idx + at') n := by
  unfold Reaches
  cases pointer with
  | none => simp
  | some address => simp [Nat.add_assoc]

theorem load_yields (eeprom : Eeprom) (address n : Nat) :
    Yields (load eeprom address n) (Inside eeprom address n) (· = leAt eeprom address n) :=
  ⟨fun inside => ⟨_, if_pos inside, rfl⟩, fun outside => if_neg outside⟩

theorem loadBytes_yields (eeprom : Eeprom) (address n : Nat) :
    Yields (loadBytes eeprom address n) (Inside eeprom address n) fun _ => True :=
  ⟨fun inside => ⟨_, if_pos inside, trivial⟩, fun outside => if_neg outside⟩

theorem deref_yields (eeprom : Eeprom) (pointer : Option Nat) (offset n : Nat) :
    Yields (deref eeprom pointer offset n) (Reaches eeprom pointer offset n)
      (· = fieldAt eeprom pointer offset n) := by
  cases pointer with
  | none => exact ⟨fun ⟨_, is, _⟩ => (nomatch is), fun _ => rfl⟩
  | some address =>
    refine (load_yields eeprom (address + offset) n).congr ⟨fun inside => ⟨address, rfl, inside⟩, ?_⟩
    rintro ⟨_, is, inside⟩
    obtain rfl := Option.some.inj is
    exact inside

/-! ### Channel tables -/

/-- The entry of a channel is in the image: its flags, and its power when it is valid. -/
def ChannelFits (eeprom : Eeprom) (chInfo : Option Nat) (chIdx : Nat) : Prop :=
  Reaches eeprom chInfo (2 * chIdx) 1 ∧
    (channelValid (fieldAt eeprom chInfo (2 * chIdx) 1) = true → Reaches eeprom chInfo (2 * chIdx + 1) 1)

/-- The table of a band is in the image. -/
def BandFits (params : IwlEepromParams) (eeprom : Eeprom) (band : Nat) : Prop :=
  ∀ chIdx hwValue, (eepromChArray band)[chIdx]? = some hwValue →
    ChannelFits eeprom (pointerOf eeprom (bandOffset params band)) chIdx

/-- The channels of a band that are valid, with their bands. -/
def validKeys (eeprom : Eeprom) (chInfo : Option Nat) (band : Nat) :
    Nat → List Nat → List (Nl80211Band × Nat)
  | _, [] => []
  | chIdx, hwValue :: later =>
    (if channelValid (fieldAt eeprom chInfo (2 * chIdx) 1) then
      [(if band = 1 then Nl80211Band.ghz2 else .ghz5, hwValue)] else []) ++
      validKeys eeprom chInfo band (chIdx + 1) later

/-- Which channel of which band. -/
def keysOf (channels : List Ieee80211Channel) : List (Nl80211Band × Nat) :=
  channels.map fun chan => (chan.band, chan.hwValue)

theorem forall_getElem?_cons {α : Type} {P : Nat → α → Prop} {a : α} {later : List α} :
    (∀ i b, (a :: later)[i]? = some b → P i b) ↔ P 0 a ∧ ∀ i b, later[i]? = some b → P (i + 1) b := by
  constructor
  · exact fun all => ⟨all 0 a rfl, fun i b is => all (i + 1) b is⟩
  · rintro ⟨first, rest⟩ i b is
    cases i with
    | zero =>
      obtain rfl := Option.some.inj is
      exact first
    | succ i => exact rest i b is

theorem readBand_yields (eeprom : Eeprom) (chInfo : Option Nat) (band chIdx : Nat) (hwValues : List Nat)
    (channels : List Ieee80211Channel) :
    Yields (readBand eeprom chInfo band chIdx hwValues channels)
      (∀ i hwValue, hwValues[i]? = some hwValue → ChannelFits eeprom chInfo (chIdx + i))
      (fun found => keysOf found = keysOf channels ++ validKeys eeprom chInfo band chIdx hwValues) := by
  induction hwValues generalizing chIdx channels with
  | nil => exact yields_value (by simp [validKeys]) fun _ _ is => (nomatch is)
  | cons hwValue later ih =>
    have next (here : List Ieee80211Channel) :
        Yields (readBand eeprom chInfo band (chIdx + 1) later here)
          (∀ i hwValue, later[i]? = some hwValue → ChannelFits eeprom chInfo (chIdx + (i + 1)))
          (fun found => keysOf found = keysOf here ++ validKeys eeprom chInfo band (chIdx + 1) later) :=
      (ih (chIdx + 1) here).congr (by simp only [Nat.add_assoc, Nat.add_comm 1])
    have turn : Yields (readBand eeprom chInfo band chIdx (hwValue :: later) channels)
        (Reaches eeprom chInfo (2 * chIdx) 1 ∧
          ((!channelValid (fieldAt eeprom chInfo (2 * chIdx) 1)) = true →
            ∀ i hwValue, later[i]? = some hwValue → ChannelFits eeprom chInfo (chIdx + (i + 1))) ∧
          (¬ (!channelValid (fieldAt eeprom chInfo (2 * chIdx) 1)) = true →
            Reaches eeprom chInfo (2 * chIdx + 1) 1 ∧
            ∀ i hwValue, later[i]? = some hwValue → ChannelFits eeprom chInfo (chIdx + (i + 1))))
        (fun found => keysOf found =
          keysOf channels ++ validKeys eeprom chInfo band chIdx (hwValue :: later)) := by
      unfold readBand
      refine (deref_yields ..).bind ?_
      rintro _ rfl
      refine yields_ite (fun invalid => ?_) (fun valid => ?_)
      · refine (next channels).mono fun found keys => ?_
        rw [keys, validKeys, if_neg (by simpa using invalid), List.nil_append]
      · refine (deref_yields ..).bind ?_
        rintro _ rfl
        refine (next _).mono fun found keys => ?_
        rw [keys, validKeys, if_pos (by simpa using valid)]
        simp [keysOf, initChannel]
    refine turn.congr ?_
    rw [forall_getElem?_cons, Nat.add_zero, ChannelFits]
    cases channelValid (fieldAt eeprom chInfo (2 * chIdx) 1) with
    | false => simp
    | true => simp [and_assoc]

/-- The channels that are in use, with their bands. -/
def usedKeys (params : IwlEepromParams) (eeprom : Eeprom) (bands : List Nat) :
    List (Nl80211Band × Nat) :=
  bands.flatMap fun band =>
    validKeys eeprom (pointerOf eeprom (bandOffset params band)) band 0 (eepromChArray band)

theorem readBands_yields (params : IwlEepromParams) (eeprom : Eeprom) (bands : List Nat)
    (channels : List Ieee80211Channel) :
    Yields (readBands params eeprom bands channels) (∀ band ∈ bands, BandFits params eeprom band)
      (fun found => keysOf found = keysOf channels ++ usedKeys params eeprom bands) := by
  induction bands generalizing channels with
  | nil => exact yields_value (by simp [usedKeys]) fun _ is => (nomatch is)
  | cons band later ih =>
    unfold readBands iwlInitBandReference
    rw [queryAddr_eq, ok_bind, List.forall_mem_cons]
    have table := readBand_yields eeprom (pointerOf eeprom (bandOffset params band)) band 0
      (eepromChArray band) channels
    simp only [Nat.zero_add] at table
    refine table.bind fun found keys => (ih found).mono fun last lastKeys => ?_
    rw [lastKeys, keys, List.append_assoc]
    rfl

/-! ### The enhanced TX power table -/

/-- The powers of an entry that are looked at with these antennas. -/
def powerOffsets (validTxAnt : Nat) : List Nat :=
  (if validTxAnt.testBit 0 then [2] else []) ++ (if validTxAnt.testBit 1 then [3] else []) ++
    (if validTxAnt.testBit 2 then [4] else []) ++
    (if validTxAnt == 3 || validTxAnt == 6 || validTxAnt == 5 then [6] else []) ++
    (if validTxAnt == 7 then [7] else [])

/-- An entry is in the image: its flags, and, when it is valid, what is read of the rest. -/
def TxpEntryFits (eeprom : Eeprom) (log : Bool) (validTxAnt : Nat) (anyChannel : Prop)
    (entry : Option Nat) : Prop :=
  Reaches eeprom entry 0 1 ∧ ((fieldAt eeprom entry 0 1).testBit 0 = true →
    (log = true → Reaches eeprom entry 0 8) ∧ (∀ offset ∈ powerOffsets validTxAnt, Reaches eeprom entry offset 1) ∧
      (anyChannel → Reaches eeprom entry 1 1))

/-- The table is in the image: its length, and as many entries as the length says. -/
def TxpFits (eeprom : Eeprom) (log : Bool) (validTxAnt : Nat) (anyChannel : Prop) : Prop :=
  Inside eeprom (addressOf eeprom eepromTxpSzOffs) 2 ∧
    ∀ idx < leAt eeprom (addressOf eeprom eepromTxpSzOffs) 2 * 2 / 8,
      TxpEntryFits eeprom log validTxAnt anyChannel ((pointerOf eeprom eepromTxpOffs).map (· + 8 * idx))

theorem chainPower_yields (eeprom : Eeprom) (entry : Option Nat) (offset : Nat) (looked : Bool)
    (so : Int) :
    Yields (chainPower eeprom entry offset looked so)
      (∀ at' ∈ (if looked then [offset] else []), Reaches eeprom entry at' 1) fun _ => True := by
  unfold chainPower
  cases looked with
  | false => exact (yields_ok trivial).congr (by simp)
  | true =>
    refine ((deref_yields ..).bind fun _ _ => yields_ok trivial).congr ?_
    simp

theorem getMaxTxpwr_yields (eeprom : Eeprom) (validTxAnt : Nat) (entry : Option Nat) :
    Yields (iwlGetMaxTxpwrHalfDbm eeprom validTxAnt entry)
      (∀ offset ∈ powerOffsets validTxAnt, Reaches eeprom entry offset 1) fun _ => True := by
  unfold iwlGetMaxTxpwrHalfDbm
  refine ((chainPower_yields ..).bind fun _ _ => (chainPower_yields ..).bind fun _ _ =>
    (chainPower_yields ..).bind fun _ _ => (chainPower_yields ..).bind fun _ _ =>
      chainPower_yields ..).congr ?_
  unfold powerOffsets
  simp only [List.forall_mem_append, and_assoc]

/-- A power never moves a channel to another number or band. -/
theorem enhTxpChannel_key (flags channel : Nat) (power : Int) (chan : Ieee80211Channel) :
    ((enhTxpChannel flags channel power chan).band, (enhTxpChannel flags channel power chan).hwValue) =
      (chan.band, chan.hwValue) := by
  unfold enhTxpChannel
  split_ifs <;> rfl

theorem readElement_yields (eeprom : Eeprom) (entry : Option Nat) (flags : Nat) (power : Int)
    (channels : List Ieee80211Channel) :
    Yields (iwlEepromEnhTxpReadElement eeprom entry flags power channels)
      (keysOf channels ≠ [] → Reaches eeprom entry 1 1) (keysOf · = keysOf channels) := by
  unfold iwlEepromEnhTxpReadElement
  cases channels with
  | nil =>
    refine yields_value rfl fun some => ?_
    exact absurd rfl some
  | cons chan later =>
    refine ((deref_yields ..).bind fun channel _ => yields_ok ?_).congr ?_
    · unfold keysOf
      rw [List.map_map]
      exact List.map_congr_left fun chan _ => enhTxpChannel_key flags channel power chan
    · simp [keysOf]

theorem logEntry_yields (eeprom : Eeprom) (entry : Option Nat) (log : Bool) :
    Yields (logEntry eeprom entry log) (log = true → Reaches eeprom entry 0 8) fun _ => True := by
  unfold logEntry
  refine (yields_ite (fun _ => (deref_yields ..).bind fun _ _ => yields_ok trivial)
    fun _ => yields_ok trivial).congr ?_
  simp

theorem txpEntry_yields (eeprom : Eeprom) (log : Bool) (validTxAnt : Nat) (entry : Option Nat)
    (power : TxPower) :
    Yields (txpEntry eeprom log validTxAnt entry power)
      (TxpEntryFits eeprom log validTxAnt (keysOf power.channels ≠ []) entry)
      (fun next => keysOf next.channels = keysOf power.channels) := by
  unfold txpEntry TxpEntryFits
  refine (deref_yields ..).bind ?_
  rintro _ rfl
  refine yields_unless (fun _ => rfl) fun _ => ?_
  refine (logEntry_yields ..).bind fun _ _ => (getMaxTxpwr_yields ..).bind fun halfDbm _ => ?_
  refine Yields.congr (?_ : Yields _ (_ ∧ True) _) (and_iff_left trivial)
  exact (readElement_yields ..).bind fun channels keys => yields_ok keys

theorem txpEntries_yields (eeprom : Eeprom) (log : Bool) (validTxAnt : Nat) (txpArray : Option Nat)
    (rounds idx : Nat) (power : TxPower) :
    Yields (txpEntries eeprom log validTxAnt txpArray rounds idx power)
      (∀ i < rounds, TxpEntryFits eeprom log validTxAnt (keysOf power.channels ≠ [])
        (txpArray.map (· + 8 * (idx + i))))
      (fun next => keysOf next.channels = keysOf power.channels) := by
  induction rounds generalizing idx power with
  | zero =>
    refine yields_value rfl fun i below => ?_
    exact absurd below (Nat.not_lt_zero i)
  | succ rounds ih =>
    unfold txpEntries
    rw [Nat.forall_lt_succ_left]
    refine (txpEntry_yields ..).bind fun next keys => ?_
    have rest := (ih (idx + 1) next).mono fun last lastKeys => lastKeys.trans keys
    rw [keys] at rest
    simp only [Nat.add_assoc, Nat.add_comm 1] at rest
    exact rest

theorem enhancedTxpower_yields (eeprom : Eeprom) (log : Bool) (validTxAnt : Nat) (power : TxPower) :
    Yields (iwlEepromEnhancedTxpower eeprom log validTxAnt power)
      (TxpFits eeprom log validTxAnt (keysOf power.channels ≠ []))
      (fun next => keysOf next.channels = keysOf power.channels) := by
  unfold iwlEepromEnhancedTxpower TxpFits
  rw [queryAddr_eq, ok_bind, queryAddr_eq]
  have length : Yields (deref eeprom (pointerOf eeprom eepromTxpSzOffs) 0 2)
      (Inside eeprom (addressOf eeprom eepromTxpSzOffs) 2)
      (fun words => Inside eeprom (addressOf eeprom eepromTxpSzOffs) 2 →
        words = leAt eeprom (addressOf eeprom eepromTxpSzOffs) 2) := by
    refine ((deref_yields ..).congr (reaches_pointerOf (by decide))).mono ?_
    rintro _ rfl inside
    unfold fieldAt pointerOf
    unfold Inside at inside
    rw [if_neg (by omega)]
    rfl
  constructor
  · rintro ⟨inside, entries⟩
    obtain ⟨words, same, is⟩ := length.value inside
    rw [same, ok_bind, ok_bind, is inside]
    have table := txpEntries_yields eeprom log validTxAnt (pointerOf eeprom eepromTxpOffs)
      (leAt eeprom (addressOf eeprom eepromTxpSzOffs) 2 * 2 / 8) 0 power
    simp only [Nat.zero_add] at table
    exact table.value entries
  · intro not
    by_cases inside : Inside eeprom (addressOf eeprom eepromTxpSzOffs) 2
    · obtain ⟨words, same, is⟩ := length.value inside
      rw [same, ok_bind, ok_bind, is inside]
      have table := txpEntries_yields eeprom log validTxAnt (pointerOf eeprom eepromTxpOffs)
        (leAt eeprom (addressOf eeprom eepromTxpSzOffs) 2 * 2 / 8) 0 power
      simp only [Nat.zero_add] at table
      exact table.fault fun entries => not ⟨inside, entries⟩
    · rw [length.fault inside]
      rfl

/-! ### HT40 tables -/

/-- The band of the channels of an EEPROM band. -/
def ht40Band (band : Nat) : Nl80211Band := if band = 6 then .ghz2 else .ghz5

/-- The table of an HT40 band is in the image, where the channels of its pairs are in use. -/
def Ht40Fits (params : IwlEepromParams) (eeprom : Eeprom) (log : Bool)
    (used : Nl80211Band × Nat → Prop) (band : Nat) : Prop :=
  ∀ chIdx channel, (eepromChArray band)[chIdx]? = some channel →
    used (ht40Band band, channel) ∨ used (ht40Band band, channel + 4) →
    Reaches eeprom (pointerOf eeprom (bandOffset params band)) (2 * chIdx) (if log then 2 else 1)

/-- What a flag has no part in is the same when it is cleared. -/
theorem map_clear {α : Type} {f : Ieee80211Channel → α} {flag : Ht40Flag}
    (same : ∀ chan, f (chan.clear flag) = f chan) (channels : List Ieee80211Channel) (i : Nat) :
    (channels.modify i (·.clear flag)).map f = channels.map f := by
  induction channels generalizing i with
  | nil => simp
  | cons chan later ih =>
    cases i with
    | zero => rw [List.modify_zero_cons, List.map_cons, List.map_cons, same]
    | succ i => rw [List.modify_succ_cons, List.map_cons, List.map_cons, ih]

theorem keysOf_clear (channels : List Ieee80211Channel) (i : Nat) (flag : Ht40Flag) :
    keysOf (channels.modify i (·.clear flag)) = keysOf channels :=
  map_clear (fun chan => by cases flag <;> rfl) channels i

theorem mem_keysOf_iff {channels : List Ieee80211Channel} {band : Nl80211Band} {channel : Nat} :
    (band, channel) ∈ keysOf channels ↔
      (channels.findIdx? fun chan => chan.band == band && chan.hwValue == channel).isSome = true := by
  rw [List.findIdx?_isSome, List.any_eq_true]
  simp [keysOf]

theorem modHt40_yields (eeprom : Eeprom) (log : Bool) (channels : List Ieee80211Channel)
    (band : Nl80211Band) (channel : Nat) (entry : Option Nat) (flag : Ht40Flag) :
    Yields (iwlModHt40ChanInfo eeprom log channels band channel entry flag)
      ((band, channel) ∈ keysOf channels → Reaches eeprom entry 0 (if log then 2 else 1))
      (keysOf · = keysOf channels) := by
  unfold iwlModHt40ChanInfo
  rw [mem_keysOf_iff]
  cases channels.findIdx? fun chan => chan.band == band && chan.hwValue == channel with
  | none => exact yields_value rfl fun used => (nomatch used)
  | some i =>
    have keys (flags : Nat) :
        keysOf (if channelValid flags then channels.modify i (·.clear flag) else channels) =
          keysOf channels := by
      split
      · exact keysOf_clear channels i flag
      · rfl
    have both : Reaches eeprom entry 0 1 ∧ Reaches eeprom entry 1 1 ↔ Reaches eeprom entry 0 2 := by
      constructor
      · rintro ⟨_, address, is, inside⟩
        exact ⟨address, is, inside⟩
      · rintro ⟨address, is, inside⟩
        have here : address + 0 + 2 ≤ eeprom.length := inside
        exact ⟨⟨address, is, by unfold Inside; omega⟩, ⟨address, is, inside⟩⟩
    cases log with
    | false =>
      refine ((deref_yields ..).bind fun flags _ => yields_ok (keys flags)).congr ?_
      simp
    | true =>
      refine ((deref_yields ..).bind fun flags _ =>
        (deref_yields ..).bind fun _ _ => yields_ok (keys flags)).congr ?_
      simp [both]

theorem readHt40Band_yields (eeprom : Eeprom) (log : Bool) (chInfo : Option Nat) (band : Nl80211Band)
    (chIdx : Nat) (pairs : List Nat) (channels : List Ieee80211Channel) :
    Yields (readHt40Band eeprom log chInfo band chIdx pairs channels)
      (∀ i channel, pairs[i]? = some channel →
        (band, channel) ∈ keysOf channels ∨ (band, channel + 4) ∈ keysOf channels →
        Reaches eeprom chInfo (2 * (chIdx + i)) (if log then 2 else 1))
      (keysOf · = keysOf channels) := by
  induction pairs generalizing chIdx channels with
  | nil => exact yields_value rfl fun _ _ is => (nomatch is)
  | cons channel later ih =>
    unfold readHt40Band
    have here := @reaches_map eeprom chInfo (2 * chIdx) 0 (if log then 2 else 1)
    rw [Nat.add_zero] at here
    rw [forall_getElem?_cons, or_imp]
    simp only [Nat.add_zero]
    rw [← here, and_assoc]
    refine (modHt40_yields ..).bind fun lower lowerKeys => ?_
    rw [← lowerKeys]
    refine (modHt40_yields ..).bind fun upper upperKeys => ?_
    have rest := (ih (chIdx + 1) upper).mono fun last lastKeys => lastKeys.trans upperKeys
    rw [upperKeys] at rest
    simp only [Nat.add_assoc, Nat.add_comm 1] at rest
    exact rest

theorem readHt40Bands_yields (params : IwlEepromParams) (eeprom : Eeprom) (log : Bool)
    (bands : List Nat) (channels : List Ieee80211Channel) :
    Yields (readHt40Bands params eeprom log bands channels)
      (∀ band ∈ bands, Ht40Fits params eeprom log (· ∈ keysOf channels) band) fun _ => True := by
  induction bands generalizing channels with
  | nil => exact yields_value trivial fun _ is => (nomatch is)
  | cons band later ih =>
    unfold readHt40Bands iwlInitBandReference
    rw [queryAddr_eq, ok_bind, List.forall_mem_cons]
    have table := readHt40Band_yields eeprom log (pointerOf eeprom (bandOffset params band))
      (ht40Band band) 0 (eepromChArray band) channels
    simp only [Nat.zero_add] at table
    refine table.bind fun found keys => ?_
    rw [← keys]
    exact ih found

/-! ### The channel map -/

/-- An EEPROM band has this channel, and its entry is valid. -/
def Used (params : IwlEepromParams) (eeprom : Eeprom) (key : Nl80211Band × Nat) : Prop :=
  ∃ band ∈ [1, 2, 3, 4, 5], (if band = 1 then Nl80211Band.ghz2 else .ghz5) = key.1 ∧
    ∃ chIdx, (eepromChArray band)[chIdx]? = some key.2 ∧
      channelValid (fieldAt eeprom (pointerOf eeprom (bandOffset params band)) (2 * chIdx) 1) = true

theorem mem_validKeys_iff {chInfo : Option Nat} {band chIdx : Nat} {hwValues : List Nat}
    {key : Nl80211Band × Nat} :
    key ∈ validKeys eeprom chInfo band chIdx hwValues ↔
      (if band = 1 then Nl80211Band.ghz2 else .ghz5) = key.1 ∧ ∃ i, hwValues[i]? = some key.2 ∧
        channelValid (fieldAt eeprom chInfo (2 * (chIdx + i)) 1) = true := by
  induction hwValues generalizing chIdx with
  | nil => simp [validKeys]
  | cons hwValue later ih =>
    obtain ⟨itsBand, itsValue⟩ := key
    have split : (∃ i, (hwValue :: later)[i]? = some itsValue ∧
        channelValid (fieldAt eeprom chInfo (2 * (chIdx + i)) 1) = true) ↔
        (hwValue = itsValue ∧ channelValid (fieldAt eeprom chInfo (2 * chIdx) 1) = true) ∨
        ∃ i, later[i]? = some itsValue ∧
          channelValid (fieldAt eeprom chInfo (2 * (chIdx + 1 + i)) 1) = true := by
      constructor
      · rintro ⟨i, is, valid⟩
        cases i with
        | zero => exact .inl ⟨Option.some.inj is, valid⟩
        | succ i => exact .inr ⟨i, is, by rw [Nat.add_assoc, Nat.add_comm 1 i]; exact valid⟩
      · rintro (⟨rfl, valid⟩ | ⟨i, is, valid⟩)
        · exact ⟨0, rfl, valid⟩
        · exact ⟨i + 1, is, by rw [Nat.add_assoc, Nat.add_comm 1 i] at valid; exact valid⟩
    rw [validKeys, List.mem_append, ih, split]
    cases channelValid (fieldAt eeprom chInfo (2 * chIdx) 1) with
    | false => simp
    | true =>
      rw [if_pos rfl, List.mem_singleton, Prod.mk.injEq]
      simp only [and_true]
      constructor
      · rintro (⟨rfl, rfl⟩ | ⟨is, rest⟩)
        · exact ⟨rfl, .inl rfl⟩
        · exact ⟨is, .inr rest⟩
      · rintro ⟨rfl, rfl | rest⟩
        · exact .inl ⟨rfl, rfl⟩
        · exact .inr ⟨rfl, rest⟩

theorem mem_usedKeys_iff {params : IwlEepromParams} {key : Nl80211Band × Nat} :
    key ∈ usedKeys params eeprom [1, 2, 3, 4, 5] ↔ Used params eeprom key := by
  unfold usedKeys Used
  rw [List.mem_flatMap]
  simp only [mem_validKeys_iff, Nat.zero_add]

/-- What `iwl_init_channel_map` reads is in the image. -/
def ChannelMapFits (params : IwlEepromParams) (eeprom : Eeprom) (log : Bool) (validTxAnt : Nat) : Prop :=
  (∀ band ∈ [1, 2, 3, 4, 5], BandFits params eeprom band) ∧
    (params.enhancedTxpower = true → TxpFits eeprom log validTxAnt (∃ key, Used params eeprom key)) ∧
    (noHt40Bands params = false → ∀ band ∈ [6, 7], Ht40Fits params eeprom log (Used params eeprom) band)

theorem initChannelMap_yields (params : IwlEepromParams) (eeprom : Eeprom) (log : Bool)
    (validTxAnt : Nat) (maxTxPwrHalfDbm : Int) :
    Yields (iwlInitChannelMap params eeprom log validTxAnt maxTxPwrHalfDbm)
      (ChannelMapFits params eeprom log validTxAnt) fun _ => True := by
  unfold iwlInitChannelMap ChannelMapFits
  refine (readBands_yields ..).bind fun channels keys => ?_
  have same : (· ∈ keysOf channels) = Used params eeprom := by
    have none : keysOf [] = [] := rfl
    funext key
    rw [keys, none, List.nil_append]
    exact propext mem_usedKeys_iff
  have some : keysOf channels ≠ [] ↔ ∃ key, Used params eeprom key := by
    rw [← same]
    exact ⟨List.exists_mem_of_ne_nil _, fun ⟨_, member⟩ => List.ne_nil_of_mem member⟩
  have power : Yields (initTxPower params eeprom log validTxAnt ⟨channels, maxTxPwrHalfDbm⟩)
      (params.enhancedTxpower = true → TxpFits eeprom log validTxAnt (∃ key, Used params eeprom key))
      (fun power => keysOf power.channels = keysOf channels) := by
    have enhanced := enhancedTxpower_yields eeprom log validTxAnt ⟨channels, maxTxPwrHalfDbm⟩
    dsimp only at enhanced
    rw [some] at enhanced
    unfold initTxPower
    cases params.enhancedTxpower with
    | false => exact yields_value rfl fun holds => (nomatch holds)
    | true => exact enhanced.congr ⟨fun holds _ => holds, fun holds => holds rfl⟩
  refine power.bind fun power powerKeys => ?_
  cases noHt40Bands params with
  | true => exact yields_value trivial fun holds => (nomatch holds)
  | false =>
    have tables := readHt40Bands_yields params eeprom log [6, 7] power.channels
    rw [powerKeys, same] at tables
    refine (tables.bind fun _ _ => yields_ok trivial).congr ?_
    simp

/-! ### The image -/

/-- A field that a query finds is in the image, and so is what is read after it; or the query fails. -/
def FieldFits (eeprom : Eeprom) (offset : BitVec 32) (n : Nat) (rest : Prop) : Prop :=
  eeprom.length ≤ addressOf eeprom offset ∨ Inside eeprom (addressOf eeprom offset) n ∧ rest

/-- The antennas of the image and the configuration. -/
def txAntennas (cfg : IwlCfg) (eeprom : Eeprom) : Nat :=
  validAnt cfg.validTxAnt (wordAt eeprom eepromRadioConfig) 8

def rxAntennas (cfg : IwlCfg) (eeprom : Eeprom) : Nat :=
  validAnt cfg.validRxAnt (wordAt eeprom eepromRadioConfig) 12

/-- **The image fits**: each field in turn, and the tables if there are antennas. -/
def ImageFits (cfg : IwlCfg) (params : IwlEepromParams) (eeprom : Eeprom) : Prop :=
  FieldFits eeprom eepromMacAddress 6 <|
  FieldFits eeprom eepromCalibAll 4 <|
  FieldFits eeprom eepromXtal 4 <|
  FieldFits eeprom eepromRawTemperature 2 <|
  FieldFits eeprom eepromKelvinTemperature 4 <|
  (txAntennas cfg eeprom = 0 ∨ rxAntennas cfg eeprom = 0) ∨
    ChannelMapFits params eeprom cfg.log (txAntennas cfg eeprom)

theorem queried_safe {offset : BitVec 32} {α : Type} {rest : Nat → Outcome EepromError α} :
    Safe (queried eeprom offset >>= rest) ↔
      eeprom.length ≤ addressOf eeprom offset ∨ Safe (rest (addressOf eeprom offset)) := by
  unfold queried
  rw [queryAddr_eq, ok_bind, pointerOf]
  by_cases short : eeprom.length ≤ addressOf eeprom offset
  · rw [if_pos short]
    exact iff_of_true (safe_error _) (.inl short)
  · rw [if_neg short]
    exact (or_iff_right short).symm

theorem readCalib_safe {α : Type} {rest : Nat × Nat → Outcome EepromError α} {safe : Prop}
    (next : ∀ pair, Safe (rest pair) ↔ safe) :
    Safe (iwlEepromReadCalib eeprom >>= rest) ↔ FieldFits eeprom eepromCalibAll 4 safe := by
  unfold iwlEepromReadCalib FieldFits
  rw [bind_assoc, queried_safe, bind_assoc]
  refine or_congr_right ?_
  have both : Inside eeprom (addressOf eeprom eepromCalibAll) 1 ∧
      Inside eeprom (addressOf eeprom eepromCalibAll + 2) 2 ↔
      Inside eeprom (addressOf eeprom eepromCalibAll) 4 := by
    unfold Inside
    omega
  rw [← both, and_assoc]
  refine (load_yields ..).safe_bind fun version _ => ?_
  rw [bind_assoc]
  exact (load_yields ..).safe_bind fun voltage _ => next (version, voltage)

/-- **What `iwl_parse_eeprom_data` reads** is in the image, and no null pointer is followed, exactly
when the image fits. -/
theorem parseEeprom_safe_iff (cfg : IwlCfg) (memory : Option IwlNvmData) (eeprom : Eeprom) :
    Safe (iwlParseEepromData cfg memory eeprom) ↔
      memory = none ∨ ∀ params, cfg.eepromParams = some params → ImageFits cfg params eeprom := by
  unfold iwlParseEepromData
  cases cfg.eepromParams with
  | none => exact iff_of_true (safe_error _) (.inr fun _ is => (nomatch is))
  | some params =>
    cases memory with
    | none => exact iff_of_true (safe_error _) (.inl rfl)
    | some data =>
      simp only [reduceCtorEq, false_or, Option.some.injEq, forall_eq']
      unfold ImageFits
      simp only [query16_eq, ok_bind]
      rw [queried_safe]
      refine or_congr_right ((loadBytes_yields ..).safe_bind fun _ _ => readCalib_safe fun _ => ?_)
      rw [queried_safe]
      refine or_congr_right ((loadBytes_yields ..).safe_bind fun _ _ => ?_)
      rw [queried_safe]
      refine or_congr_right ((load_yields ..).safe_bind fun _ _ => ?_)
      rw [queried_safe]
      refine or_congr_right ?_
      have both : Inside eeprom (addressOf eeprom eepromKelvinTemperature) 2 ∧
          Inside eeprom (addressOf eeprom eepromKelvinTemperature + 2) 2 ↔
          Inside eeprom (addressOf eeprom eepromKelvinTemperature) 4 := by
        unfold Inside
        omega
      rw [← both, and_assoc]
      refine (load_yields ..).safe_bind fun _ _ => (load_yields ..).safe_bind fun _ _ => ?_
      unfold txAntennas rxAntennas
      split
      · rename_i none
        exact iff_of_true (safe_error _) (.inl none)
      · rename_i some
        rw [or_iff_right some]
        refine ((initChannelMap_yields ..).safe_bind fun _ _ => ?_).trans (and_iff_left trivial)
        exact iff_of_true (safe_ok _) trivial

/-- A device of the 5000 series, with the offsets of its bands. -/
def smallCfg : IwlCfg where
  eepromParams := some ⟨#v[0x08, 0x26, 0x42, 0x5C, 0x74, 0x82, 0x92], false⟩
  validTxAnt := 3
  validRxAnt := 3
  disableHtAll := false
  log := false

/-- Memory that is zero. -/
def zeroNvmData : IwlNvmData where
  hwAddr := []
  nHwAddrs := 0
  calibVersion := 0
  calibVoltage := 0
  rawTemperature := 0
  kelvinTemperature := 0
  kelvinVoltage := 0
  xtalCalib := []
  skuCapBand24GHzEnable := false
  skuCapBand52GHzEnable := false
  skuCap11nEnable := false
  skuCapAmtEnable := false
  skuCapIpanEnable := false
  radioCfgType := 0
  radioCfgStep := 0
  radioCfgDash := 0
  radioCfgPnum := 0
  validTxAnt := 0
  validRxAnt := 0
  nvmVersion := 0
  maxTxPwrHalfDbm := 0
  channels := []

/-- An image of 1 KiB whose regulatory link is erased flash. -/
def erasedLink : Eeprom := List.replicate 0xCC 0 ++ [0xff, 0xff] ++ List.replicate 0x332 0

/-- **An image that ends in its MAC address** is read past the end, and where the regulatory link
points past the end the null pointer is followed. -/
theorem parseEeprom_outside :
    ¬ Safe (iwlParseEepromData smallCfg (some zeroNvmData) (List.replicate 43 0)) ∧
      iwlInitBandReference ⟨#v[0x08, 0x26, 0x42, 0x5C, 0x74, 0x82, 0x92], false⟩ erasedLink 1 = .ok none ∧
      ¬ Safe (iwlParseEepromData smallCfg (some zeroNvmData) erasedLink) := by
  refine ⟨fun safe => safe ?_, ?_, fun safe => safe ?_⟩ <;> decide +kernel

end IntelWifi.Nvm
