/-
**A scan command that fits.**

The stores of a call come in a fixed order (`requestScan_eq`): the fixed part, the probe request, `tx_cmd.len` and
the filter flags, the channel list, and the count and the length. They are inside the buffer just when the fixed
part and the last channel are (`commandStores_inside`), and the command reads as it should just when the probe
request is there as a whole and the length fits its field (`reads_iff`).

* `scanRight_iff`: the command is right just when it fits.
* `scanRight_of_usual`: where `max_probe_length` is at least 58 and no command is longer than a `u16`, it does.
-/

import IntelWifi.Dvm.ScanLayout

namespace IntelWifi.Dvm.ScanCommand

open Bytes Memory

/-! ### A call -/

/-- What is written behind the channel list: the count, and with channels the length. -/
def closing (cmdLen n : Nat) : List (Nat × List UInt8) :=
  (3, leBytes 1 n) :: if n = 0 then [] else [(0, leBytes 2 ((764 + cmdLen + n * 12) % 2 ^ 16))]

/-- The stores of a call, for what it writes of a probe request. -/
def commandStores (priv : ScanPriv) (request : ScanRequest) (probe : List (Nat × List UInt8))
    (cmdLen nProbes activeDwell passiveDwell : Nat) : List (Nat × List UInt8) :=
  fixedPart priv request ++ probe ++ [(28, leBytes 2 cmdLen), (24, leBytes 4 (1 <<< 2 ||| 1 <<< 6))] ++
    channelList (!request.ssids.isEmpty) nProbes activeDwell passiveDwell (764 + cmdLen)
      (bandChannels priv request) ++
    closing cmdLen (bandChannels priv request).length

section Call

variable {priv : ScanPriv} {maxProbeLength : UInt32} {request : ScanRequest} {size : Nat}

theorem scanCmdSize_lt (is : scanCmdSize maxProbeLength = size) : size < 2 ^ 31 := by
  have below := Int.bmod_lt (x := 764 + 50 * 12 + maxProbeLength.toNat) (m := 2 ^ 32) (by decide)
  unfold scanCmdSize at is
  rw [is] at below
  omega

theorem bandChannels_few (limits : Advertised maxProbeLength request) (priv : ScanPriv) :
    (bandChannels priv request).length ≤ 50 := by
  refine Nat.le_trans ?_ limits.channels
  unfold bandChannels
  split
  · exact List.length_filter_le _ _
  · exact Nat.zero_le _

theorem headD_short (limits : Advertised maxProbeLength request) : (request.ssids.headD []).length ≤ 32 := by
  cases ssids : request.ssids with
  | nil => exact Nat.zero_le _
  | cons first later => exact limits.ssid first (by rw [ssids]; exact List.mem_cons_self)

theorem probeRoom_lt (limits : Advertised maxProbeLength request) (size : Int) :
    probeRoom request size < 2 ^ 16 := by
  have short := headD_short limits
  unfold probeRoom
  split
  · decide
  · split
    · omega
    · exact Nat.mod_lt _ (by decide)

/-- **A call** that has a buffer. -/
theorem requestScan_eq (limits : Advertised maxProbeLength request) (allocated : priv.allocated = true)
    (is : scanCmdSize maxProbeLength = size) : ∃ nProbes activeDwell passiveDwell, activeDwell < passiveDwell ∧
      passiveDwell < 2 ^ 16 ∧ iwlagnRequestScan priv maxProbeLength request =
        ⟨some size, commandStores priv request
            (iwlFillProbeReq priv.hwAddr request.ie (request.ssids.headD []) (size - 764)).1
            (probeRoom request size) nProbes activeDwell passiveDwell,
          if (bandChannels priv request).length = 0 then .eio
          else if priv.setsPanParams then
            .sent ((764 + probeRoom request size + (bandChannels priv request).length * 12) % 2 ^ 16)
          else .panParams⟩ := by
  have small := scanCmdSize_lt is
  have few := bandChannels_few limits priv
  have left : Int.bmod ((size : Int) - 764) (2 ^ 32) = size - 764 := Int.bmod_eq_of_le (by omega) (by omega)
  have cleared : ((size : Int) % 2 ^ 64).toNat = size := by omega
  have count : (bandChannels priv request).length % 2 ^ 8 = (bandChannels priv request).length :=
    Nat.mod_eq_of_lt (by omega)
  obtain ⟨activeDwell, passiveDwell, above, fits, channels⟩ := channelsForScan_eq priv request
    (!request.ssids.isEmpty) (Nat.mod_lt request.ssids.tail.length (by decide : 2 ^ 8 > 0))
    (764 + probeRoom request size)
  refine ⟨request.ssids.tail.length % 2 ^ 8, activeDwell, passiveDwell, above, fits, ?_⟩
  unfold iwlagnRequestScan
  rw [if_neg (Nat.not_lt.mpr limits.channels), if_neg (by rw [allocated]; decide)]
  dsimp only
  rw [is, left, cleared, fillProbe_length, channels, count]
  unfold commandStores closing
  by_cases none : (bandChannels priv request).length = 0
  · rw [if_pos none, if_pos none, if_pos none]
  · rw [if_neg none, if_neg none, if_neg none, List.append_assoc (_ ++ _) [_]]
    rfl

end Call

/-! ### Inside the buffer -/

section Inside

variable {priv : ScanPriv} {maxProbeLength : UInt32} {request : ScanRequest} {probe : List (Nat × List UInt8)}
  {size cmdLen nProbes activeDwell passiveDwell : Nat}

theorem closing_region (cmdLen n : Nat) : Region 0 4 (closing cmdLen n) := by
  unfold closing
  split <;> simp

/-- **The stores are inside** a buffer just when the fixed part and the last channel are. -/
theorem commandStores_inside (limits : Advertised maxProbeLength request) (probed : Region 764 size probe) :
    (∀ write ∈ commandStores priv request probe cmdLen nProbes activeDwell passiveDwell,
        ((write.1 + write.2.length : Nat) : Int) ≤ size) ↔
      fixedEnd request ≤ size ∧ (bandChannels priv request ≠ [] →
        764 + cmdLen + 12 * (bandChannels priv request).length ≤ size) := by
  have fixed := (fixedPart_ends limits.ssid priv).inside_iff size
  unfold commandStores
  simp only [List.forall_mem_append]
  constructor
  · rintro ⟨⟨⟨⟨front, -⟩, -⟩, listed⟩, -⟩
    refine ⟨by exact_mod_cast fixed.mp front, fun some => ?_⟩
    exact_mod_cast ((channelList_ends some (764 + cmdLen)).inside_iff size).mp listed
  · rintro ⟨front, listed⟩
    have back : 72 ≤ fixedEnd request := by
      unfold fixedEnd
      split
      · omega
      · exact Nat.le_refl _
    refine ⟨⟨⟨⟨fixed.mpr (by exact_mod_cast front), fun write member => ?_⟩, ?_⟩, fun write member => ?_⟩,
      fun write member => ?_⟩
    · exact_mod_cast (probed write member).2
    · simp only [List.forall_mem_cons, length_leBytes]
      exact ⟨by omega, by omega, fun _ none => absurd none List.not_mem_nil⟩
    · have some : bandChannels priv request ≠ [] := fun none => by
        rw [none] at member
        exact absurd member List.not_mem_nil
      have inside := (channelList_region _ (764 + cmdLen) write member).2
      have room := listed some
      omega
    · have inside := (closing_region cmdLen (bandChannels priv request).length write member).2
      omega

end Inside

/-! ### Reading the command -/

section Reading

variable {priv : ScanPriv} {maxProbeLength : UInt32} {request : ScanRequest} {probe : List (Nat × List UInt8)}
  {cmdLen nProbes activeDwell passiveDwell : Nat}

/-- The buffer after a call. -/
def commandRam (priv : ScanPriv) (request : ScanRequest) (probe : List (Nat × List UInt8))
    (cmdLen nProbes activeDwell passiveDwell : Nat) : Ram :=
  storeAll (fun _ => 0) (commandStores priv request probe cmdLen nProbes activeDwell passiveDwell)

/-- The buffer before the channels. -/
def probeRam (priv : ScanPriv) (request : ScanRequest) (probe : List (Nat × List UInt8)) (cmdLen : Nat) : Ram :=
  storeAll (storeAll (storeAll (fun _ => 0) (fixedPart priv request)) probe)
    [(28, leBytes 2 cmdLen), (24, leBytes 4 (1 <<< 2 ||| 1 <<< 6))]

theorem commandRam_eq : commandRam priv request probe cmdLen nProbes activeDwell passiveDwell =
    storeAll (storeAll (probeRam priv request probe cmdLen)
      (channelList (!request.ssids.isEmpty) nProbes activeDwell passiveDwell (764 + cmdLen)
        (bandChannels priv request)))
      (closing cmdLen (bandChannels priv request).length) := by
  unfold commandRam commandStores probeRam
  rw [storeAll_append, storeAll_append, storeAll_append, storeAll_append]

/-- In front of the channels only the closing fields are new. -/
theorem load_commandRam_front {addr n : Nat} (behind : 4 ≤ addr) (front : addr + n ≤ 764 + cmdLen) :
    load (commandRam priv request probe cmdLen nProbes activeDwell passiveDwell) addr n =
      load (probeRam priv request probe cmdLen) addr n := by
  rw [commandRam_eq, load_storeAll_outside (closing_region _ _) (.inr behind),
    load_storeAll_outside (channelList_region _ _) (.inl front)]

/-- `tx_cmd.len`. -/
theorem txLen_read (fits : cmdLen < 2 ^ 16) :
    field (commandRam priv request probe cmdLen nProbes activeDwell passiveDwell) 28 2 = cmdLen := by
  unfold field
  rw [load_commandRam_front (by decide) (by omega)]
  exact field_storeAll_head fits (by simp [Apart])

/-- `channel_count`. -/
theorem count_read (few : (bandChannels priv request).length ≤ 50) :
    field (commandRam priv request probe cmdLen nProbes activeDwell passiveDwell) 3 1 =
      (bandChannels priv request).length := by
  rw [commandRam_eq]
  unfold closing
  refine field_storeAll_head (by omega) fun write member => ?_
  split at member
  · exact absurd member List.not_mem_nil
  · rw [List.mem_singleton.mp member]
    exact .inl (by simp)

/-- `len`. -/
theorem length_read (some : bandChannels priv request ≠ []) :
    field (commandRam priv request probe cmdLen nProbes activeDwell passiveDwell) 0 2 =
      (764 + cmdLen + (bandChannels priv request).length * 12) % 2 ^ 16 := by
  rw [commandRam_eq]
  unfold closing
  rw [if_neg (fun none => some (List.length_eq_zero_iff.mp none)), storeAll_cons]
  exact field_storeAll_head (Nat.mod_lt _ (by decide)) (fun _ none => absurd none List.not_mem_nil)

/-- The channels. -/
theorem channel_read (active : activeDwell < 2 ^ 16) (passive : passiveDwell < 2 ^ 16) {k : Nat}
    {chan : ScanChannel}
    (here : (bandChannels priv request)[k]? = some chan) :
    field (commandRam priv request probe cmdLen nProbes activeDwell passiveDwell) (764 + cmdLen + 12 * k + 4) 2 =
        chan.hwValue.toNat ∧
      field (commandRam priv request probe cmdLen nProbes activeDwell passiveDwell) (764 + cmdLen + 12 * k + 8) 2 =
        activeDwell ∧
      field (commandRam priv request probe cmdLen nProbes activeDwell passiveDwell)
        (764 + cmdLen + 12 * k + 10) 2 = passiveDwell := by
  unfold field
  rw [commandRam_eq, load_storeAll_outside (closing_region _ _) (.inr (by omega)),
    load_storeAll_outside (closing_region _ _) (.inr (by omega)),
    load_storeAll_outside (closing_region _ _) (.inr (by omega))]
  exact channelList_fields active passive here (764 + cmdLen)

/-- Between the transmit command and the probe request there are the other SSIDs. -/
theorem load_commandRam_direct {stop : Nat} (probed : Region 764 stop probe) {addr n : Nat} (behind : 72 ≤ addr)
    (front : addr + n ≤ 764) :
    load (commandRam priv request probe cmdLen nProbes activeDwell passiveDwell) addr n =
      load (storeAll (storeAll (fun _ => 0) (quietPart priv)) (directScan 0 request.ssids.tail.reverse)) addr
        n := by
  have fields : Region 24 30 [(28, leBytes 2 cmdLen), (24, leBytes 4 (1 <<< 2 ||| 1 <<< 6))] := by simp
  rw [load_commandRam_front (by omega) (by omega), probeRam, load_storeAll_outside fields (.inr (by omega)),
    load_storeAll_outside probed (.inl front), fixedPart, storeAll_append, storeAll_append,
    load_storeAll_outside (txPart_region priv _) (.inr behind)]

/-- The other SSIDs. -/
theorem direct_read (limits : Advertised maxProbeLength request) {stop : Nat} (probed : Region 764 stop probe)
    {p : Nat}
    {ssid : List UInt8} (here : request.ssids.tail.reverse[p]? = some ssid) :
    load (commandRam priv request probe cmdLen nProbes activeDwell passiveDwell) (84 + 34 * p) (2 + ssid.length) =
      [0, UInt8.ofNat ssid.length] ++ ssid := by
  have few : request.ssids.length ≤ 20 := limits.ssids
  have short := others_short limits.ssid ssid (List.mem_of_getElem? here)
  obtain ⟨inside, -⟩ := List.getElem?_eq_some_iff.mp here
  rw [List.length_reverse, List.length_tail] at inside
  have read := @directScan_load (storeAll (fun _ => 0) (quietPart priv)) ssid _ (others_short limits.ssid) p here 0
  rw [Nat.zero_add] at read
  rw [load_commandRam_direct probed (by omega) (by omega), read]

/-- The entries that no SSID has. -/
theorem unused_read (limits : Advertised maxProbeLength request) {stop : Nat} (probed : Region 764 stop probe)
    {p : Nat}
    (inside : p < probeOptionMax) (behind : request.ssids.tail.length ≤ p) :
    load (commandRam priv request probe cmdLen nProbes activeDwell passiveDwell) (84 + 34 * p) 34 =
      List.replicate 34 0 := by
  have listed := directScan_region (others_short limits.ssid) 0
  rw [List.length_reverse, Nat.zero_add] at listed
  unfold probeOptionMax at inside
  rw [load_commandRam_direct probed (by omega) (by omega), load_storeAll_outside listed (.inr (by omega)),
    load_storeAll_outside (quietPart_region priv) (.inr (by omega))]
  rfl

/-- The probe request. -/
theorem probe_read (limits : Advertised maxProbeLength request) {size : Nat}
    (room : 764 + probeLength request ≤ size) :
    load (commandRam priv request (iwlFillProbeReq priv.hwAddr request.ie (request.ssids.headD []) (size - 764)).1
        (probeLength request) nProbes activeDwell passiveDwell) 764 (probeLength request) =
      probeRequest priv request := by
  have fields : Region 24 30
      [(28, leBytes 2 (probeLength request)), (24, leBytes 4 (1 <<< 2 ||| 1 <<< 6))] := by simp
  rw [load_commandRam_front (by decide) (Nat.le_refl _), probeRam, load_storeAll_outside fields (.inr (by decide)),
    fillProbe_whole room, probe_stores]
  refine probe_load ?_
  rw [load_storeAll_outside (fixedPart_region limits.ssid limits.ssids priv) (.inr (by decide))]
  rfl

end Reading

/-! ### The probe request as a whole -/

section Whole

variable {priv : ScanPriv} {maxProbeLength : UInt32} {request : ScanRequest} {size : Nat}

theorem probeRequest_length (priv : ScanPriv) (request : ScanRequest) :
    (probeRequest priv request).length = probeLength request := by
  unfold probeRequest probeLength
  simp
  omega

/-- **The probe request is there as a whole** just when there is room for it and a `u16` holds its length. -/
theorem probeRoom_whole : probeRoom request size = probeLength request ↔
    764 + probeLength request ≤ size ∧ probeLength request < 2 ^ 16 := by
  unfold probeRoom
  constructor
  · intro whole
    split at whole
    · unfold probeLength at whole
      omega
    · split at whole
      · unfold probeLength at *
        omega
      · omega
  · rintro ⟨room, short⟩
    have all : probeLength request = 26 + (request.ssids.headD []).length + request.ie.length := rfl
    rw [if_neg (by omega), if_neg (by omega), Nat.mod_eq_of_lt short]

end Whole

/-! ### The whole command -/

section Fits

variable {priv : ScanPriv} {maxProbeLength : UInt32} {request : ScanRequest}
  {size nProbes activeDwell passiveDwell : Nat}

/-- **The command reads as it should** just when the probe request is whole and the length fits its field. -/
theorem reads_iff (limits : Advertised maxProbeLength request) (above : activeDwell < passiveDwell)
    (fits : passiveDwell < 2 ^ 16) (some : bandChannels priv request ≠ []) :
    Reads priv request (commandRam priv request
        (iwlFillProbeReq priv.hwAddr request.ie (request.ssids.headD []) (size - 764)).1
        (probeRoom request size) nProbes activeDwell passiveDwell)
      ((764 + probeRoom request size + (bandChannels priv request).length * 12) % 2 ^ 16) ↔
    764 + probeLength request ≤ size ∧
      764 + probeLength request + 12 * (bandChannels priv request).length < 2 ^ 16 := by
  have probed := fillProbe_region priv.hwAddr request.ie (request.ssids.headD []) size
  have few := bandChannels_few limits priv
  have active : activeDwell < 2 ^ 16 := Nat.lt_trans above fits
  constructor
  · intro reads
    have whole : probeRoom request size = probeLength request := by
      have same := congrArg List.length reads.probe
      rwa [load_length, txLen_read (probeRoom_lt limits size), probeRequest_length] at same
    have length := reads.length
    rw [length_read some, txLen_read (probeRoom_lt limits size), count_read few] at length
    exact ⟨(probeRoom_whole.mp whole).1, by omega⟩
  · rintro ⟨room, short⟩
    have whole : probeRoom request size = probeLength request := probeRoom_whole.mpr ⟨room, by omega⟩
    rw [whole]
    have txLen : probeLength request < 2 ^ 16 := by omega
    refine ⟨?_, ?_, ?_, fun p ssid here => direct_read limits probed here,
      fun p inside behind => unused_read limits probed inside behind, ?_, (length_read some).symm⟩
    · rw [txLen_read txLen]
      exact probe_read limits room
    · rw [txLen_read txLen, count_read few]
      refine List.ext_getElem (by simp) fun k _ inside => ?_
      rw [List.length_map] at inside
      rw [List.getElem_map, List.getElem_map, List.getElem_range]
      exact (channel_read active fits (List.getElem?_eq_getElem inside)).1
    · intro k inside
      rw [count_read few] at inside
      have here := List.getElem?_eq_getElem inside
      rw [txLen_read txLen, (channel_read active fits here).2.1, (channel_read active fits here).2.2]
      exact above
    · rw [length_read some, txLen_read txLen, count_read few]
      omega

/-- A buffer of negative size cannot be cleared. -/
theorem scanCmdSize_nonneg (limits : Advertised maxProbeLength request) (allocated : priv.allocated = true)
    (right : ScanRight priv maxProbeLength request) : 0 ≤ scanCmdSize maxProbeLength := by
  have memset : (iwlagnRequestScan priv maxProbeLength request).memset =
      some (scanCmdSize maxProbeLength % 2 ^ 64).toNat := by
    unfold iwlagnRequestScan
    rw [if_neg (Nat.not_lt.mpr limits.channels), if_neg (by rw [allocated]; decide)]
    dsimp only
    split <;> rfl
  have cleared := right.cleared _ (by rw [memset, Option.mem_def])
  omega

/-- **The command fits** a buffer of this size. -/
theorem commandFits_iff (is : scanCmdSize maxProbeLength = size) : CommandFits priv maxProbeLength request ↔
    (fixedEnd request ≤ size ∧ (bandChannels priv request ≠ [] →
      764 + probeRoom request size + 12 * (bandChannels priv request).length ≤ size)) ∧
    (bandChannels priv request ≠ [] → priv.setsPanParams = true → 764 + probeLength request ≤ size ∧
      764 + probeLength request + 12 * (bandChannels priv request).length < 2 ^ 16) := by
  unfold CommandFits
  rw [is]
  constructor
  · rintro ⟨-, front, channels⟩
    refine ⟨⟨by omega, fun some => ?_⟩, fun some sets => ?_⟩
    · have fitting := channels some
      by_cases sets : priv.setsPanParams = true
      · rw [if_pos sets] at fitting
        rw [probeRoom_whole.mpr ⟨by omega, by omega⟩]
        omega
      · rw [if_neg sets] at fitting
        omega
    · have fitting := channels some
      rw [if_pos sets] at fitting
      exact ⟨by omega, fitting.2⟩
  · rintro ⟨⟨front, listed⟩, whole⟩
    refine ⟨by omega, by omega, fun some => ?_⟩
    have room := listed some
    by_cases sets : priv.setsPanParams = true
    · obtain ⟨probe, short⟩ := whole some sets
      rw [probeRoom_whole.mpr ⟨probe, by omega⟩] at room
      rw [if_pos sets]
      exact ⟨by omega, short⟩
    · rw [if_neg sets]
      omega

/-- **A scan with a buffer** is right just when the command fits it. -/
theorem scanRight_call (limits : Advertised maxProbeLength request) (allocated : priv.allocated = true)
    (is : scanCmdSize maxProbeLength = size) :
    ScanRight priv maxProbeLength request ↔ CommandFits priv maxProbeLength request := by
  obtain ⟨nProbes, activeDwell, passiveDwell, above, fits, call⟩ := requestScan_eq limits allocated is
  have inside := @commandStores_inside priv maxProbeLength request _ size (probeRoom request size) nProbes
    activeDwell passiveDwell limits (fillProbe_region priv.hwAddr request.ie (request.ssids.headD []) size)
  rw [commandFits_iff is, ← inside]
  constructor
  · intro right
    refine ⟨fun write member => ?_, fun some sets => ?_⟩
    · rw [← is]
      exact right.inside write (by rwa [call])
    · have reads := right.reads _ (by
        rw [call]
        dsimp only
        rw [if_neg (mt List.length_eq_zero_iff.mp some), if_pos sets])
      rw [call] at reads
      exact (reads_iff limits above fits some).mp reads
  · rintro ⟨stores, whole⟩
    refine ⟨fun n cleared => ?_, fun write member => ?_, fun len sent => ?_⟩
    · rw [call] at cleared
      exact Int.le_of_eq (by rw [is, ← Option.some.inj cleared])
    · rw [call] at member
      rw [is]
      exact stores write member
    · rw [call] at sent ⊢
      dsimp only at sent
      by_cases none : (bandChannels priv request).length = 0
      · rw [if_pos none] at sent
        exact (nomatch sent)
      · have some := mt List.length_eq_zero_iff.mpr none
        by_cases sets : priv.setsPanParams = true
        · rw [if_neg none, if_pos sets] at sent
          rw [← ScanResult.sent.inj sent]
          exact (reads_iff limits above fits some).mpr (whole some sets)
        · rw [if_neg none, if_neg sets] at sent
          exact (nomatch sent)

/-- A scan without a buffer writes nothing. -/
theorem scanRight_unallocated (limits : Advertised maxProbeLength request) (allocated : priv.allocated = false) :
    ScanRight priv maxProbeLength request := by
  have call : iwlagnRequestScan priv maxProbeLength request = ⟨none, [], .enomem⟩ := by
    unfold iwlagnRequestScan
    rw [if_neg (Nat.not_lt.mpr limits.channels), if_pos (by rw [allocated]; rfl)]
  refine ⟨?_, ?_, ?_⟩
  · rw [call]
    exact fun _ none => (nomatch none)
  · rw [call]
    exact fun _ none => absurd none List.not_mem_nil
  · rw [call]
    exact fun _ sent => (nomatch sent)

/-- **A scan is right** just when there is no buffer, or the command fits it. -/
theorem scanRight_iff (limits : Advertised maxProbeLength request) : ScanRight priv maxProbeLength request ↔
    priv.allocated = false ∨ CommandFits priv maxProbeLength request := by
  cases allocated : priv.allocated with
  | false => exact iff_of_true (scanRight_unallocated limits allocated) (.inl rfl)
  | true =>
    by_cases sign : 0 ≤ scanCmdSize maxProbeLength
    · obtain ⟨size, is⟩ := Int.eq_ofNat_of_zero_le sign
      rw [scanRight_call limits allocated is, or_iff_right (by decide)]
    · refine iff_of_false (fun right => sign (scanCmdSize_nonneg limits allocated right)) ?_
      rintro (none | fits)
      · exact absurd none (by decide)
      · exact sign fits.1

theorem fixedEnd_le (limits : Advertised maxProbeLength request) (priv : ScanPriv) : fixedEnd request ≤ 764 := by
  obtain ⟨write, member, last⟩ := (fixedPart_ends limits.ssid priv).last
  rw [← last]
  exact (fixedPart_region limits.ssid limits.ssids priv write member).2

/-- Where the limit of the elements does not wrap, a probe request is not longer than the firmware takes. -/
theorem probeLength_le (limits : Advertised maxProbeLength request) (least : 58 ≤ maxProbeLength.toNat)
    (most : maxProbeLength.toNat ≤ 64171) : probeLength request ≤ maxProbeLength.toNat := by
  have first := headD_short limits
  have elements := limits.ie
  unfold maxScanIeLen at elements
  have exact : (maxProbeLength - 24 - 34).toNat = maxProbeLength.toNat - 58 := by
    rw [UInt32.toNat_sub, UInt32.toNat_sub]
    have below := maxProbeLength.toNat_lt
    have header : (24 : UInt32).toNat = 24 := rfl
    have element : (34 : UInt32).toNat = 34 := rfl
    omega
  unfold probeLength
  omega

/-- **With a usual firmware** every scan is right. -/
theorem scanRight_of_usual (limits : Advertised maxProbeLength request) (least : 58 ≤ maxProbeLength.toNat)
    (most : maxProbeLength.toNat ≤ 64171) : ScanRight priv maxProbeLength request := by
  have is : scanCmdSize maxProbeLength = (1364 + maxProbeLength.toNat : Nat) := by
    unfold scanCmdSize
    rw [Int.bmod_eq_of_le (by omega) (by omega)]
    omega
  cases allocated : priv.allocated with
  | false => exact scanRight_unallocated limits allocated
  | true =>
    have few := bandChannels_few limits priv
    have front := fixedEnd_le limits priv
    have probe := probeLength_le limits least most
    have whole : probeRoom request (1364 + maxProbeLength.toNat : Nat) = probeLength request :=
      probeRoom_whole.mpr ⟨by omega, by omega⟩
    refine (scanRight_call limits allocated is).mpr ((commandFits_iff is).mpr ⟨⟨by omega, fun _ => ?_⟩,
      fun _ _ => ⟨by omega, by omega⟩⟩)
    rw [whole]
    omega

end Fits

/-! ### Two firmwares -/

/-- A device with channels of the 2.4 GHz band. -/
def scanPriv : ScanPriv where
  scanBand := .ghz2
  hwMode := true
  bss := ⟨.ess, false, 0⟩
  pan := ⟨.p2p, false, 0⟩
  anyAssociated := false
  advancedBtCoexist := false
  newScanThresholdBehaviour := false
  bcastStaId := 15
  rateNFlags := 0
  rxChain := 0
  hwAddr := Vector.replicate 6 2
  allocated := true
  setsPanParams := true

/-- A scan of the channels of the 2.4 GHz band, with so many bytes of elements. -/
def scanRequest (ieLen : Nat) : ScanRequest where
  ssids := [[]]
  channels := (List.range 11).map fun k => ⟨.ghz2, UInt16.ofNat (k + 1), false⟩
  ie := List.replicate ieLen 0

theorem scanRequest_advertised {ieLen : Nat} {maxProbeLength : UInt32}
    (fits : ieLen ≤ maxScanIeLen maxProbeLength) :
    Advertised maxProbeLength (scanRequest ieLen) := by
  refine ⟨Nat.le_of_ble_eq_true rfl, Nat.le_of_ble_eq_true rfl, ?_, ?_⟩
  · simp [scanRequest]
  · rwa [scanRequest, List.length_replicate]

theorem scanRight_iff_sample : ScanRight scanPriv 200 (scanRequest 100) := by
  refine (scanRight_iff (scanRequest_advertised (by decide))).mpr (.inr ⟨by decide, by decide, fun _ => ?_⟩)
  decide

/-- **With a `max_probe_length` of zero** the limit of the elements wraps, and the channels are written past
the end of the
buffer. -/
theorem channels_past_end : Advertised 0 (scanRequest 500) ∧ ¬ ScanRight scanPriv 0 (scanRequest 500) := by
  have limits : Advertised 0 (scanRequest 500) := scanRequest_advertised (by decide)
  refine ⟨limits, fun right => ?_⟩
  have fits := ((@scanRight_call scanPriv 0 (scanRequest 500) 1364 limits rfl (by decide)).mp right).2.2 (nofun)
  rw [if_pos (by rfl)] at fits
  exact absurd fits.1 (by decide +kernel)

end IntelWifi.Dvm.ScanCommand
