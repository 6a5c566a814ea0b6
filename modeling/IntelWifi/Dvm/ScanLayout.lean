/-
**The layout of the scan command.**

What is written of a scan command lies in three regions: the fixed part, the probe request behind it, and the
channel list behind that. Each part is read back from its own region, since the others are apart from it.

* `channelsForScan_eq`: the channel list has an entry for each channel of the band, in order.
* `channelList_fields`, `directScan_load`, `probe_load`: the channels, the SSIDs and the probe request as they are
  read back.
* `fixedPart_ends`, `channelList_ends`: where the last byte is.
-/

import IntelWifi.Dvm.ScanCommand

namespace IntelWifi.Dvm.ScanCommand

open Bytes Memory
open Nvm (Nl80211Band)

/-! ### Fields -/

section Fields

variable {mem : Ram} {addr n value : Nat} {bytes : List UInt8} {later : List (Nat × List UInt8)}

/-- The last store to a range is read back. -/
theorem load_storeAll_head (apart : ∀ write ∈ later, Apart write.1 write.2.length addr bytes.length) :
    load (storeAll mem ((addr, bytes) :: later)) addr bytes.length = bytes := by
  rw [storeAll_cons, load_storeAll_apart apart, load_store_same rfl]

theorem field_of_load (is : load mem addr n = leBytes n value) (fits : value < 256 ^ n) :
    field mem addr n = value := by
  have read := leAt_leBytes fits []
  rw [List.append_nil] at read
  unfold field
  rw [is, read]

theorem field_storeAll_head (fits : value < 256 ^ n)
    (apart : ∀ write ∈ later, Apart write.1 write.2.length addr n) :
    field (storeAll mem ((addr, leBytes n value) :: later)) addr n = value := by
  refine field_of_load ?_ fits
  have head := @load_storeAll_head mem addr (leBytes n value) later (by rwa [length_leBytes])
  rwa [length_leBytes] at head

end Fields

/-- The last byte that the stores write is in front of `stop`. -/
structure Ends (writes : List (Nat × List UInt8)) (stop : Nat) : Prop where
  le : ∀ write ∈ writes, write.1 + write.2.length ≤ stop
  last : ∃ write ∈ writes, write.1 + write.2.length = stop

section Ends

variable {writes more : List (Nat × List UInt8)} {start stop : Nat}

/-- **Stores are inside a buffer** just when the last byte is. -/
theorem Ends.inside_iff (ends : Ends writes stop) (size : Int) :
    (∀ write ∈ writes, ((write.1 + write.2.length : Nat) : Int) ≤ size) ↔ (stop : Int) ≤ size := by
  constructor
  · intro inside
    obtain ⟨write, member, same⟩ := ends.last
    rw [← same]
    exact inside write member
  · intro fits write member
    have below := ends.le write member
    omega

theorem Ends.append_left (ends : Ends writes stop) (region : Region start stop more) :
    Ends (writes ++ more) stop := by
  obtain ⟨write, member, same⟩ := ends.last
  refine ⟨fun other listed => ?_, write, List.mem_append_left _ member, same⟩
  rcases List.mem_append.mp listed with first | second
  · exact ends.le other first
  · exact (region other second).2

theorem Ends.append_right (ends : Ends more stop) (region : Region start stop writes) :
    Ends (writes ++ more) stop := by
  obtain ⟨write, member, same⟩ := ends.last
  refine ⟨fun other listed => ?_, write, List.mem_append_right _ member, same⟩
  rcases List.mem_append.mp listed with first | second
  · exact (region other first).2
  · exact ends.le other second

end Ends

/-! ### The channel list -/

/-- The entries of these channels, one behind the other. -/
def channelList (isActive : Bool) (nProbes activeDwell passiveDwell : Nat) : Nat → List ScanChannel →
    List (Nat × List UInt8)
  | _, [] => []
  | scanCh, chan :: later => channelEntry chan isActive nProbes activeDwell passiveDwell scanCh ++
      channelList isActive nProbes activeDwell passiveDwell (scanCh + 12) later

section Channels

variable {mem : Ram} {chan : ScanChannel} {chans : List ScanChannel} {isActive : Bool}
  {nProbes activeDwell passiveDwell scanCh : Nat}

/-- **The loop** writes the entries of the channels of the band. -/
theorem channelLoop_eq (band : Nl80211Band) (chans : List ScanChannel) (scanCh : Nat) :
    channelLoop band isActive nProbes activeDwell passiveDwell scanCh chans =
      (channelList isActive nProbes activeDwell passiveDwell scanCh (chans.filter fun chan => chan.band = band),
        (chans.filter fun chan => chan.band = band).length) := by
  induction chans generalizing scanCh with
  | nil => rfl
  | cons chan later ih =>
    unfold channelLoop
    by_cases here : chan.band = band
    · rw [if_neg (not_not.mpr here), ih, List.filter_cons_of_pos (by simpa using here)]
      rfl
    · rw [if_pos here, ih, List.filter_cons_of_neg (by simpa using here)]

theorem channelEntry_region : Region scanCh (scanCh + 12)
    (channelEntry chan isActive nProbes activeDwell passiveDwell scanCh) := by
  unfold channelEntry
  simp only [region_append, region_cons, length_leBytes, List.length_singleton, region_nil, and_true]
  split
  · simp only [region_cons, length_leBytes, region_nil, and_true]
    omega
  · simp only [region_nil, and_true]
    omega

theorem channelList_region (chans : List ScanChannel) (scanCh : Nat) : Region scanCh (scanCh + 12 * chans.length)
    (channelList isActive nProbes activeDwell passiveDwell scanCh chans) := by
  induction chans generalizing scanCh with
  | nil => exact region_nil
  | cons chan later ih =>
    unfold channelList
    rw [region_append, List.length_cons]
    exact ⟨channelEntry_region.mono (Nat.le_refl _) (by omega), (ih (scanCh + 12)).mono (by omega) (by omega)⟩

/-- The list ends behind its last entry. -/
theorem channelList_ends (some : chans ≠ []) (scanCh : Nat) :
    Ends (channelList isActive nProbes activeDwell passiveDwell scanCh chans) (scanCh + 12 * chans.length) := by
  refine ⟨fun write member => (channelList_region chans scanCh write member).2, ?_⟩
  induction chans generalizing scanCh with
  | nil => exact absurd rfl some
  | cons chan later ih =>
    unfold channelList
    cases later with
    | nil =>
      refine ⟨(scanCh + 10, leBytes 2 passiveDwell), ?_, ?_⟩
      · simp [channelEntry]
      · rw [length_leBytes, List.length_singleton]
    | cons second later =>
      obtain ⟨write, member, stop⟩ := ih (List.cons_ne_nil _ _) (scanCh + 12)
      refine ⟨write, List.mem_append_right _ member, ?_⟩
      rw [stop]
      simp only [List.length_cons]
      omega

/-- **An entry**, as it is read back. -/
theorem channelEntry_fields (active : activeDwell < 2 ^ 16) (passive : passiveDwell < 2 ^ 16) (scanCh : Nat) :
    field (storeAll mem (channelEntry chan isActive nProbes activeDwell passiveDwell scanCh)) (scanCh + 4) 2 =
        chan.hwValue.toNat ∧
      field (storeAll mem (channelEntry chan isActive nProbes activeDwell passiveDwell scanCh)) (scanCh + 8) 2 =
        activeDwell ∧
      field (storeAll mem (channelEntry chan isActive nProbes activeDwell passiveDwell scanCh)) (scanCh + 10) 2 =
        passiveDwell := by
  have few : chan.hwValue.toNat < 256 ^ 2 := chan.hwValue.toNat_lt
  by_cases probes : nProbes ≠ 0
  · unfold channelEntry
    simp only [if_pos probes, List.cons_append, List.nil_append]
    refine ⟨field_storeAll_head few (by simp [Apart]), ?_, ?_⟩
    · rw [storeAll_cons, storeAll_cons, storeAll_cons]
      exact field_storeAll_head active (by simp [Apart])
    · rw [storeAll_cons, storeAll_cons, storeAll_cons, storeAll_cons]
      exact field_storeAll_head passive (by simp [Apart])
  · unfold channelEntry
    simp only [if_neg probes, List.cons_append, List.nil_append, List.append_nil]
    refine ⟨field_storeAll_head few (by simp [Apart]), ?_, ?_⟩
    · rw [storeAll_cons, storeAll_cons]
      exact field_storeAll_head active (by simp [Apart])
    · rw [storeAll_cons, storeAll_cons, storeAll_cons]
      exact field_storeAll_head passive (by simp [Apart])

/-- **The channel list**, as it is read back. -/
theorem channelList_fields (active : activeDwell < 2 ^ 16) (passive : passiveDwell < 2 ^ 16) {k : Nat}
    (here : chans[k]? = some chan) (scanCh : Nat) :
    field (storeAll mem (channelList isActive nProbes activeDwell passiveDwell scanCh chans))
        (scanCh + 12 * k + 4) 2 = chan.hwValue.toNat ∧
      field (storeAll mem (channelList isActive nProbes activeDwell passiveDwell scanCh chans))
        (scanCh + 12 * k + 8) 2 = activeDwell ∧
      field (storeAll mem (channelList isActive nProbes activeDwell passiveDwell scanCh chans))
        (scanCh + 12 * k + 10) 2 = passiveDwell := by
  induction chans generalizing mem k scanCh with
  | nil => cases here
  | cons first later ih =>
    unfold channelList
    rw [storeAll_append]
    cases k with
    | zero =>
      obtain rfl := Option.some.inj here
      have behind (offset : Nat) (inside : offset + 2 ≤ 12) (mem : Ram) :
          field (storeAll mem (channelList isActive nProbes activeDwell passiveDwell (scanCh + 12) later))
            (scanCh + 12 * 0 + offset) 2 = field mem (scanCh + offset) 2 := by
        unfold field
        rw [load_storeAll_outside (channelList_region later (scanCh + 12)) (.inl (by omega))]
        rfl
      rw [behind 4 (by decide), behind 8 (by decide), behind 10 (by decide)]
      exact channelEntry_fields active passive scanCh
    | succ k =>
      have shift : scanCh + 12 * (k + 1) = scanCh + 12 + 12 * k := by omega
      rw [shift]
      exact ih here (scanCh + 12)

end Channels

/-! ### The other SSIDs -/

section DirectScan

variable {mem : Ram} {ssid : List UInt8} {ssids : List (List UInt8)} {p : Nat}

theorem directScan_append (first second : List (List UInt8)) (p : Nat) :
    directScan p (first ++ second) = directScan p first ++ directScan (p + first.length) second := by
  induction first generalizing p with
  | nil => rfl
  | cons ssid later ih =>
    have shift : p + (later.length + 1) = p + 1 + later.length := by omega
    rw [List.cons_append, directScan, directScan, ih, List.length_cons, shift, List.append_assoc]

theorem directScan_region (short : ∀ ssid ∈ ssids, ssid.length ≤ 32) (p : Nat) :
    Region (84 + 34 * p) (84 + 34 * (p + ssids.length)) (directScan p ssids) := by
  induction ssids generalizing p with
  | nil => exact region_nil
  | cons ssid later ih =>
    rw [List.forall_mem_cons] at short
    unfold directScan
    rw [region_append, List.length_cons]
    refine ⟨?_, (ih short.2 (p + 1)).mono (by omega) (by omega)⟩
    simp only [region_cons, List.length_singleton, region_nil, and_true]
    have few := short.1
    omega

/-- **An SSID of the list**, as it is read back. -/
theorem directScan_load (short : ∀ ssid ∈ ssids, ssid.length ≤ 32) {i : Nat} (here : ssids[i]? = some ssid)
    (p : Nat) :
    load (storeAll mem (directScan p ssids)) (84 + 34 * (p + i)) (2 + ssid.length) =
      [0, UInt8.ofNat ssid.length] ++ ssid := by
  induction ssids generalizing mem i p with
  | nil => cases here
  | cons first later ih =>
    have few := (List.forall_mem_cons.mp short).1
    have rest := (List.forall_mem_cons.mp short).2
    unfold directScan
    rw [storeAll_append]
    cases i with
    | zero =>
      obtain rfl := Option.some.inj here
      simp only [Nat.add_zero]
      rw [load_storeAll_outside (directScan_region rest (p + 1)) (.inl (by omega)), load_add _ _ 2,
        load_add _ _ 1 1]
      have ascending : Ascending [(84 + 34 * p, [0]), (84 + 34 * p + 1, [UInt8.ofNat first.length]),
          (84 + 34 * p + 2, first)] := by
        simp [Ascending]
      have id := @Ascending.load mem (84 + 34 * p) [0] _ ascending (by simp)
      have length := @Ascending.load mem (84 + 34 * p + 1) [UInt8.ofNat first.length] _ ascending (by simp)
      have name := @Ascending.load mem (84 + 34 * p + 2) first _ ascending (by simp)
      rw [List.length_singleton] at id length
      rw [id, length, name]
      rfl
    | succ i =>
      have shift : p + (i + 1) = p + 1 + i := by omega
      rw [shift]
      exact ih rest here (p + 1)

/-- The SSIDs end with the last one. -/
theorem directScan_ends (short : ∀ ssid ∈ ssids, ssid.length ≤ 32) (ssid : List UInt8) (p : Nat) :
    Ends (directScan p (ssids ++ [ssid])) (84 + 34 * (p + ssids.length) + 2 + ssid.length) := by
  rw [directScan_append]
  have last : Ends (directScan (p + ssids.length) [ssid]) (84 + 34 * (p + ssids.length) + 2 + ssid.length) := by
    refine ⟨?_, (84 + 34 * (p + ssids.length) + 2, ssid), by simp [directScan], rfl⟩
    simp only [directScan, List.append_nil, List.forall_mem_cons, List.length_singleton]
    refine ⟨by omega, by omega, Nat.le_refl _, fun _ none => absurd none List.not_mem_nil⟩
  exact last.append_right ((directScan_region short p).mono (Nat.le_refl _) (by omega))

end DirectScan

/-! ### The fixed part -/

section FixedPart

variable {mem : Ram} {priv : ScanPriv} {request : ScanRequest}

/-- The other SSIDs of a request are not longer than any SSID. -/
theorem others_short (short : ∀ ssid ∈ request.ssids, ssid.length ≤ 32) :
    ∀ ssid ∈ request.ssids.tail.reverse, ssid.length ≤ 32 := by
  intro ssid member
  exact short ssid (List.mem_of_mem_tail (List.mem_reverse.mp member))

theorem quietPart_region (priv : ScanPriv) : Region 0 20 (quietPart priv) := by
  unfold quietPart
  rw [region_append]
  constructor
  · simp
  · split <;> simp

theorem txPart_region (priv : ScanPriv) (isActive : Bool) : Region 0 72 (txPart priv isActive) := by
  unfold txPart
  rw [region_append, region_append]
  refine ⟨⟨by simp, ?_⟩, by simp⟩
  cases priv.scanBand with
  | ghz5 => exact region_nil
  | ghz2 =>
    dsimp only
    rw [region_append]
    refine ⟨by simp, ?_⟩
    split <;> simp

/-- **The fixed part** is in front of the data, and ends where the last of it is written. -/
theorem fixedPart_region (short : ∀ ssid ∈ request.ssids, ssid.length ≤ 32)
    (few : request.ssids.length ≤ probeOptionMax) (priv : ScanPriv) : Region 0 764 (fixedPart priv request) := by
  have others := directScan_region (others_short short) 0
  unfold probeOptionMax at few
  rw [List.length_reverse, List.length_tail] at others
  unfold fixedPart
  rw [region_append, region_append]
  exact ⟨⟨(quietPart_region priv).mono (Nat.le_refl _) (by decide), others.mono (by decide) (by omega)⟩,
    (txPart_region priv _).mono (Nat.le_refl _) (by decide)⟩

/-- Where the fixed part ends. -/
theorem fixedPart_ends (short : ∀ ssid ∈ request.ssids, ssid.length ≤ 32) (priv : ScanPriv) :
    Ends (fixedPart priv request) (fixedEnd request) := by
  have stop (isActive : Bool) : Ends (txPart priv isActive) 72 := by
    refine ⟨fun write member => (txPart_region priv isActive write member).2, (68, leBytes 4 0xFFFFFFFF), ?_, rfl⟩
    simp [txPart]
  have quiet : Region 0 72 (quietPart priv) := (quietPart_region priv).mono (Nat.le_refl _) (by decide)
  have others := others_short short
  unfold fixedPart fixedEnd
  cases ssids : request.ssids with
  | nil => exact (stop _).append_right (region_append.mpr ⟨quiet, region_nil⟩)
  | cons first tail =>
    cases tail with
    | nil => exact (stop _).append_right (region_append.mpr ⟨quiet, region_nil⟩)
    | cons second later =>
      rw [ssids, List.tail_cons, List.reverse_cons] at others
      have ends := directScan_ends (fun ssid member => others ssid (List.mem_append_left _ member)) second 0
      rw [List.length_reverse, Nat.zero_add] at ends
      rw [List.tail_cons, List.reverse_cons]
      exact (ends.append_right (quiet.mono (Nat.le_refl _) (by omega))).append_left
        ((txPart_region priv _).mono (Nat.le_refl _) (by omega))

end FixedPart

/-! ### The probe request -/

section Probe

variable {mem : Ram} {ta : Vector UInt8 6} {ssid ies : List UInt8}

theorem probeHeader_region (ta : Vector UInt8 6) : Region 764 788 (probeHeader ta) := by
  simp [probeHeader]

theorem ssidElement_region (ssid : List UInt8) : Region 788 (790 + ssid.length) (ssidElement ssid) := by
  unfold ssidElement
  rw [region_append]
  refine ⟨by simp only [region_cons, List.length_singleton, region_nil, and_true]; omega, ?_⟩
  split
  · simp
  · exact region_nil

/-- Nothing is copied of an empty string. -/
theorem storeAll_unless_nil (mem : Ram) (addr : Nat) (bytes : List UInt8) :
    storeAll mem (if bytes ≠ [] then [(addr, bytes)] else []) = store mem addr bytes := by
  by_cases some : bytes ≠ []
  · rw [if_pos some]
    rfl
  · obtain rfl := not_not.mp some
    funext a
    unfold store
    rw [if_neg some, if_neg (by rw [List.length_nil]; omega)]
    rfl

/-- The stores of a whole probe request. -/
def probeStores (ta : Vector UInt8 6) (ssid ies : List UInt8) : List (Nat × List UInt8) :=
  [(764, leBytes 2 0x0040), (768, List.replicate 6 0xff), (774, ta.toList), (780, List.replicate 6 0xff),
    (786, leBytes 2 0), (788, [0]), (789, [UInt8.ofNat ssid.length]), (790, ssid), (790 + ssid.length, ies)]

theorem probeStores_ascending : Ascending (probeStores ta ssid ies) := by
  simp [Ascending, probeStores]
  omega

theorem probe_stores (mem : Ram) : storeAll mem (probeHeader ta ++ ssidElement ssid ++
    if ies ≠ [] then [(790 + ssid.length, ies)] else []) = storeAll mem (probeStores ta ssid ies) := by
  unfold ssidElement
  rw [storeAll_append, storeAll_unless_nil, ← List.append_assoc, storeAll_append, storeAll_unless_nil]
  rfl

/-- **The probe request**, as it is read back. -/
theorem probe_load (clear : load mem 766 2 = [0, 0]) :
    load (storeAll mem (probeStores ta ssid ies)) 764 (26 + ssid.length + ies.length) =
      [0x40, 0, 0, 0] ++ List.replicate 6 0xff ++ ta.toList ++ List.replicate 6 0xff ++ [0, 0] ++
        [0, UInt8.ofNat ssid.length] ++ ssid ++ ies := by
  have piece {addr : Nat} {bytes : List UInt8} (member : (addr, bytes) ∈ probeStores ta ssid ies) :
      load (storeAll mem (probeStores ta ssid ies)) addr bytes.length = bytes := probeStores_ascending.load member
  have control := @piece 764 (leBytes 2 0x0040) (by simp [probeStores])
  have duration : load (storeAll mem (probeStores ta ssid ies)) 766 2 = [0, 0] := by
    rw [load_storeAll_apart, clear]
    simp [probeStores, Apart]
    omega
  have da := @piece 768 (List.replicate 6 0xff) (by simp [probeStores])
  have sa := @piece 774 ta.toList (by simp [probeStores])
  have bssid := @piece 780 (List.replicate 6 0xff) (by simp [probeStores])
  have seqCtrl := @piece 786 (leBytes 2 0) (by simp [probeStores])
  have id := @piece 788 [0] (by simp [probeStores])
  have length := @piece 789 [UInt8.ofNat ssid.length] (by simp [probeStores])
  have name := @piece 790 ssid (by simp [probeStores])
  have rest := @piece (790 + ssid.length) ies (by simp [probeStores])
  rw [length_leBytes] at control seqCtrl
  rw [List.length_replicate] at da bssid
  rw [Vector.length_toList] at sa
  rw [List.length_singleton] at id length
  have parts : 26 + ssid.length + ies.length =
      2 + (2 + (6 + (6 + (6 + (2 + (1 + (1 + (ssid.length + ies.length)))))))) := by
    omega
  rw [parts]
  iterate 9 rw [load_add]
  rw [control, duration, da, sa, bssid, seqCtrl, id, length, name, rest]
  simp only [List.append_assoc]
  rfl

/-- **The probe request is inside** whatever buffer it is filled into. -/
theorem fillProbe_region (ta : Vector UInt8 6) (ies ssid : List UInt8) (size : Nat) :
    Region 764 size (iwlFillProbeReq ta ies ssid (size - 764)).1 := by
  have header (room : 788 ≤ size) : Region 764 size (probeHeader ta) :=
    (probeHeader_region ta).mono (Nat.le_refl _) room
  have element (room : 790 + ssid.length ≤ size) : Region 764 size (probeHeader ta ++ ssidElement ssid) :=
    region_append.mpr ⟨header (by omega), (ssidElement_region ssid).mono (by decide) room⟩
  unfold iwlFillProbeReq
  dsimp only
  by_cases none : (size : Int) - 764 - 24 < 0
  · rw [if_pos none]
    exact region_nil
  · rw [if_neg none]
    by_cases short : (size : Int) - 764 - 24 - (ssid.length + 2) < 0
    · rw [if_pos short]
      exact header (by omega)
    · rw [if_neg short]
      by_cases few : (size : Int) - 764 - 24 - (ssid.length + 2) < ies.length
      · rw [if_pos few]
        exact element (by omega)
      · rw [if_neg few]
        refine region_append.mpr ⟨element (by omega), ?_⟩
        split
        · simp only [region_cons, region_nil, and_true]
          omega
        · exact region_nil

theorem fillProbe_length (ta : Vector UInt8 6) (request : ScanRequest) (size : Nat) :
    (iwlFillProbeReq ta request.ie (request.ssids.headD []) (size - 764)).2 = probeRoom request size := by
  unfold iwlFillProbeReq probeRoom probeLength
  dsimp only
  by_cases element : (size : Int) < 764 + 26 + (request.ssids.headD []).length
  · rw [if_pos element]
    by_cases header : (size : Int) - 764 - 24 < 0
    · rw [if_pos header]
    · rw [if_neg header, if_pos (by omega)]
  · rw [if_neg element, if_neg (by omega), if_neg (by omega)]
    by_cases rest : (size : Int) < 764 + (26 + (request.ssids.headD []).length + request.ie.length : Nat)
    · rw [if_pos rest, if_pos (by omega)]
      dsimp only
      omega
    · rw [if_neg rest, if_neg (by omega)]
      dsimp only
      congr 1
      omega

/-- All of the probe request is written when there is room for it. -/
theorem fillProbe_whole {ta : Vector UInt8 6} {ies ssid : List UInt8} {size : Nat}
    (room : 764 + (26 + ssid.length + ies.length) ≤ size) : (iwlFillProbeReq ta ies ssid (size - 764)).1 =
      probeHeader ta ++ ssidElement ssid ++ if ies ≠ [] then [(790 + ssid.length, ies)] else [] := by
  unfold iwlFillProbeReq
  dsimp only
  rw [if_neg (by omega), if_neg (by omega), if_neg (by omega)]

end Probe

/-! ### The channels -/

theorem iwlLimitDwell_le (priv : ScanPriv) (dwellTime : Nat) : iwlLimitDwell priv dwellTime ≤ dwellTime := by
  unfold iwlLimitDwell
  split
  · exact Nat.le_trans (Nat.min_le_right _ _) (Nat.min_le_right _ _)
  · exact Nat.min_le_right _ _
  · exact Nat.le_refl _

/-- **The channels**: the entries of those of the band, with a passive dwell time above the active one. -/
theorem channelsForScan_eq (priv : ScanPriv) (request : ScanRequest) (isActive : Bool) {nProbes : Nat}
    (few : nProbes < 2 ^ 8) (scanCh : Nat) : ∃ activeDwell passiveDwell, activeDwell < passiveDwell ∧
      passiveDwell < 2 ^ 16 ∧ iwlGetChannelsForScan priv request isActive nProbes scanCh =
        (channelList isActive nProbes activeDwell passiveDwell scanCh (bandChannels priv request),
          (bandChannels priv request).length) := by
  have active : iwlGetActiveDwellTime priv.scanBand nProbes < 2 ^ 10 := by
    unfold iwlGetActiveDwellTime
    split <;> exact Nat.lt_of_le_of_lt (Nat.mod_le _ _) (by omega)
  have passive : iwlGetPassiveDwellTime priv priv.scanBand ≤ 120 := by
    refine Nat.le_trans (iwlLimitDwell_le priv _) ?_
    split <;> decide
  refine ⟨iwlGetActiveDwellTime priv.scanBand nProbes,
    if iwlGetPassiveDwellTime priv priv.scanBand ≤ iwlGetActiveDwellTime priv.scanBand nProbes then
      (iwlGetActiveDwellTime priv.scanBand nProbes + 1) % 2 ^ 16
    else iwlGetPassiveDwellTime priv priv.scanBand, ?_, ?_, ?_⟩
  · split <;> omega
  · split <;> omega
  · unfold iwlGetChannelsForScan bandChannels
    cases priv.hwMode with
    | false => rfl
    | true => exact channelLoop_eq priv.scanBand request.channels scanCh

end IntelWifi.Dvm.ScanCommand
