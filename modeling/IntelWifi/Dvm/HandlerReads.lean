/-
**Which bytes of a packet its handlers read.**

No handler compares the length of a packet with what it reads, except that of statistics. A packet that
is shorter than the structure of its command is read past its end; so are an MPDU whose byte count, and
a notice of absence whose attribute length, says more than there is. The callback of calibration takes a
length below the command header for a huge one. And the table of handlers ends before command `0xff`.

* `dispatch_inside_iff`: every read is inside the packet exactly when what its callbacks and its handler
  read in this state is there, and its command has an entry or no wait is registered.
* `longMpdu_outside`: an MPDU whose byte count says 100 in a packet with 16 bytes.
-/

import IntelWifi.Dvm.RxHandlers

namespace IntelWifi.Dvm

open Bytes Checked

variable {env : RxEnv} {priv : RxPriv} {pkt : RxMemory}

/-! ### Reads -/

/-- The payload has this many bytes. -/
def HasData (pkt : RxMemory) (n : Nat) : Prop := 8 + n ≤ packetEnd pkt

instance (n : Nat) : Decidable (HasData pkt n) := inferInstanceAs (Decidable (_ ≤ _))

theorem HasData.mono {m n : Nat} (has : HasData pkt n) (le : m ≤ n) : HasData pkt m := by
  unfold HasData at *
  omega

/-- A field of the payload. -/
def dataAt (pkt : RxMemory) (offset n : Nat) : Nat := leAt pkt (8 + offset) n

theorem readAt_yields (pkt : RxMemory) (offset n : Nat) :
    Yields (readAt pkt offset n) (offset + n ≤ packetEnd pkt) (· = leAt pkt offset n) :=
  ⟨fun inside => ⟨_, if_pos inside, rfl⟩, fun outside => if_neg outside⟩

theorem field_yields (pkt : RxMemory) (offset n : Nat) :
    Yields (field pkt offset n) (HasData pkt (offset + n)) (· = dataAt pkt offset n) := by
  refine (readAt_yields pkt (8 + offset) n).congr ?_
  unfold HasData
  omega

theorem copyData_yields (pkt : RxMemory) (offset n : Nat) :
    Yields (copyData pkt offset n) (HasData pkt (offset + n)) fun _ => True := by
  constructor
  · intro inside
    exact ⟨_, if_pos (by unfold HasData at inside; omega), trivial⟩
  · intro outside
    exact if_neg (by unfold HasData at outside; omega)

/-- Arguments of an output that reach up to here. -/
theorem showFields_yields {fields : List (Nat × Nat)} (n : Nat)
    (upTo : ∀ at' ∈ fields, at'.1 + at'.2 ≤ n) (reached : ∃ at' ∈ fields, at'.1 + at'.2 = n) :
    Yields (showFields pkt fields) (HasData pkt n) fun _ => True := by
  have each : Yields (showFields pkt fields) (∀ at' ∈ fields, HasData pkt (at'.1 + at'.2)) fun _ => True :=
    yields_each fun at' =>
      ((field_yields pkt at'.1 at'.2).bind fun _ _ => yields_ok trivial).congr (and_iff_left trivial)
  refine each.congr ⟨fun all => ?_, fun has at' member => has.mono (upTo at' member)⟩
  obtain ⟨at', member, rfl⟩ := reached
  exact all at' member

theorem debug_yields {level : BitVec 32} {fields : List (Nat × Nat)} (n : Nat)
    (upTo : ∀ at' ∈ fields, at'.1 + at'.2 ≤ n) (reached : ∃ at' ∈ fields, at'.1 + at'.2 = n) :
    Yields (iwlDebug env.build level pkt fields) (env.build.prints level = true → HasData pkt n)
      fun _ => True := by
  refine (yields_ite (fun _ => showFields_yields n upTo reached) fun _ => yields_ok trivial).congr ?_
  exact and_iff_left fun _ => trivial

/-! ### What a handler reads -/

/-- What is read of the payload is there. -/
def RxHandler.Fits (env : RxEnv) (priv : RxPriv) (pkt : RxMemory) : RxHandler → Prop
  | .replyError => HasData pkt 12
  | .csa => priv.channelSwitchPending = true → HasData pkt 8
  | .spectrumMeasure => HasData pkt 4 ∧ (dataAt pkt 3 1 ≠ 0 → HasData pkt spectrumSize)
  | .pmSleep => env.build.prints dlRx = true → HasData pkt 2
  | .pmDebugStatistics => True
  | .beacon => HasData pkt 48
  | .addSta => HasData pkt 1
  | .noa => HasData pkt 4 ∧ (dataAt pkt 0 4 ≠ 0 →
      HasData pkt 7 ∧ (env.noaAlloc = true → HasData pkt (7 + dataAt pkt 5 2)))
  | .replyStatistics => HasData pkt 4
  | .statistics => True
  | .replyScan => env.build.prints dlScan = true → HasData pkt 4
  | .scanStart => HasData pkt 4 ∧ (env.build.prints dlScan = true → HasData pkt 20)
  | .scanResults => env.build.prints dlScan = true → HasData pkt 16
  | .scanComplete => (env.build.prints dlScan = true → HasData pkt 12) ∧
      (priv.adhoc = false ∧ priv.advancedBtCoexist = true → HasData pkt 3)
  | .cardState => HasData pkt 4
  | .missedBeacon => HasData pkt 4 ∧ (priv.missedBeaconThreshold.toNat < dataAt pkt 0 4 →
      env.build.prints dlCalib = true → HasData pkt 16)
  | .replyRxPhy => HasData pkt rxPhyResSize
  | .replyRx => priv.lastPhyResValid = true → HasData pkt (8 + dataAt pkt 0 2)

theorem replyError_safe : Safe (iwlagnRxReplyError priv pkt) ↔ HasData pkt 12 :=
  (showFields_yields 12 (by decide) (by decide)).safe_bind_iff fun _ _ _ => safe_ok _

theorem csa_safe :
    Safe (iwlagnRxCsa env priv pkt) ↔ (priv.channelSwitchPending = true → HasData pkt 8) := by
  unfold iwlagnRxCsa
  cases priv.channelSwitchPending with
  | false => exact iff_of_true (safe_ok _) fun pending => (nomatch pending)
  | true =>
    refine Iff.trans ?_ (forall_prop_of_true rfl).symm
    refine (field_yields pkt 4 4).safe_bind_iff fun has status _ => ?_
    refine (field_yields pkt 2 2).safe_then (has.mono (by decide)) fun channel _ => ?_
    refine safe_ite.mpr ⟨fun _ => ?_, fun _ => ?_⟩
    · exact (debug_yields 4 (by decide) (by decide)).safe_then (fun _ => has.mono (by decide))
        fun _ _ => safe_ok _
    · exact (showFields_yields 4 (by decide) (by decide)).safe_then (has.mono (by decide))
        fun _ _ => safe_ok _

theorem spectrumMeasure_safe : Safe (iwlagnRxSpectrumMeasureNotif priv pkt) ↔
    HasData pkt 4 ∧ (dataAt pkt 3 1 ≠ 0 → HasData pkt spectrumSize) := by
  refine (field_yields pkt 3 1).safe_bind ?_
  rintro _ rfl
  by_cases start : dataAt pkt 3 1 = 0
  · rw [if_pos start]
    exact iff_of_true (safe_ok _) fun stop => absurd start stop
  · rw [if_neg start]
    refine Iff.trans ?_ (forall_prop_of_true start).symm
    exact (copyData_yields pkt 0 spectrumSize).safe_bind_iff fun _ _ _ => safe_ok _

theorem pmSleep_safe : Safe (iwlagnRxPmSleepNotif env priv pkt) ↔
    (env.build.prints dlRx = true → HasData pkt 2) :=
  (debug_yields 2 (by decide) (by decide)).safe_bind_iff fun _ _ _ => safe_ok _

theorem pmDebugStatistics_safe : Safe (iwlagnRxPmDebugStatisticsNotif priv pkt) :=
  (readAt_yields pkt 0 4).safe_then (by unfold packetEnd; omega) fun _ _ => safe_ok _

theorem beacon_safe : Safe (iwlagnRxBeaconNotif env priv pkt) ↔ HasData pkt 48 := by
  unfold iwlagnRxBeaconNotif
  cases env.build.iwlwifiDebug with
  | false => exact (field_yields pkt 44 4).safe_bind_iff fun _ _ _ => safe_ok _
  | true =>
    refine ((showFields_yields 34 (by decide) (by decide)).safe_bind fun _ _ =>
      (debug_yields 48 (by decide) (by decide)).safe_bind fun _ _ =>
        (field_yields pkt 44 4).safe_bind_iff fun _ _ _ => safe_ok _).trans ?_
    exact ⟨fun all => all.2.2, fun has => ⟨has.mono (by decide), fun _ => has, has⟩⟩

theorem processAddStaResp_yields :
    Yields (iwlProcessAddStaResp env pkt) (HasData pkt 1) fun _ => True := by
  constructor
  · intro has
    obtain ⟨status, read, -⟩ := (field_yields pkt 0 1).value has
    unfold iwlProcessAddStaResp
    rw [read, ok_bind]
    by_cases known : status = 1 ∨ status = 2 ∨ status = 4 ∨ status = 8
    · rw [if_pos known]
      exact ⟨(), rfl, trivial⟩
    · rw [if_neg known]
      exact (debug_yields 1 (by decide) (by decide)).value fun _ => has
  · intro short
    unfold iwlProcessAddStaResp
    rw [(field_yields pkt 0 1).fault short]
    rfl

theorem addSta_safe : Safe (iwlAddStaCallback env priv pkt) ↔ HasData pkt 1 :=
  processAddStaResp_yields.safe_bind_iff fun _ _ _ => safe_ok _

theorem cardState_safe : Safe (iwlagnRxCardStateNotif priv pkt) ↔ HasData pkt 4 :=
  (field_yields pkt 0 4).safe_bind_iff fun _ _ _ => safe_ok _

theorem missedBeacon_safe : Safe (iwlagnRxMissedBeaconNotif env priv pkt) ↔
    HasData pkt 4 ∧ (priv.missedBeaconThreshold.toNat < dataAt pkt 0 4 →
      env.build.prints dlCalib = true → HasData pkt 16) := by
  refine (field_yields pkt 0 4).safe_bind ?_
  rintro _ rfl
  by_cases many : priv.missedBeaconThreshold.toNat < dataAt pkt 0 4
  · rw [if_pos many]
    refine Iff.trans ?_ (forall_prop_of_true many).symm
    exact (debug_yields 16 (by decide) (by decide)).safe_bind_iff fun _ _ _ => safe_ok _
  · rw [if_neg many]
    exact iff_of_true (safe_ok _) fun is => absurd is many

/-! ### Statistics -/

/-- The parts are inside the structure. -/
def StatsLayout.Sized (layout : StatsLayout) : Prop :=
  4 ≤ layout.size ∧ layout.common + 80 ≤ layout.size ∧ layout.rxNonPhy + 84 ≤ layout.size ∧
    layout.rxOfdm + 80 ≤ layout.size ∧ layout.rxOfdmHt + 40 ≤ layout.size ∧
    layout.rxCck + 80 ≤ layout.size ∧ layout.tx + 104 ≤ layout.size

instance (layout : StatsLayout) : Decidable layout.Sized := inferInstanceAs (Decidable (_ ∧ _))

section Statistics

variable {layout : StatsLayout} (sized : layout.Sized) (has : HasData pkt layout.size)

include sized has

theorem recoverFromStatistics_ok (env : RxEnv) (priv : RxPriv) :
    ∃ calls, recoverFromStatistics env priv pkt layout = .ok calls := by
  obtain ⟨-, -, -, ofdm, ofdmHt, -, -⟩ := sized
  obtain ⟨err, read, -⟩ := (field_yields pkt (layout.rxOfdm + ofdmPlcpErr) 4).value
    (has.mono (by unfold ofdmPlcpErr; omega))
  obtain ⟨errHt, readHt, -⟩ := (field_yields pkt (layout.rxOfdmHt + ofdmHtPlcpErr) 4).value
    (has.mono (by unfold ofdmHtPlcpErr; omega))
  unfold recoverFromStatistics
  rw [read, readHt]
  dsimp only [ok_bind]
  split_ifs <;> exact ⟨_, rfl⟩

theorem copyStatistics_ok (flag : Nat) : ∃ copied, copyStatistics pkt layout flag = .ok copied := by
  obtain ⟨-, common, rxNonPhy, rxOfdm, rxOfdmHt, rxCck, tx⟩ := sized
  have part (offset n : Nat) (inside : offset + n ≤ layout.size) :
      ∃ bytes, copyData pkt offset n = .ok bytes :=
    ((copyData_yields pkt offset n).value (has.mono inside)).imp fun _ both => both.1
  obtain ⟨_, read₁⟩ := part _ _ common
  obtain ⟨_, read₂⟩ := part _ _ rxNonPhy
  obtain ⟨_, read₃⟩ := part _ _ rxOfdm
  obtain ⟨_, read₄⟩ := part _ _ rxOfdmHt
  obtain ⟨_, read₅⟩ := part _ _ rxCck
  obtain ⟨_, read₆⟩ := part _ _ tx
  unfold copyStatistics
  rw [read₁, read₂, read₃, read₄, read₅, read₆]
  exact ⟨_, rfl⟩

theorem readCmd_ok : readCmdUnlessScanning priv pkt = .ok () := by
  unfold readCmdUnlessScanning
  cases priv.scanning with
  | true => rfl
  | false =>
    obtain ⟨_, read, -⟩ := (readAt_yields pkt 4 1).value (by
      obtain ⟨four, -⟩ := sized
      unfold HasData at has
      omega)
    rw [read]
    rfl

theorem rxStatisticsOf_safe : Safe (rxStatisticsOf env priv pkt layout) := by
  have inside := sized
  obtain ⟨flag, common, -⟩ := inside
  obtain ⟨calls, recovers⟩ := recoverFromStatistics_ok sized has env priv
  refine (field_yields pkt 0 4).safe_then (has.mono (by omega)) fun flag _ => ?_
  refine (field_yields pkt layout.common 4).safe_then (has.mono (by omega)) fun temperature _ => ?_
  obtain ⟨copied, copies⟩ := copyStatistics_ok sized has flag
  dsimp only
  rw [recovers, ok_bind, copies, ok_bind, readCmd_ok sized has]
  exact safe_ok _

end Statistics

/-- A length that was compared is a length that is there. -/
theorem hasData_of_payloadLen {size : Nat} (bound : size < 2 ^ 14)
    (same : rxPacketPayloadLen pkt = BitVec.ofNat 32 size) : HasData pkt size := by
  have values := congrArg BitVec.toNat same
  have small : rxPacketLen pkt < 2 ^ 14 := Nat.mod_lt _ (by decide)
  unfold rxPacketPayloadLen at values
  rw [BitVec.toNat_sub, BitVec.toNat_ofNat, BitVec.toNat_ofNat, BitVec.toNat_ofNat] at values
  unfold HasData packetEnd
  omega

/-- **Statistics are compared with their size first.** -/
theorem statistics_safe : Safe (iwlagnRxStatistics env priv pkt) := by
  unfold iwlagnRxStatistics
  refine safe_ite.mpr ⟨fun bt => ?_, fun _ => safe_ite.mpr ⟨fun normal => ?_, fun _ => safe_ok _⟩⟩
  · exact rxStatisticsOf_safe (by decide) (hasData_of_payloadLen (by decide) bt)
  · exact rxStatisticsOf_safe (by decide) (hasData_of_payloadLen (by decide) normal)

theorem replyStatistics_safe : Safe (iwlagnRxReplyStatistics env priv pkt) ↔ HasData pkt 4 :=
  (field_yields pkt 0 4).safe_bind_iff fun _ _ _ => statistics_safe

/-! ### Scans -/

theorem replyScan_safe : Safe (iwlRxReplyScan env priv pkt) ↔
    (env.build.prints dlScan = true → HasData pkt 4) :=
  (debug_yields 4 (by decide) (by decide)).safe_bind_iff fun _ _ _ => safe_ok _

theorem scanStart_safe : Safe (iwlRxScanStartNotif env priv pkt) ↔
    HasData pkt 4 ∧ (env.build.prints dlScan = true → HasData pkt 20) :=
  (field_yields pkt 0 4).safe_bind fun _ _ =>
    (debug_yields 20 (by decide) (by decide)).safe_bind_iff fun _ _ _ => safe_ok _

theorem scanResults_safe : Safe (iwlRxScanResultsNotif env priv pkt) ↔
    (env.build.prints dlScan = true → HasData pkt 16) :=
  (debug_yields 16 (by decide) (by decide)).safe_bind_iff fun _ _ _ => safe_ok _

theorem scanComplete_safe : Safe (iwlRxScanCompleteNotif env priv pkt) ↔
    (env.build.prints dlScan = true → HasData pkt 12) ∧
      (priv.adhoc = false ∧ priv.advancedBtCoexist = true → HasData pkt 3) := by
  refine (debug_yields 12 (by decide) (by decide)).safe_bind fun _ _ => ?_
  dsimp only
  cases priv.adhoc with
  | true => exact iff_of_true (safe_ok _) fun both => (nomatch both.1)
  | false =>
    cases priv.advancedBtCoexist with
    | false => exact iff_of_true (safe_ok _) fun both => (nomatch both.2)
    | true =>
      refine Iff.trans ?_ (forall_prop_of_true ⟨rfl, rfl⟩).symm
      exact (field_yields pkt 2 1).safe_bind_iff fun _ _ _ => safe_ok _

/-! ### Frames -/

theorem replyRxPhy_safe : Safe (iwlagnRxReplyRxPhy priv pkt) ↔ HasData pkt rxPhyResSize := by
  refine ((copyData_yields pkt 0 rxPhyResSize).safe_bind_iff fun _ _ _ => safe_ok _).trans ?_
  rw [Nat.zero_add]

/-- The header of a frame is there when its status is. -/
theorem passPacket_safe (has : HasData pkt 6) (status : Nat) :
    Safe (iwlagnPassPacketToMac80211 env priv pkt status) := by
  unfold iwlagnPassPacketToMac80211
  refine safe_ite.mpr ⟨fun _ => safe_ok _, fun _ => safe_ite.mpr ⟨fun _ => safe_ok _, fun _ => ?_⟩⟩
  obtain ⟨fc, read, -⟩ := (field_yields pkt 4 2).value has
  unfold iwlagnSetDecryptedFlag
  rw [read]
  exact safe_ok _

theorem replyRx_safe : Safe (iwlagnRxReplyRx env priv pkt) ↔
    (priv.lastPhyResValid = true → HasData pkt (8 + dataAt pkt 0 2)) := by
  unfold iwlagnRxReplyRx
  cases priv.lastPhyResValid with
  | false => exact iff_of_true (safe_ok _) fun valid => (nomatch valid)
  | true =>
    refine Iff.trans ?_ (forall_prop_of_true rfl).symm
    have both : HasData pkt 2 ∧ HasData pkt (8 + dataAt pkt 0 2) ↔ HasData pkt (8 + dataAt pkt 0 2) :=
      ⟨fun both => both.2, fun has => ⟨has.mono (by omega), has⟩⟩
    refine Iff.trans ((field_yields pkt 0 2).safe_bind ?_) both
    rintro _ rfl
    refine Iff.trans ((field_yields pkt (4 + dataAt pkt 0 2) 4).safe_bind_iff fun has status _ => ?_) ?_
    · refine safe_ite.mpr ⟨fun _ => safe_ok _, fun _ => safe_ite.mpr ⟨fun _ => safe_ok _, fun _ => ?_⟩⟩
      exact passPacket_safe (has.mono (by omega)) _
    · rw [Nat.add_right_comm]

theorem noa_safe : Safe (iwlagnRxNoaNotification env priv pkt) ↔
    HasData pkt 4 ∧ (dataAt pkt 0 4 ≠ 0 →
      HasData pkt 7 ∧ (env.noaAlloc = true → HasData pkt (7 + dataAt pkt 5 2))) := by
  refine (field_yields pkt 0 4).safe_bind ?_
  rintro _ rfl
  by_cases idle : dataAt pkt 0 4 = 0
  · rw [if_pos idle]
    exact iff_of_true (safe_ok _) fun active => absurd idle active
  · rw [if_neg idle]
    refine Iff.trans ?_ (forall_prop_of_true idle).symm
    refine (field_yields pkt 5 2).safe_bind ?_
    rintro _ rfl
    cases env.noaAlloc with
    | false => exact iff_of_true (safe_ok _) fun got => (nomatch got)
    | true =>
      refine Iff.trans ?_ (forall_prop_of_true rfl).symm
      refine ((copyData_yields pkt 4 (dataAt pkt 5 2 + 3)).safe_bind_iff fun _ _ _ => safe_ok _).trans ?_
      unfold HasData
      omega

/-- **A handler reads inside the packet exactly when what it reads is there.** -/
theorem RxHandler.safe_iff (handler : RxHandler) :
    Safe (handler.call env priv pkt) ↔ handler.Fits env priv pkt := by
  cases handler with
  | replyError => exact replyError_safe
  | csa => exact csa_safe
  | spectrumMeasure => exact spectrumMeasure_safe
  | pmSleep => exact pmSleep_safe
  | pmDebugStatistics => exact iff_true_intro pmDebugStatistics_safe
  | beacon => exact beacon_safe
  | addSta => exact addSta_safe
  | noa => exact noa_safe
  | replyStatistics => exact replyStatistics_safe
  | statistics => exact iff_true_intro statistics_safe
  | replyScan => exact replyScan_safe
  | scanStart => exact scanStart_safe
  | scanResults => exact scanResults_safe
  | scanComplete => exact scanComplete_safe
  | cardState => exact cardState_safe
  | missedBeacon => exact missedBeacon_safe
  | replyRxPhy => exact replyRxPhy_safe
  | replyRx => exact replyRx_safe

/-! ### Callbacks -/

/-- What a callback reads is there. The calibration result is copied from the payload, which there is
when there is a command header; where no memory is left its first byte is printed. -/
def WaitFn.Fits (env : RxEnv) (pkt : RxMemory) (i : Nat) : WaitFn → Prop
  | .alive => HasData pkt 32
  | .calib => 1 ≤ rxPacketLen pkt ∧ ((packetHdr pkt).cmd = calibrationRes →
      HasData pkt (if (env.calibAlloc i).isSome then 0 else 1))

/-- What the callbacks read that the packet reaches is there, from a place in the list on. -/
def WaitsFit (env : RxEnv) (pkt : RxMemory) : Nat → List RxWait → Prop
  | _, [] => True
  | i, w :: later =>
    (w.wants pkt = true → ∀ fn, w.fn = some fn → fn.Fits env pkt i) ∧ WaitsFit env pkt (i + 1) later

theorem aliveFn_yields (boot : BootData) :
    Yields (iwlAliveFn env pkt boot) (HasData pkt 32) fun _ => True := by
  refine ((debug_yields 32 (by decide) (by decide)).bind fun _ _ => (field_yields pkt 20 4).bind fun _ _ =>
    (field_yields pkt 16 4).bind fun _ _ => (field_yields pkt 13 1).bind fun _ _ =>
      (field_yields pkt 28 4).bind fun _ _ => yields_ok trivial).congr ?_
  exact ⟨fun all => all.2.2.2.2.1, fun has => ⟨fun _ => has, has.mono (by decide), has.mono (by decide),
    has.mono (by decide), has, trivial⟩⟩

/-- The length of the copy, as `memcpy` takes it: the payload, or nearly all of the memory. -/
theorem calibCopy_length : ((rxPacketPayloadLen pkt).signExtend 64).toNat =
    if 4 ≤ rxPacketLen pkt then rxPacketLen pkt - 4 else 2 ^ 64 - 4 + rxPacketLen pkt := by
  have small : rxPacketLen pkt < 2 ^ 14 := Nat.mod_lt _ (by decide)
  have value : (rxPacketPayloadLen pkt).toNat = (2 ^ 32 - 4 + rxPacketLen pkt) % 2 ^ 32 := by
    unfold rxPacketPayloadLen
    rw [BitVec.toNat_sub, BitVec.toNat_ofNat, BitVec.toNat_ofNat]
    omega
  rw [BitVec.toNat_signExtend, BitVec.msb_eq_decide, BitVec.toNat_setWidth, value]
  by_cases header : 4 ≤ rxPacketLen pkt
  · have positive : ¬ 2 ^ (32 - 1) ≤ (2 ^ 32 - 4 + rxPacketLen pkt) % 2 ^ 32 := by omega
    rw [if_pos header, decide_eq_false positive, if_neg Bool.false_ne_true]
    omega
  · have negative : 2 ^ (32 - 1) ≤ (2 ^ 32 - 4 + rxPacketLen pkt) % 2 ^ 32 := by omega
    rw [if_neg header, decide_eq_true negative, if_pos rfl]
    omega

theorem calibCopy_fits :
    HasData pkt (0 + ((rxPacketPayloadLen pkt).signExtend 64).toNat) ↔ HasData pkt 0 := by
  have small : rxPacketLen pkt < 2 ^ 14 := Nat.mod_lt _ (by decide)
  unfold HasData packetEnd
  rw [calibCopy_length]
  split <;> omega

theorem waitCalib_yields (i : Nat) (boot : BootData) :
    Yields (iwlagnWaitCalib pkt (env.calibAlloc i) boot) (WaitFn.calib.Fits env pkt i) fun _ => True := by
  have read := (readAt_yields pkt 4 1).congr
    (show 4 + 1 ≤ packetEnd pkt ↔ 1 ≤ rxPacketLen pkt by unfold packetEnd; omega)
  refine read.bind ?_
  rintro _ rfl
  have cmd : leAt pkt 4 1 = (packetHdr pkt).cmd := rfl
  rw [cmd]
  by_cases other : (packetHdr pkt).cmd ≠ calibrationRes
  · rw [if_pos other]
    exact yields_value trivial fun same => absurd same other
  · rw [if_neg other]
    refine Yields.congr ?_ (forall_prop_of_true (not_not.mp other)).symm
    unfold iwlCalibSet
    cases env.calibAlloc i with
    | none =>
      exact ((showFields_yields 1 (by decide) (by decide)).bind fun _ _ => yields_ok trivial).congr
        (and_iff_left trivial)
    | some fresh =>
      refine Yields.congr ?_ calibCopy_fits
      constructor
      · intro has
        obtain ⟨copied, copies, -⟩ := (copyData_yields pkt 0 _).value has
        dsimp only
        rw [copies]
        exact ⟨_, rfl, trivial⟩
      · intro short
        dsimp only
        rw [(copyData_yields pkt 0 _).fault short]
        rfl

/-- A turn of the loop. -/
theorem evaluateWait_yields (i : Nat) (boot : BootData) (w : RxWait) :
    Yields (evaluateWait env pkt i boot w)
      (w.wants pkt = true → ∀ fn, w.fn = some fn → fn.Fits env pkt i) fun _ => True := by
  unfold evaluateWait
  cases w.wants pkt with
  | false => exact yields_value trivial fun wants => (nomatch wants)
  | true =>
    refine Yields.congr ?_ (forall_prop_of_true rfl).symm
    cases w.fn with
    | none => exact yields_value trivial fun fn some => (nomatch some)
    | some fn =>
      have one : fn.Fits env pkt i ↔ ∀ other, some fn = some other → other.Fits env pkt i :=
        ⟨fun fits other same => Option.some.inj same ▸ fits, fun all => all fn rfl⟩
      refine Yields.congr ?_ one
      cases fn with
      | alive =>
        exact ((aliveFn_yields boot).bind fun _ _ => yields_ok trivial).congr (and_iff_left trivial)
      | calib =>
        exact ((waitCalib_yields i boot).bind fun _ _ => yields_ok trivial).congr (and_iff_left trivial)

/-- **The loop over the waits**: it takes none out of the list. -/
theorem notificationWait_yields (i : Nat) (boot : BootData) (waits : List RxWait) :
    Yields (iwlNotificationWait env pkt i boot waits) (WaitsFit env pkt i waits)
      fun after => after.2.length = waits.length := by
  induction waits generalizing i boot with
  | nil => exact yields_ok rfl
  | cons w later ih =>
    refine (evaluateWait_yields i boot w).bind fun ⟨boot, w⟩ _ => ?_
    refine ((ih (i + 1) boot).bind fun ⟨boot, rest⟩ same => ?_).congr (and_iff_left trivial)
    exact yields_ok (congrArg Nat.succ same)

/-! ### A packet -/

/-- The callbacks change nothing that a handler looks at. -/
theorem RxHandler.fits_after (handler : RxHandler) (boot : BootData) (waits : List RxWait) :
    handler.Fits env (priv.evaluated boot waits) pkt ↔ handler.Fits env priv pkt := by
  cases handler <;> exact Iff.rfl

/-- Nor the registered waits. -/
theorem entryCallable_after (boot : BootData) {waits : List RxWait} (same : waits.length = priv.notifWaits.length)
    (cmd : Nat) : (priv.evaluated boot waits).entryCallable cmd = priv.entryCallable cmd := by
  have empty : waits.isEmpty = priv.notifWaits.isEmpty := by
    rw [Bool.eq_iff_iff, List.isEmpty_iff_length_eq_zero, List.isEmpty_iff_length_eq_zero, same]
  exact congrArg (decide (cmd < replyMax) || ·) empty

theorem rxHandlerAt_yields (priv : RxPriv) (cmd : Nat) :
    Yields (priv.rxHandlerAt cmd) (priv.entryCallable cmd = true) (· = rxHandlers cmd) :=
  ⟨fun callable => ⟨_, if_pos callable, rfl⟩, fun stray => if_neg stray⟩

/-- **Every read is inside the packet** exactly when what the callbacks that it reaches and the handler
of its command read is there, and no wait is called for a handler. -/
theorem dispatch_inside_iff (env : RxEnv) (priv : RxPriv) (pkt : RxMemory) :
    Safe (iwlRxDispatch env priv pkt) ↔ WaitsFit env pkt 0 priv.notifWaits ∧
      ((packetHdr pkt).cmd < replyMax ∨ priv.notifWaits = []) ∧
        ∀ handler, rxHandlers (packetHdr pkt).cmd = some handler → handler.Fits env priv pkt := by
  have notify : Yields (iwlNotificationWaitNotify env priv pkt) (WaitsFit env pkt 0 priv.notifWaits)
      fun after => ∃ boot waits, waits.length = priv.notifWaits.length ∧ after.1 = priv.evaluated boot waits := by
    refine ((notificationWait_yields 0 priv.boot priv.notifWaits).bind fun ⟨boot, waits⟩ same => ?_).congr
      (and_iff_left trivial)
    exact yields_ok ⟨boot, waits, same, rfl⟩
  have callable : priv.entryCallable (packetHdr pkt).cmd = true ↔
      (packetHdr pkt).cmd < replyMax ∨ priv.notifWaits = [] := by
    unfold RxPriv.entryCallable
    rw [Bool.or_eq_true, decide_eq_true_iff, List.isEmpty_iff]
  refine notify.safe_bind ?_
  rintro ⟨_, notified⟩ ⟨boot, waits, same, rfl⟩
  dsimp only
  rw [← callable, ← entryCallable_after boot same]
  refine (rxHandlerAt_yields _ _).safe_bind ?_
  rintro _ rfl
  cases rxHandlers (packetHdr pkt).cmd with
  | none => exact iff_of_true (safe_ok _) fun handler some => (nomatch some)
  | some handler =>
    have one : handler.Fits env priv pkt ↔
        ∀ other, some handler = some other → other.Fits env priv pkt :=
      ⟨fun fits other same => Option.some.inj same ▸ fits, fun all => all handler rfl⟩
    rw [← one, ← handler.fits_after boot waits, ← handler.safe_iff]
    exact safe_map

/-- A driver that is open and has cached PHY data. -/
def openPriv : RxPriv where
  channelSwitchPending := false
  exitPending := false
  scanning := false
  scanHw := false
  scanComplete := false
  rfKillHw := false
  statisticsReady := false
  anyAssociated := false
  isOpen := true
  disDecrypt := false
  switchChannel := 0
  activeChannel := 0
  stagingChannel := 0
  measureReport := []
  measurementReady := false
  ibssManager := 0
  plcpDeltaThreshold := 0
  missedBeaconThreshold := 5#32
  statistics := ⟨0, [], [], [], [], [], []⟩
  rxStatisticsJiffies := 0#64
  hasTemperature := true
  lastPhyRes := List.replicate 60 0
  lastPhyResValid := true
  ampduRef := 1#32
  ucodeBeaconTime := 0
  noaData := none
  scanStartTsf := 0
  adhoc := false
  advancedBtCoexist := false
  btStatus := 0
  btTrafficLoad := 0
  btChAnnounce := false
  boot := ⟨0, 0, []⟩
  notifWaits := []

def quietEnv : RxEnv where
  build := ⟨false, false, 0#32⟩
  swcrypto := false
  jiffies := 0#64
  calibAlloc := fun _ => none
  noaAlloc := true

/-- `REPLY_RX_MPDU_CMD` with a payload of 16 bytes, the first of which say that the frame has 100. -/
def longMpdu : RxMemory :=
  [20, 0, 0, 0] ++ [0xc1, 0, 0, 0x80] ++ [100, 0, 0, 0] ++ List.replicate 12 0

/-- A wait that no packet is for. -/
def idleWait : RxWait := ⟨.unused, none, ⟨false, 0⟩⟩

/-- A packet of command `0xff`, with nothing but its header. -/
def strayPacket : RxMemory := [4, 0, 0, 0] ++ [0xff, 0, 0, 0x80]

example : iwlRxDispatch quietEnv { openPriv with notifWaits := [idleWait] } strayPacket = .error .fault := rfl

/-- Its status is read 88 bytes behind the end of the packet. -/
theorem longMpdu_outside : ¬ Safe (iwlRxDispatch quietEnv openPriv longMpdu) := by
  have fault : iwlRxDispatch quietEnv openPriv longMpdu = .error .fault := rfl
  rw [fault]
  exact not_safe_fault

end IntelWifi.Dvm
