/-
**The slots of the PAN.**

`iwlagn_set_pan_params` divides the time between BSS and PAN. The widths are computed as `int`s, from the DTIM
period and the beacon intervals, and stored in 16 bits each.

* `panSlots_iff`: when the slots fit their fields, and leave each interface some time.
* `panParamsRight_iff`: when the stored widths are the computed ones, and none is too small.
-/

import IntelWifi.Dvm.BeaconTiming

namespace IntelWifi.Dvm.PanParams

open Timing (IfType)

/-! ### The call -/

/-- Of an interface: its type, and of its `bss_conf` what is read. -/
structure PanVif where
  type : IfType
  dtimPeriod : UInt8
  idle : Bool
  assoc : Bool

/-- What `iwlagn_set_pan_params` finds. -/
structure PanState where
  /-- `valid_contexts` is `BIT(IWL_RXON_CTX_BSS)`. -/
  bssOnly : Bool
  /-- PAN's `is_active`. -/
  panActive : Bool
  bssVif : Option PanVif
  panVif : Option PanVif
  bssBeaconInt : UInt16
  panBeaconInt : UInt16
  /-- `STATUS_SCAN_HW`. -/
  scanHw : Bool

/-- `struct iwl_wipan_slot`. -/
structure WipanSlot where
  /-- `__le16`. -/
  width : Nat
  type : UInt8
  deriving DecidableEq

/-- `struct iwl_wipan_params_cmd`, with the two slots in use. -/
structure WipanParamsCmd where
  flags : UInt16
  numSlots : UInt8
  slot0 : WipanSlot
  slot1 : WipanSlot
  deriving DecidableEq

/-- `IWL_MIN_SLOT_TIME`. -/
def iwlMinSlotTime : Int := 20

/-- `DEFAULT_BEACON_INTERVAL`. -/
def defaultBeaconInterval : Int := 200

/-- The beacon interval that both slots go by when there are two interfaces. -/
def bcnint (priv : PanState) (pan : PanVif) : Int :=
  let bcnint : Int := priv.panBeaconInt.toNat
  let bssBeaconInt : Int := priv.bssBeaconInt.toNat
  let bcnint :=
    if pan.type = .ap ∧ bcnint ≠ 0 ∧ bcnint ≠ bssBeaconInt then bcnint
    else max bcnint bssBeaconInt
  if bcnint = 0 then defaultBeaconInterval else bcnint

/-- `bss_conf.dtim_period ?: 1`. -/
def dtim (vif : PanVif) : Int := if vif.dtimPeriod = 0 then 1 else vif.dtimPeriod.toNat

/-- The interface is looking for its network. -/
def PanVif.connecting (vif : PanVif) : Bool := !vif.idle && !vif.assoc

/-- `slot0` and `slot1`, as `int`s. -/
def panSlots (priv : PanState) : Int × Int :=
  match priv.bssVif, priv.panVif with
  | some bss, some pan =>
    let slot0 := bcnint priv pan / 2
    let slot1 := bcnint priv pan - slot0
    if priv.scanHw || bss.connecting then (dtim pan * bcnint priv pan * 3 - iwlMinSlotTime, iwlMinSlotTime)
    else if pan.connecting then (iwlMinSlotTime, dtim pan * bcnint priv pan * 3 - iwlMinSlotTime)
    else (slot0, slot1)
  | none, some pan =>
    let slot1 : Int := max 1 pan.dtimPeriod.toNat * priv.panBeaconInt.toNat
    let slot1 := max defaultBeaconInterval slot1
    if priv.scanHw then (slot1 * 3 - iwlMinSlotTime, iwlMinSlotTime) else (0, slot1)
  | _, none => (300, 0)

/-- `cpu_to_le16`. -/
def le16 (width : Int) : Nat := (width % 2 ^ 16).toNat

/-- `iwlagn_set_pan_params`: the command that is sent, if one is. -/
def iwlagnSetPanParams (priv : PanState) : Option WipanParamsCmd :=
  if priv.bssOnly then none
  else if !priv.panActive then none
  else
    let (slot0, slot1) := panSlots priv
    some {
      -- `IWL_WIPAN_PARAMS_FLG_SLOTTED_MODE`
      flags := if priv.bssVif.isSome && priv.panVif.isSome then 0x8 else 0
      numSlots := 2
      slot0 := ⟨le16 slot0, 0⟩
      slot1 := ⟨le16 slot1, 1⟩ }

/-! ### What the slots should be -/

/-- **What the command should say**: the computed widths, and at least one time unit for each interface. -/
structure WipanParamsCmd.Right (priv : PanState) (cmd : WipanParamsCmd) : Prop where
  width0 : (cmd.slot0.width : Int) = (panSlots priv).1
  width1 : (cmd.slot1.width : Int) = (panSlots priv).2
  bss : priv.bssVif.isSome = true → 1 ≤ cmd.slot0.width
  pan : priv.panVif.isSome = true → 1 ≤ cmd.slot1.width

/-- What is sent, if anything is, says what it should. -/
def PanParamsRight (priv : PanState) : Prop := ∀ cmd, iwlagnSetPanParams priv = some cmd → cmd.Right priv

/-- Three DTIM periods leave a slot, and fit. -/
def longSlotFits (period : Int) : Prop := 20 < period * 3 ∧ period * 3 ≤ 65555

/-- **The condition**, by who has an interface. -/
def panSlotsFit (priv : PanState) : Prop :=
  match priv.bssVif, priv.panVif with
  | some bss, some pan =>
    if priv.scanHw || bss.connecting || pan.connecting then longSlotFits (dtim pan * bcnint priv pan)
    else 2 ≤ bcnint priv pan
  | none, some pan =>
    let period : Int := max 1 pan.dtimPeriod.toNat * priv.panBeaconInt.toNat
    if priv.scanHw then period * 3 ≤ 65555 else period ≤ 65535
  | _, none => True

variable {priv : PanState}

/-! ### Widths -/

/-- **The 16 bits hold the width.** -/
theorem le16_eq_iff (width : Int) : (le16 width : Int) = width ↔ 0 ≤ width ∧ width ≤ 65535 := by
  unfold le16
  omega

theorem one_le_le16 {width : Int} (same : (le16 width : Int) = width) : 1 ≤ le16 width ↔ 1 ≤ width := by
  omega

theorem bcnint_pos (priv : PanState) (pan : PanVif) : 1 ≤ bcnint priv pan ∧ bcnint priv pan ≤ 65535 := by
  have bss := priv.bssBeaconInt.toNat_lt
  have own := priv.panBeaconInt.toNat_lt
  unfold bcnint defaultBeaconInterval
  dsimp only
  split <;> split <;> omega

/-- A pair of widths, with who has an interface. -/
theorem right_iff {bss pan : Bool} {slot0 slot1 : Int} :
    ((le16 slot0 : Int) = slot0 ∧ (le16 slot1 : Int) = slot1 ∧ (bss = true → 1 ≤ le16 slot0) ∧
        (pan = true → 1 ≤ le16 slot1)) ↔
      (0 ≤ slot0 ∧ slot0 ≤ 65535) ∧ (0 ≤ slot1 ∧ slot1 ≤ 65535) ∧ (bss = true → 1 ≤ slot0) ∧
        (pan = true → 1 ≤ slot1) := by
  rw [← le16_eq_iff, ← le16_eq_iff]
  constructor
  · rintro ⟨w0, w1, first, second⟩
    exact ⟨w0, w1, fun is => (one_le_le16 w0).mp (first is), fun is => (one_le_le16 w1).mp (second is)⟩
  · rintro ⟨w0, w1, first, second⟩
    exact ⟨w0, w1, fun is => (one_le_le16 w0).mpr (first is), fun is => (one_le_le16 w1).mpr (second is)⟩

/-- **The slots are right** when the condition holds. -/
theorem panSlots_iff (priv : PanState) :
    ((0 ≤ (panSlots priv).1 ∧ (panSlots priv).1 ≤ 65535) ∧ (0 ≤ (panSlots priv).2 ∧ (panSlots priv).2 ≤ 65535) ∧
      (priv.bssVif.isSome = true → 1 ≤ (panSlots priv).1) ∧ (priv.panVif.isSome = true → 1 ≤ (panSlots priv).2)) ↔
      panSlotsFit priv := by
  unfold panSlots panSlotsFit
  cases bssVif : priv.bssVif with
  | none =>
    cases panVif : priv.panVif with
    | none => simp
    | some pan =>
      dsimp only
      generalize period : (max 1 pan.dtimPeriod.toNat * priv.panBeaconInt.toNat : Int) = period
      unfold defaultBeaconInterval iwlMinSlotTime
      cases priv.scanHw with
      | false => simp
      | true => simp; omega
  | some bss =>
    cases panVif : priv.panVif with
    | none => simp
    | some pan =>
      obtain ⟨least, most⟩ := bcnint_pos priv pan
      dsimp only
      generalize bcnint priv pan = interval at least most
      generalize dtim pan * interval = period
      unfold longSlotFits iwlMinSlotTime
      cases priv.scanHw || bss.connecting with
      | true => simp; omega
      | false =>
        cases pan.connecting with
        | true => simp; omega
        | false => simp; omega

/-- **When the command says what it should**: nothing is sent, or the slots of the interfaces fit. -/
theorem panParamsRight_iff (priv : PanState) :
    PanParamsRight priv ↔ priv.bssOnly = true ∨ priv.panActive = false ∨ panSlotsFit priv := by
  unfold PanParamsRight iwlagnSetPanParams
  cases priv.bssOnly with
  | true => simp
  | false =>
    cases active : priv.panActive with
    | false => simp
    | true =>
      rw [← panSlots_iff, ← right_iff]
      simp only [Bool.false_eq_true, if_false, Bool.not_true, Option.some.injEq, forall_eq', false_or]
      constructor
      · intro right
        refine .inr ⟨right.width0, right.width1, right.bss, right.pan⟩
      · rintro (no | ⟨w0, w1, bss, pan⟩)
        · cases no
        · exact ⟨w0, w1, bss, pan⟩

/-- A station and an access point with beacon interval 100, while the device scans. -/
def scanning (dtimPeriod : UInt8) : PanState where
  bssOnly := false
  panActive := true
  bssVif := some ⟨.station, 1, false, true⟩
  panVif := some ⟨.ap, dtimPeriod, false, true⟩
  bssBeaconInt := 100
  panBeaconInt := 100
  scanHw := true

/-- A DTIM period of 255: 76480 time units are stored as 10944. -/
theorem longDtim_wraps : panSlots (scanning 255) = (76480, 20) ∧
    (iwlagnSetPanParams (scanning 255)).map (fun cmd => cmd.slot0.width) = some 10944 ∧
    ¬ PanParamsRight (scanning 255) := by
  refine ⟨by decide, by decide, fun right => ?_⟩
  have width := (right _ rfl).width0
  revert width
  decide

end IntelWifi.Dvm.PanParams
