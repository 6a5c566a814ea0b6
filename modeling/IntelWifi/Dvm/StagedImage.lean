/-
**The image that a commit stages.**

A commit prepares the staging image: the basic rates, and four flags. Doing it twice is doing it once; and neither it
nor `iwl_set_rxon_hwcrypto` nor the `rx_chain` matters to `iwl_full_rxon_required`, or to whether the image is
associated. So what a later commit makes of an image is known before.

* `prepareImage_idem`: prepared twice.
* `full_prepare`, `full_self`: what a full RXON is required for.
* `prepareImage_ne_zero`: a prepared image is not the one after a `memset`.
-/

import IntelWifi.Dvm.Rxon

namespace IntelWifi.Dvm.Rxon

/-! ### Flags -/

theorem or_and_distrib (x y z : UInt32) : x &&& y ||| z = (x ||| z) &&& (y ||| z) := by
  apply UInt32.toBitVec_inj.mp
  show x.toBitVec &&& y.toBitVec ||| z.toBitVec = (x.toBitVec ||| z.toBitVec) &&& (y.toBitVec ||| z.toBitVec)
  ext i
  simp only [BitVec.getElem_or, BitVec.getElem_and]
  exact Bool.or_and_distrib_right _ _ _

/-- The flags that a commit always sets. -/
def requiredFlags (useRtsForAggregation : Bool) (flags : UInt32) : UInt32 :=
  if useRtsForAggregation then flags ||| rxonFlgTsf2hostMsk else flags ||| rxonFlgTsf2hostMsk ||| rxonFlgSelfCtsEn

/-- `RXON_FLG_SHORT_SLOT_MSK`, set or cleared. -/
def shortSlotFlags (shortSlot : Bool) (flags : UInt32) : UInt32 :=
  if shortSlot then flags ||| rxonFlgShortSlotMsk else flags &&& ~~~rxonFlgShortSlotMsk

/-- The flags that a commit stages. -/
def preparedFlags (useRtsForAggregation shortSlot : Bool) (flags : UInt32) : UInt32 :=
  let flags := requiredFlags useRtsForAggregation flags
  shortSlotFlags (shortSlot || flags &&& rxonFlgBand24gMsk == 0) flags

section Flags

variable (useRts shortSlot : Bool) (flags : UInt32)

theorem requiredFlags_band : requiredFlags useRts flags &&& rxonFlgBand24gMsk = flags &&& rxonFlgBand24gMsk := by
  have apart (mask : UInt32) (none : rxonFlgBand24gMsk &&& mask = 0) (flags : UInt32) :
      (flags ||| mask) &&& rxonFlgBand24gMsk = flags &&& rxonFlgBand24gMsk := by
    rw [UInt32.and_comm, and_or_left, none, UInt32.or_zero, UInt32.and_comm]
  unfold requiredFlags
  split
  · exact apart _ rfl _
  · exact (apart _ rfl _).trans (apart _ rfl _)

theorem shortSlotFlags_band : shortSlotFlags shortSlot flags &&& rxonFlgBand24gMsk = flags &&& rxonFlgBand24gMsk := by
  unfold shortSlotFlags
  split
  · rw [UInt32.and_comm, and_or_left, show rxonFlgBand24gMsk &&& rxonFlgShortSlotMsk = 0 from rfl, UInt32.or_zero,
      UInt32.and_comm]
  · rw [UInt32.and_assoc]
    rfl

theorem preparedFlags_band :
    preparedFlags useRts shortSlot flags &&& rxonFlgBand24gMsk = flags &&& rxonFlgBand24gMsk :=
  (shortSlotFlags_band _ _).trans (requiredFlags_band _ _)

/-- What is set stays set. -/
theorem or_idem (mask : UInt32) : flags ||| mask ||| mask = flags ||| mask := by
  rw [UInt32.or_assoc, UInt32.or_self]

theorem requiredFlags_idem : requiredFlags useRts (requiredFlags useRts flags) = requiredFlags useRts flags := by
  unfold requiredFlags
  cases useRts with
  | true => exact or_idem _ _
  | false =>
    show flags ||| rxonFlgTsf2hostMsk ||| rxonFlgSelfCtsEn ||| rxonFlgTsf2hostMsk ||| rxonFlgSelfCtsEn = _
    rw [UInt32.or_assoc _ rxonFlgSelfCtsEn rxonFlgTsf2hostMsk, UInt32.or_comm rxonFlgSelfCtsEn, ← UInt32.or_assoc,
      or_idem, or_idem]
    rfl

theorem shortSlotFlags_idem :
    shortSlotFlags shortSlot (shortSlotFlags shortSlot flags) = shortSlotFlags shortSlot flags := by
  unfold shortSlotFlags
  cases shortSlot with
  | true => exact or_idem _ _
  | false =>
    show flags &&& ~~~rxonFlgShortSlotMsk &&& ~~~rxonFlgShortSlotMsk = _
    rw [UInt32.and_assoc, UInt32.and_self]
    rfl

/-- A flag other than the short slot's. -/
theorem shortSlotFlags_or {mask : UInt32} (apart : ~~~rxonFlgShortSlotMsk ||| mask = ~~~rxonFlgShortSlotMsk) :
    shortSlotFlags shortSlot (flags ||| mask) = shortSlotFlags shortSlot flags ||| mask := by
  unfold shortSlotFlags
  cases shortSlot with
  | true =>
    show flags ||| mask ||| rxonFlgShortSlotMsk = flags ||| rxonFlgShortSlotMsk ||| mask
    rw [UInt32.or_assoc, UInt32.or_comm mask, ← UInt32.or_assoc]
  | false =>
    show (flags ||| mask) &&& ~~~rxonFlgShortSlotMsk = flags &&& ~~~rxonFlgShortSlotMsk ||| mask
    rw [or_and_distrib, apart]

theorem shortSlotFlags_required :
    shortSlotFlags shortSlot (requiredFlags useRts flags) = requiredFlags useRts (shortSlotFlags shortSlot flags) := by
  unfold requiredFlags
  cases useRts with
  | true => exact shortSlotFlags_or _ _ rfl
  | false => exact (shortSlotFlags_or _ _ rfl).trans (congrArg (· ||| rxonFlgSelfCtsEn) (shortSlotFlags_or _ _ rfl))

theorem preparedFlags_idem :
    preparedFlags useRts shortSlot (preparedFlags useRts shortSlot flags) = preparedFlags useRts shortSlot flags := by
  unfold preparedFlags
  dsimp only
  rw [← shortSlotFlags_required, requiredFlags_idem, shortSlotFlags_band, shortSlotFlags_idem]

/-- They are not those after a `memset`. -/
theorem preparedFlags_ne_zero : preparedFlags useRts shortSlot flags ≠ 0 := by
  intro none
  have has : preparedFlags useRts shortSlot flags ||| rxonFlgTsf2hostMsk = preparedFlags useRts shortSlot flags := by
    unfold preparedFlags
    dsimp only
    rw [← shortSlotFlags_or _ _ rfl]
    unfold requiredFlags
    cases useRts with
    | true => rw [if_pos rfl, or_idem]
    | false =>
      rw [if_neg Bool.false_ne_true, UInt32.or_assoc _ rxonFlgSelfCtsEn, UInt32.or_comm rxonFlgSelfCtsEn,
        ← UInt32.or_assoc, or_idem]
  rw [none] at has
  exact absurd has (by decide)

end Flags

/-! ### Images -/

/-- The image that a commit with such an interface prepares. -/
def prepareImage (vif : Option Vif) (useRtsForAggregation : Bool) (image : RxonCmd) : RxonCmd :=
  { image with
    ofdmBasicRates := (iwlCalcBasicRates vif).1
    cckBasicRates := (iwlCalcBasicRates vif).2
    flags := preparedFlags useRtsForAggregation ((vif.map Vif.useShortSlot).getD false) image.flags }

theorem prepared_eq (call : CommitCall) :
    call.prepared = prepareImage call.vif call.useRtsForAggregation call.staging := by
  unfold CommitCall.prepared prepareImage preparedFlags requiredFlags shortSlotFlags
  dsimp only
  cases call.useRtsForAggregation with
  | true =>
    rw [if_neg (show ¬ (!true) = true by decide), if_pos rfl]
    split <;> rfl
  | false =>
    rw [if_pos (show (!false) = true by decide), if_neg Bool.false_ne_true]
    split <;> rfl

section Images

variable (vif : Option Vif) (useRts hwDecrypt : Bool) (image active : RxonCmd)

theorem prepareImage_idem :
    prepareImage vif useRts (prepareImage vif useRts image) = prepareImage vif useRts image := by
  unfold prepareImage
  dsimp only
  rw [preparedFlags_idem]

theorem prepareImage_ne_zero : prepareImage vif useRts image ≠ .zero := fun zero =>
  preparedFlags_ne_zero _ _ _ (congrArg RxonCmd.flags zero)

theorem prepareImage_hwcrypto : prepareImage vif useRts (iwlSetRxonHwcrypto image hwDecrypt) =
    iwlSetRxonHwcrypto (prepareImage vif useRts image) hwDecrypt := by
  cases hwDecrypt <;> rfl

theorem check_hwcrypto : iwlCheckRxonCmd (iwlSetRxonHwcrypto image hwDecrypt) = iwlCheckRxonCmd image := by
  cases hwDecrypt <;> rfl

theorem full_prepare :
    iwlFullRxonRequired (prepareImage vif useRts image) active = iwlFullRxonRequired image active := by
  unfold iwlFullRxonRequired prepareImage
  dsimp only
  rw [preparedFlags_band]

/-- What is active needs no full RXON, if it is associated. -/
theorem full_self : iwlFullRxonRequired image image = !image.assoc := by
  simp [iwlFullRxonRequired]

end Images

end IntelWifi.Dvm.Rxon
