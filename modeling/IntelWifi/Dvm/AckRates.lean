/-
**The rates of control responses.**

`iwl_calc_basic_rates` makes the bitmaps of rates with which the device responds to a frame. The standard asks for
the highest basic rate up to that of the frame, and for the highest mandatory one where no basic rate is so low. The
bitmaps have the basic rates, and the mandatory rates that are lower than all basic rates.

* `isGreatest_ack_iff`: of one modulation class, the highest rate of such a bitmap up to that of a frame is the
  one that the standard asks for.
* `calcBasicRates_eq`: the code goes through the bits of `basic_rates`, and comes to these bitmaps.
* `calcBasicRates_response`: so they give the responses of the standard.
-/

import IntelWifi.Dvm.Rxon
import IntelWifi.Lib.Folds
import IntelWifi.Nvm.Eeprom
import IntelWifi.Porting.FindNextBit
import Mathlib.Order.Bounds.Basic

namespace IntelWifi.Dvm.Rxon

open Checked Folds Porting
open IntelWifi.Nvm (Nl80211Band)

/-! ### The code -/

/-- The `hw_value` of each of `iwl_cfg80211_rates`. -/
def iwlCfg80211Rates : List Nat := [0, 1, 2, 3, 4, 5, 6, 7, 8, 9, 10, 11]

/-- `sband->bitrates`, from `RATES_24_OFFS` or `RATES_52_OFFS` on. -/
def bitrates : Nl80211Band → List Nat
  | .ghz2 => iwlCfg80211Rates
  | .ghz5 => iwlCfg80211Rates.drop 4

/-- The variables of the loop. -/
structure BasicRates where
  lowestPresentOfdm : Nat
  lowestPresentCck : Nat
  cck : UInt8
  ofdm : UInt8
  deriving DecidableEq, Repr

def BasicRates.start : BasicRates := ⟨100, 100, 0, 0⟩

/-- What a basic rate does. -/
def BasicRates.add (rates : BasicRates) (hw : Nat) : BasicRates :=
  if iwlFirstOfdmRate ≤ hw then
    { rates with
      ofdm := rates.ofdm ||| rateBit (hw - iwlFirstOfdmRate)
      lowestPresentOfdm := if hw < rates.lowestPresentOfdm then hw else rates.lowestPresentOfdm }
  else
    { rates with
      cck := rates.cck ||| rateBit hw
      lowestPresentCck := if hw < rates.lowestPresentCck then hw else rates.lowestPresentCck }

/-- The body of the loop. -/
def basicRateTurn (band : Nl80211Band) (rates : BasicRates) (i : Nat) : Outcome Empty BasicRates :=
  match (bitrates band)[i]? with
  | some hw => .ok (rates.add hw)
  | none => .error .fault

/-- What follows the loop. -/
def BasicRates.finish (rates : BasicRates) : UInt8 × UInt8 :=
  let ofdm := if 8 < rates.lowestPresentOfdm then rates.ofdm ||| 0x10 else rates.ofdm
  let ofdm := if 6 < rates.lowestPresentOfdm then ofdm ||| 0x04 else ofdm
  let ofdm := ofdm ||| 0x01
  let cck := if 3 < rates.lowestPresentCck then rates.cck ||| 0x08 else rates.cck
  let cck := if 2 < rates.lowestPresentCck then cck ||| 0x04 else cck
  let cck := if 1 < rates.lowestPresentCck then cck ||| 0x02 else cck
  (ofdm, cck ||| 0x01)

/-- `iwl_calc_basic_rates` with an interface: `basic` is `bss_conf.basic_rates`. -/
def calcBasicRates (fuel : Nat) (band : Nl80211Band) (basic : Word) : Option (Outcome Empty (UInt8 × UInt8)) :=
  (forEachSetBit fuel [basic] bitsPerLong (basicRateTurn band) .start).map fun looped => looped.map BasicRates.finish

/-! ### What the standard asks for -/

section Standard

variable {α : Type} [LinearOrder α] {basic mandatory ack : α → Prop} {frame rate : α}

/-- The rate of a response to a frame: the highest basic one up to that of the frame, else the highest mandatory one. -/
def IsResponse (basic mandatory : α → Prop) (frame rate : α) : Prop :=
  ((∃ b, b ≤ frame ∧ basic b) ∧ IsGreatest {b | b ≤ frame ∧ basic b} rate) ∨
    ((¬ ∃ b, b ≤ frame ∧ basic b) ∧ IsGreatest {m | m ≤ frame ∧ mandatory m} rate)

/-- **The basic rates and the lower mandatory ones** have the right highest rate. -/
theorem isGreatest_ack_iff (ack_iff : ∀ r, ack r ↔ basic r ∨ mandatory r ∧ ∀ b, basic b → r < b) :
    IsGreatest {r | r ≤ frame ∧ ack r} rate ↔ IsResponse basic mandatory frame rate := by
  unfold IsResponse
  by_cases low : ∃ b, b ≤ frame ∧ basic b
  · rw [and_iff_right low, or_iff_left fun high => high.1 low]
    obtain ⟨b, below, is_basic⟩ := low
    constructor
    · rintro ⟨⟨rate_below, is_ack⟩, highest⟩
      have reaches : b ≤ rate := highest ⟨below, (ack_iff b).mpr (.inl is_basic)⟩
      have rate_basic : basic rate := ((ack_iff rate).mp is_ack).resolve_right fun lower =>
        absurd (lower.2 b is_basic) (not_lt.mpr reaches)
      exact ⟨⟨rate_below, rate_basic⟩, fun r inside => highest ⟨inside.1, (ack_iff r).mpr (.inl inside.2)⟩⟩
    · rintro ⟨⟨rate_below, rate_basic⟩, highest⟩
      refine ⟨⟨rate_below, (ack_iff rate).mpr (.inl rate_basic)⟩, fun r inside => ?_⟩
      rcases (ack_iff r).mp inside.2 with r_basic | lower
      · exact highest ⟨inside.1, r_basic⟩
      · exact (lower.2 rate rate_basic).le
  · rw [or_iff_right fun some_low => low some_low.1, and_iff_right low]
    have same : {r | r ≤ frame ∧ ack r} = {r | r ≤ frame ∧ mandatory r} := by
      ext r
      refine and_congr_right fun below => ?_
      rw [ack_iff]
      constructor
      · exact fun is_ack => (is_ack.resolve_left fun is_basic => low ⟨r, below, is_basic⟩).1
      · refine fun is_mandatory => .inr ⟨is_mandatory, fun b is_basic => ?_⟩
        exact lt_of_not_ge fun above => low ⟨b, above.trans below, is_basic⟩
    rw [same]

end Standard

/-! ### The bitmaps -/

/-- The rate has its bit; `first` is the rate of bit 0. -/
def HasRate (first : Nat) (bitmap : UInt8) (rate : Nat) : Prop :=
  first ≤ rate ∧ bitmap.toBitVec.getLsbD (rate - first) = true

/-- A rate of the OFDM class, and one of the CCK class. -/
def Ofdm (rate : Nat) : Prop := iwlFirstOfdmRate ≤ rate
def Cck (rate : Nat) : Prop := rate < iwlFirstOfdmRate

/-- The mandatory rates: 6, 12 and 24 Mbps are `IWL_RATE_6M_INDEX` and so on; all of CCK. -/
def MandatoryOfdm (rate : Nat) : Prop := rate = 4 ∨ rate = 6 ∨ rate = 8
def MandatoryCck (rate : Nat) : Prop := rate = 0 ∨ rate = 1 ∨ rate = 2 ∨ rate = 3

section Bitmaps

variable {rates : List Nat} {i j : Nat}

theorem getLsbD_or (a b : UInt8) (i : Nat) :
    (a ||| b).toBitVec.getLsbD i = (a.toBitVec.getLsbD i || b.toBitVec.getLsbD i) := by
  rw [UInt8.toBitVec_or, BitVec.getLsbD_or]

theorem getLsbD_rateBit (inside : i < 8) : (rateBit j).toBitVec.getLsbD i = decide (i = j) := by
  unfold rateBit
  rw [UInt8.toBitVec_ofNat', BitVec.getLsbD_ofNat, Nat.one_shiftLeft, Nat.testBit_two_pow, decide_eq_true inside,
    Bool.true_and]
  exact decide_eq_decide.mpr eq_comm

theorem getLsbD_ite_or {c : Prop} [Decidable c] (a b : UInt8) (i : Nat) :
    (if c then a ||| b else a).toBitVec.getLsbD i = (a.toBitVec.getLsbD i || (decide c && b.toBitVec.getLsbD i)) := by
  split
  · next holds => rw [getLsbD_or, decide_eq_true holds, Bool.true_and]
  · next not => rw [decide_eq_false not, Bool.false_and, Bool.or_false]

/-- The bits of rates, one after the other. -/
theorem getLsbD_foldl_rateBit (inside : i < 8) (place : Nat → Nat) (start : UInt8) :
    (rates.foldl (fun acc hw => acc ||| rateBit (place hw)) start).toBitVec.getLsbD i =
      (start.toBitVec.getLsbD i || rates.any fun hw => i = place hw) := by
  have law (acc : UInt8) (hw : Nat) : (acc ||| rateBit (place hw)).toBitVec.getLsbD i =
      (acc.toBitVec.getLsbD i || decide (i = place hw)) := by
    rw [getLsbD_or, getLsbD_rateBit inside]
  exact @foldl_any _ _ _ (fun acc : UInt8 => acc.toBitVec.getLsbD i) _ law rates start

/-- A rate is basic, and of the class. -/
def Basic (rates : List Nat) (ofClass : Nat → Prop) (rate : Nat) : Prop := rate ∈ rates ∧ ofClass rate

/-- What `lowest_present_ofdm` and `lowest_present_cck` are compared with. -/
theorem lt_lowest_iff {p : Nat → Bool} {bound : Nat} (low : bound < 100) :
    bound < (rates.filter p).foldl min 100 ↔ ∀ b ∈ rates, p b = true → bound < b := by
  rw [lt_foldl_min_iff, and_iff_right low]
  exact ⟨fun all b member holds => all b (List.mem_filter.mpr ⟨member, holds⟩),
    fun all b member => all b (List.mem_filter.mp member).1 (List.mem_filter.mp member).2⟩

theorem rateBits : rateBit 0 = 0x01 ∧ rateBit 1 = 0x02 ∧ rateBit 2 = 0x04 ∧ rateBit 3 = 0x08 ∧ rateBit 4 = 0x10 := by
  decide

/-- The bits of `ofdm`. -/
theorem getLsbD_ofdm {vif : Vif} (inside : i < 8) : (iwlCalcBasicRates (some vif)).1.toBitVec.getLsbD i = true ↔
    (∃ b, Basic vif.basicRates Ofdm b ∧ i = b - iwlFirstOfdmRate) ∨ ((∀ b, Basic vif.basicRates Ofdm b → 8 < b) ∧ i = 4) ∨
      ((∀ b, Basic vif.basicRates Ofdm b → 6 < b) ∧ i = 2) ∨ i = 0 := by
  obtain ⟨bit0, _, bit2, _, bit4⟩ := rateBits
  unfold iwlCalcBasicRates
  dsimp only [Option.map_some, Option.getD_some]
  rw [← bit0, ← bit2, ← bit4, getLsbD_or, getLsbD_ite_or, getLsbD_ite_or,
    getLsbD_foldl_rateBit inside fun hw => hw - iwlFirstOfdmRate, getLsbD_rateBit inside, getLsbD_rateBit inside,
    getLsbD_rateBit inside]
  simp only [UInt8.toBitVec_zero, BitVec.getLsbD_zero, Bool.false_or, Bool.or_eq_true, Bool.and_eq_true,
    decide_eq_true_eq, lt_lowest_iff (show 8 < 100 by decide), lt_lowest_iff (show 6 < 100 by decide), List.any_eq_true,
    List.mem_filter, or_assoc, Basic, Ofdm, and_imp]

/-- The bits of `cck`. -/
theorem getLsbD_cck {vif : Vif} (inside : i < 8) : (iwlCalcBasicRates (some vif)).2.toBitVec.getLsbD i = true ↔
    (∃ b, Basic vif.basicRates Cck b ∧ i = b) ∨ ((∀ b, Basic vif.basicRates Cck b → 3 < b) ∧ i = 3) ∨
      ((∀ b, Basic vif.basicRates Cck b → 2 < b) ∧ i = 2) ∨ ((∀ b, Basic vif.basicRates Cck b → 1 < b) ∧ i = 1) ∨
      i = 0 := by
  obtain ⟨bit0, bit1, bit2, bit3, _⟩ := rateBits
  unfold iwlCalcBasicRates
  dsimp only [Option.map_some, Option.getD_some]
  rw [← bit0, ← bit1, ← bit2, ← bit3, getLsbD_or, getLsbD_ite_or, getLsbD_ite_or, getLsbD_ite_or,
    getLsbD_foldl_rateBit inside fun hw => hw, getLsbD_rateBit inside, getLsbD_rateBit inside, getLsbD_rateBit inside,
    getLsbD_rateBit inside]
  simp only [UInt8.toBitVec_zero, BitVec.getLsbD_zero, Bool.false_or, Bool.or_eq_true, Bool.and_eq_true,
    decide_eq_true_eq, lt_lowest_iff (show 3 < 100 by decide), lt_lowest_iff (show 2 < 100 by decide),
    lt_lowest_iff (show 1 < 100 by decide), List.any_eq_true, List.mem_filter, or_assoc, Basic, Cck, and_imp]

/-- **The OFDM bitmap** has the basic rates and the lower mandatory ones. -/
theorem ofdm_hasRate {vif : Vif} (known : ∀ b ∈ vif.basicRates, b < 12) (rate : Nat) :
    HasRate iwlFirstOfdmRate (iwlCalcBasicRates (some vif)).1 rate ↔
      Basic vif.basicRates Ofdm rate ∨ MandatoryOfdm rate ∧ ∀ b, Basic vif.basicRates Ofdm b → rate < b := by
  unfold HasRate MandatoryOfdm
  rcases Nat.lt_or_ge rate iwlFirstOfdmRate with cck | ofdm
  · refine iff_of_false (fun has => absurd has.1 (Nat.not_le.mpr cck)) ?_
    unfold iwlFirstOfdmRate at cck
    rintro (⟨_, is⟩ | ⟨is, _⟩)
    · unfold Ofdm iwlFirstOfdmRate at is
      omega
    · omega
  rw [and_iff_right ofdm]
  unfold iwlFirstOfdmRate at ofdm ⊢
  rcases Nat.lt_or_ge rate 12 with listed | unlisted
  · rw [getLsbD_ofdm (by omega)]
    unfold iwlFirstOfdmRate
    constructor
    · rintro (⟨b, is, same⟩ | ⟨lower, same⟩ | ⟨lower, same⟩ | same)
      · have from_first : 4 ≤ b := is.2
        obtain rfl : rate = b := by omega
        exact .inl is
      · obtain rfl : rate = 8 := by omega
        exact .inr ⟨.inr (.inr rfl), lower⟩
      · obtain rfl : rate = 6 := by omega
        exact .inr ⟨.inr (.inl rfl), lower⟩
      · obtain rfl : rate = 4 := by omega
        by_cases basic : Basic vif.basicRates Ofdm 4
        · exact .inl basic
        · refine .inr ⟨.inl rfl, fun b is => lt_of_le_of_ne is.2 ?_⟩
          rintro rfl
          exact basic is
    · rintro (is | ⟨rfl | rfl | rfl, lower⟩)
      · exact .inl ⟨rate, is, rfl⟩
      · exact .inr (.inr (.inr rfl))
      · exact .inr (.inr (.inl ⟨lower, rfl⟩))
      · exact .inr (.inl ⟨lower, rfl⟩)
  · rw [BitVec.getLsbD_of_ge _ _ (by omega)]
    refine iff_of_false Bool.false_ne_true ?_
    rintro (⟨member, _⟩ | ⟨is, _⟩)
    · exact absurd (known rate member) (Nat.not_lt.mpr unlisted)
    · omega

/-- **The CCK bitmap**, likewise. -/
theorem cck_hasRate (vif : Vif) (rate : Nat) :
    HasRate 0 (iwlCalcBasicRates (some vif)).2 rate ↔
      Basic vif.basicRates Cck rate ∨ MandatoryCck rate ∧ ∀ b, Basic vif.basicRates Cck b → rate < b := by
  unfold HasRate MandatoryCck
  rw [and_iff_right (Nat.zero_le _), Nat.sub_zero]
  rcases Nat.lt_or_ge rate 8 with listed | unlisted
  · rw [getLsbD_cck listed]
    constructor
    · rintro (⟨b, is, rfl⟩ | ⟨lower, rfl⟩ | ⟨lower, rfl⟩ | ⟨lower, rfl⟩ | rfl)
      · exact .inl is
      · exact .inr ⟨.inr (.inr (.inr rfl)), lower⟩
      · exact .inr ⟨.inr (.inr (.inl rfl)), lower⟩
      · exact .inr ⟨.inr (.inl rfl), lower⟩
      · by_cases basic : Basic vif.basicRates Cck 0
        · exact .inl basic
        · refine .inr ⟨.inl rfl, fun b is => Nat.pos_of_ne_zero ?_⟩
          rintro rfl
          exact basic is
    · rintro (is | ⟨rfl | rfl | rfl | rfl, lower⟩)
      · exact .inl ⟨rate, is, rfl⟩
      · exact .inr (.inr (.inr (.inr rfl)))
      · exact .inr (.inr (.inr (.inl ⟨lower, rfl⟩)))
      · exact .inr (.inr (.inl ⟨lower, rfl⟩))
      · exact .inr (.inl ⟨lower, rfl⟩)
  · rw [BitVec.getLsbD_of_ge _ _ unlisted]
    refine iff_of_false Bool.false_ne_true ?_
    rintro (⟨_, is⟩ | ⟨is, _⟩)
    · unfold Cck iwlFirstOfdmRate at is
      omega
    · omega

end Bitmaps

/-! ### The loop -/

section Loop

variable {band : Nl80211Band} {rates : BasicRates} {indices : List Nat}

/-- Bits of rates that the band has. -/
theorem foldlM_basicRateTurn (listed : ∀ i ∈ indices, i < (bitrates band).length) :
    indices.foldlM (basicRateTurn band) rates =
      .ok ((indices.filterMap fun i => (bitrates band)[i]?).foldl BasicRates.add rates) := by
  induction indices generalizing rates with
  | nil => rfl
  | cons i later ih =>
    obtain ⟨hw, there⟩ : ∃ hw, (bitrates band)[i]? = some hw :=
      ⟨_, List.getElem?_eq_getElem (listed i List.mem_cons_self)⟩
    rw [List.foldlM_cons, basicRateTurn, there, List.filterMap_cons_some there, List.foldl_cons]
    exact ih fun i member => listed i (List.mem_cons_of_mem _ member)

/-- A bit of a rate that it does not have. -/
theorem foldlM_basicRateTurn_fault {i : Nat} (member : i ∈ indices) (unlisted : (bitrates band).length ≤ i) :
    indices.foldlM (basicRateTurn band) rates = .error .fault := by
  induction indices generalizing rates with
  | nil => cases member
  | cons first later ih =>
    rw [List.foldlM_cons, basicRateTurn]
    cases there : (bitrates band)[first]? with
    | none => rfl
    | some hw =>
      rcases List.mem_cons.mp member with rfl | member
      · rw [List.getElem?_eq_none unlisted] at there
        cases there
      · exact ih member

section Parts

variable {β : Type} (get : BasicRates → β) (update : β → Nat → β)

/-- A variable that OFDM rates change. -/
theorem foldl_add_ofdm (law : ∀ rates hw, get (rates.add hw) = if iwlFirstOfdmRate ≤ hw then update (get rates) hw else get rates)
    (hws : List Nat) (rates : BasicRates) : get (hws.foldl BasicRates.add rates) =
      (hws.filter fun hw => iwlFirstOfdmRate ≤ hw).foldl update (get rates) := by
  rw [← List.filterMap_eq_filter]
  refine foldl_part (fun rates hw => ?_) hws rates
  rw [law]
  unfold Option.guard
  by_cases ofdm : iwlFirstOfdmRate ≤ hw <;> simp [ofdm]

/-- A variable that CCK rates change. -/
theorem foldl_add_cck (law : ∀ rates hw, get (rates.add hw) = if iwlFirstOfdmRate ≤ hw then get rates else update (get rates) hw)
    (hws : List Nat) (rates : BasicRates) : get (hws.foldl BasicRates.add rates) =
      (hws.filter fun hw => hw < iwlFirstOfdmRate).foldl update (get rates) := by
  rw [← List.filterMap_eq_filter]
  refine foldl_part (fun rates hw => ?_) hws rates
  rw [law]
  unfold Option.guard
  by_cases ofdm : iwlFirstOfdmRate ≤ hw
  · simp [ofdm, Nat.not_lt.mpr ofdm]
  · simp [ofdm, Nat.not_le.mp ofdm]

end Parts

/-- The bitmaps of rates that were added. -/
theorem finish_foldl_add (useShortSlot : Bool) (hws : List Nat) :
    (hws.foldl BasicRates.add .start).finish = iwlCalcBasicRates (some ⟨useShortSlot, hws⟩) := by
  have lower (hw low : Nat) : (if hw < low then hw else low) = min low hw := by
    rw [Nat.min_def]
    split <;> split <;> omega
  have ofdm := foldl_add_ofdm BasicRates.ofdm (fun acc hw => acc ||| rateBit (hw - iwlFirstOfdmRate))
    (fun rates hw => by unfold BasicRates.add; split <;> rfl) hws .start
  have lowestOfdm := foldl_add_ofdm BasicRates.lowestPresentOfdm min
    (fun rates hw => by unfold BasicRates.add; split <;> simp [lower]) hws .start
  have cck := foldl_add_cck BasicRates.cck (fun acc hw => acc ||| rateBit hw)
    (fun rates hw => by unfold BasicRates.add; split <;> rfl) hws .start
  have lowestCck := foldl_add_cck BasicRates.lowestPresentCck min
    (fun rates hw => by unfold BasicRates.add; split <;> simp [lower]) hws .start
  unfold BasicRates.finish
  rw [ofdm, lowestOfdm, cck, lowestCck]
  rfl

end Loop

/-- The rates of the bits of `basic_rates`. -/
def ratesOf (band : Nl80211Band) (basic : Word) : List Nat :=
  ((List.range bitsPerLong).filter basic.getLsbD).filterMap fun i => (bitrates band)[i]?

theorem mem_ratesOf {band : Nl80211Band} {basic : Word} {rate : Nat} : rate ∈ ratesOf band basic ↔
    ∃ i, basic.getLsbD i = true ∧ (bitrates band)[i]? = some rate := by
  unfold ratesOf
  rw [List.mem_filterMap]
  refine exists_congr fun i => and_congr_left fun _ => ?_
  rw [List.mem_filter, List.mem_range, and_iff_right_iff_imp]
  exact BitVec.lt_of_getLsbD

theorem ratesOf_lt {band : Nl80211Band} {basic : Word} : ∀ b ∈ ratesOf band basic, b < 12 := by
  intro b member
  obtain ⟨i, _, there⟩ := mem_ratesOf.mp member
  have all : ∀ b ∈ bitrates band, b < 12 := by cases band <;> decide
  exact all b (List.mem_of_getElem? there)

/-- The bits of one word. -/
theorem storedBit_singleton (basic : Word) {i : Nat} (inside : i < bitsPerLong) : storedBit i [basic] = basic.getLsbD i := by
  have first : bitWord i = 0 := Nat.div_eq_of_lt inside
  rw [storedBit, wordAt, first, Nat.mod_eq_of_lt (show i < 64 from inside)]
  rfl

/-- **The loop comes to the bitmaps of the basic rates**, unless there is a bit without a rate. -/
theorem calcBasicRates_eq (useShortSlot : Bool) (band : Nl80211Band) (basic : Word) {fuel : Nat}
    (enough : bitsPerLong < fuel) :
    ((∀ i, basic.getLsbD i = true → i < (bitrates band).length) → calcBasicRates fuel band basic =
      some (.ok (iwlCalcBasicRates (some ⟨useShortSlot, ratesOf band basic⟩)))) ∧
    (¬ (∀ i, basic.getLsbD i = true → i < (bitrates band).length) →
      calcBasicRates fuel band basic = some (.error .fault)) := by
  have visited : (List.range bitsPerLong).filter (storedBit · [basic]) = (List.range bitsPerLong).filter basic.getLsbD :=
    List.filter_congr fun i member => storedBit_singleton basic (List.mem_range.mp member)
  have looped := forEachSetBit_eq (show bitsPerLong ≤ bitsPerLong * [basic].length from Nat.le_refl _) (basicRateTurn band) .start enough
  rw [visited] at looped
  unfold calcBasicRates
  rw [looped]
  constructor
  · intro listed
    rw [foldlM_basicRateTurn fun i member => listed i (List.mem_filter.mp member).2]
    exact congrArg (fun rates => some (Except.ok rates)) (finish_foldl_add useShortSlot _)
  · intro unlisted
    rw [not_forall] at unlisted
    obtain ⟨i, bit⟩ := unlisted
    rw [Classical.not_imp, Nat.not_lt] at bit
    have member : i ∈ (List.range bitsPerLong).filter basic.getLsbD :=
      List.mem_filter.mpr ⟨List.mem_range.mpr (BitVec.lt_of_getLsbD bit.1), bit.1⟩
    rw [foldlM_basicRateTurn_fault member bit.2]
    rfl

/-- **Control responses have the rates that the standard asks for**, whatever the basic rates of the band are. -/
theorem calcBasicRates_response (band : Nl80211Band) (basic : Word) {fuel : Nat} (enough : bitsPerLong < fuel)
    (listed : ∀ i, basic.getLsbD i = true → i < (bitrates band).length) :
    ∃ ofdm cck, calcBasicRates fuel band basic = some (.ok (ofdm, cck)) ∧
      (∀ frame rate, IsGreatest {r | r ≤ frame ∧ HasRate iwlFirstOfdmRate ofdm r} rate ↔
        IsResponse (Basic (ratesOf band basic) Ofdm) MandatoryOfdm frame rate) ∧
      ∀ frame rate, IsGreatest {r | r ≤ frame ∧ HasRate 0 cck r} rate ↔
        IsResponse (Basic (ratesOf band basic) Cck) MandatoryCck frame rate :=
  ⟨_, _, (calcBasicRates_eq false band basic enough).1 listed,
    fun _ _ => isGreatest_ack_iff (ofdm_hasRate ratesOf_lt), fun _ _ => isGreatest_ack_iff (cck_hasRate _)⟩

/-- Of 5.5 and 11 Mbps only. -/
theorem calcBasicRates_highCck :
    (∃ ofdm cck, calcBasicRates 65 .ghz2 0xC = some (.ok (ofdm, cck)) ∧
      (∀ frame rate, IsGreatest {r | r ≤ frame ∧ HasRate iwlFirstOfdmRate ofdm r} rate ↔
        IsResponse (Basic (ratesOf .ghz2 0xC) Ofdm) MandatoryOfdm frame rate) ∧
      ∀ frame rate, IsGreatest {r | r ≤ frame ∧ HasRate 0 cck r} rate ↔
        IsResponse (Basic (ratesOf .ghz2 0xC) Cck) MandatoryCck frame rate) ∧
    calcBasicRates 65 .ghz2 0xC = some (.ok (0x15, 0x0F)) := by
  have listed : ∀ i < 64, (0xC#64).getLsbD i = true → i < (bitrates .ghz2).length := by decide
  exact ⟨calcBasicRates_response .ghz2 0xC (by decide) fun i bit => listed i (BitVec.lt_of_getLsbD bit) bit,
    by decide +kernel⟩

end IntelWifi.Dvm.Rxon
