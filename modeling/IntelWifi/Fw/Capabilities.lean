/-
**The API and capability bits a firmware file announces.**

`iwl_set_ucode_api_flags` and `iwl_set_ucode_capabilities` store the 32 bits of a TLV at 32 times
its index, with `set_bit`; `fw_has_api` and `fw_has_capa` ask for one of them, with `test_bit`.

* `storedBit_applyTlvs`: the words are the union of any list of such TLVs.
* `readsAnnounced_iff`: the reader's answer for bit `k` is "some TLV announced `k`", whatever undefined
  shifts give, exactly when `k` is below 32, or neither `k` nor a bit below 32 was announced.
-/

import IntelWifi.Porting.Bitfield
import IntelWifi.Fw.File

namespace IntelWifi.Fw

open IntelWifi.Porting IntelWifi.Bytes

/-- `NUM_IWL_UCODE_TLV_API`. -/
def numIwlUcodeTlvApi : Nat := 46

/-- `NUM_IWL_UCODE_TLV_CAPA`. -/
def numIwlUcodeTlvCapa : Nat := 97

/-- `DIV_ROUND_UP`. -/
def divRoundUp (n d : Nat) : Nat := (n + d - 1) / d

/-- `struct iwl_ucode_capabilities`. -/
structure IwlUcodeCapabilities where
  maxProbeLength : Nat
  nScanChannels : Nat
  standardPhyCalibrationSize : Nat
  flags : Nat
  api : List Word
  capa : List Word

/-- The arrays of a zeroed `struct iwl_ucode_capabilities`. -/
def zeroBits (bits : Nat) : List Word := List.replicate (divRoundUp bits bitsPerLong) 0

/-- `fw_has_api`. -/
def fwHasApi [WideShift] (capa : IwlUcodeCapabilities) (api : Nat) : Bool := testBit api capa.api

/-- `fw_has_capa`. -/
def fwHasCapa [WideShift] (capa : IwlUcodeCapabilities) (bit : Nat) : Bool := testBit bit capa.capa

/-- `IWL_UCODE_TLV_API_NEW_VERSION`. -/
def tlvApiNewVersion : Nat := 20

/-- `IWL_UCODE_TLV_CAPA_GSCAN_SUPPORT`. -/
def tlvCapaGscanSupport : Nat := 31

/-- `IWL_UCODE_TLV_CAPA_USNIFFER_UNIFIED`. -/
def tlvCapaUsnifferUnified : Nat := 77

/-- The payload of an API or CAPA TLV: `struct iwl_ucode_api`, `struct iwl_ucode_capa`. -/
structure FlagsTlv where
  apiIndex : Nat
  apiFlags : Nat

/-- The loop shared by the two setters: bit `i` of the flags goes to `i + 32 * api_index`, unless
the index is past the last group of the driver. -/
def setFlagBits (bits : Nat) (tlv : FlagsTlv) (addr : List Word) : List Word :=
  if tlv.apiIndex ≥ divRoundUp bits 32 then addr
  else (List.range 32).foldl
    (fun addr i => if tlv.apiFlags.testBit i then setBit (i + 32 * tlv.apiIndex) addr else addr) addr

/-- `iwl_set_ucode_api_flags`. -/
def iwlSetUcodeApiFlags (tlv : FlagsTlv) (capa : IwlUcodeCapabilities) : IwlUcodeCapabilities :=
  { capa with api := setFlagBits numIwlUcodeTlvApi tlv capa.api }

/-- `iwl_set_ucode_capabilities`. -/
def iwlSetUcodeCapabilities (tlv : FlagsTlv) (capa : IwlUcodeCapabilities) : IwlUcodeCapabilities :=
  { capa with capa := setFlagBits numIwlUcodeTlvCapa tlv capa.capa }

/-! ### The stored words -/

/-- The TLV announces bit `k`. -/
def FlagsTlv.announces (bits : Nat) (tlv : FlagsTlv) (k : Nat) : Bool :=
  tlv.apiIndex < divRoundUp bits 32 && tlv.apiIndex == k / 32 && tlv.apiFlags.testBit (k % 32)

/-- The loop stores a bit in its own group only, at its own place. -/
theorem any_range_flag (index flags k : Nat) :
    ((List.range 32).any fun i => flags.testBit i && k == i + 32 * index) =
      (index == k / 32 && flags.testBit (k % 32)) := by
  rw [Bool.eq_iff_iff, List.any_eq_true]
  constructor
  · rintro ⟨i, range, seen⟩
    rw [List.mem_range] at range
    rw [Bool.and_eq_true, beq_iff_eq] at seen
    have group : index = k / 32 := by omega
    have same : k % 32 = i := by omega
    rw [same, seen.1, Bool.and_true, beq_iff_eq]
    exact group
  · intro stored
    rw [Bool.and_eq_true, beq_iff_eq] at stored
    refine ⟨k % 32, List.mem_range.mpr (Nat.mod_lt _ (by decide)), ?_⟩
    rw [stored.2, stored.1, Bool.true_and, beq_iff_eq]
    omega

/-- The words after the loop has stored the bits of `positions`. -/
theorem foldl_setBit_storedBit {k : Nat} (index flags : Nat) (positions : List Nat) {addr : List Word}
    (inside : k < 64 * addr.length) :
    storedBit k (positions.foldl
      (fun addr i => if flags.testBit i then setBit (i + 32 * index) addr else addr) addr) =
      (positions.any (fun i => flags.testBit i && k == i + 32 * index) || storedBit k addr) ∧
    (positions.foldl
      (fun addr i => if flags.testBit i then setBit (i + 32 * index) addr else addr) addr).length =
      addr.length := by
  induction positions generalizing addr with
  | nil => exact ⟨rfl, rfl⟩
  | cons i rest ih =>
    rw [List.foldl_cons, List.any_cons]
    by_cases announced : flags.testBit i = true
    · have grown : (setBit (i + 32 * index) addr).length = addr.length := by simp [setBit]
      obtain ⟨bit, length⟩ := ih (grown ▸ inside)
      rw [if_pos announced, bit, length, storedBit_setBit inside, announced, Bool.true_and,
        ← Bool.or_assoc, Bool.or_comm (List.any _ _)]
      exact ⟨rfl, grown⟩
    · rw [if_neg announced, Bool.eq_false_iff.mpr announced, Bool.false_and, Bool.false_or]
      exact ih inside

/-- **A TLV's flags are added to the words.** -/
theorem storedBit_setFlagBits {bits k : Nat} {tlv : FlagsTlv} {addr : List Word}
    (inside : k < 64 * addr.length) :
    storedBit k (setFlagBits bits tlv addr) = (tlv.announces bits k || storedBit k addr) ∧
      (setFlagBits bits tlv addr).length = addr.length := by
  unfold setFlagBits FlagsTlv.announces
  by_cases known : tlv.apiIndex < divRoundUp bits 32
  · rw [if_neg (Nat.not_le.mpr known)]
    obtain ⟨bit, length⟩ := foldl_setBit_storedBit tlv.apiIndex tlv.apiFlags (List.range 32) inside
    rw [bit, any_range_flag, decide_eq_true known, Bool.true_and]
    exact ⟨rfl, length⟩
  · rw [if_pos (Nat.not_lt.mp known)]
    simp [known]

/-- The TLVs of a file, applied in order. -/
def applyTlvs (bits : Nat) (tlvs : List FlagsTlv) (addr : List Word) : List Word :=
  tlvs.foldl (fun addr tlv => setFlagBits bits tlv addr) addr

/-- **The words are the union of the TLVs**, in any order and multiplicity. -/
theorem storedBit_applyTlvs {bits k : Nat} (tlvs : List FlagsTlv) {addr : List Word}
    (inside : k < 64 * addr.length) :
    storedBit k (applyTlvs bits tlvs addr) =
      (tlvs.any (fun tlv => tlv.announces bits k) || storedBit k addr) ∧
      (applyTlvs bits tlvs addr).length = addr.length := by
  induction tlvs generalizing addr with
  | nil => exact ⟨rfl, rfl⟩
  | cons tlv rest ih =>
    obtain ⟨first, same⟩ := @storedBit_setFlagBits bits k tlv addr inside
    obtain ⟨bit, length⟩ := ih (same ▸ inside)
    have split : applyTlvs bits (tlv :: rest) addr = applyTlvs bits rest (setFlagBits bits tlv addr) :=
      rfl
    rw [split, bit, length, first, List.any_cons, ← Bool.or_assoc, Bool.or_comm (List.any _ _)]
    exact ⟨rfl, same⟩

/-! ### What the reader sees -/

theorem storedBit_zeroBits (k bits : Nat) : storedBit k (zeroBits bits) = false := by
  have word : wordAt k (zeroBits bits) = 0 := by
    unfold wordAt zeroBits
    rw [List.getD_eq_getElem?_getD, List.getElem?_replicate]
    split <;> rfl
  rw [storedBit, word]
  exact BitVec.getLsbD_zero

/-- Some TLV of the list announces bit `k`. -/
def Announced (bits : Nat) (tlvs : List FlagsTlv) (k : Nat) : Prop :=
  ∃ tlv ∈ tlvs, tlv.announces bits k = true

section Reader

variable {bits k : Nat} {tlvs : List FlagsTlv}

/-- From zeroed arrays, the reader sees what is announced below bit 32. -/
theorem testBit_applyTlvs_zero [WideShift] (some : 0 < bits) (tlvs : List FlagsTlv) (low : k < 32) :
    testBit k (applyTlvs bits tlvs (zeroBits bits)) = true ↔ Announced bits tlvs k := by
  have inside : k < 64 * (zeroBits bits).length := by
    rw [zeroBits, List.length_replicate, divRoundUp, bitsPerLong]
    omega
  rw [← storedBit_eq_testBit low, (storedBit_applyTlvs tlvs inside).1, storedBit_zeroBits, Bool.or_false,
    List.any_eq_true]
  rfl

/-- When none of the first 32 bits is announced, the reader sees nothing anywhere. -/
theorem testBit_applyTlvs_clear [WideShift] (some : 0 < bits) (wide : 32 ≤ k)
    (clear : ∀ j < 32, ¬ Announced bits tlvs j) : testBit k (applyTlvs bits tlvs (zeroBits bits)) = false := by
  have first : osAddAtomicZero (applyTlvs bits tlvs (zeroBits bits)) = 0#32 := by
    refine BitVec.eq_of_getLsbD_eq fun j low => ?_
    have unread := mt (testBit_applyTlvs_zero some tlvs low).mp (clear j low)
    rw [testBit_eq low, Bool.not_eq_true] at unread
    rw [osAddAtomicZero, BitVec.getLsbD_setWidth, unread, Bool.and_false, BitVec.getLsbD_zero]
  rw [testBit_wide wide, first, BitVec.zero_and]
  rfl

/-- **The reader's answer is right** at `k`, whatever undefined shifts give, exactly when `k` is below 32, or neither
`k` nor a bit below 32 was announced. -/
theorem readsAnnounced_iff (some : 0 < bits) (tlvs : List FlagsTlv) (k : Nat) :
    (∀ [WideShift], testBit k (applyTlvs bits tlvs (zeroBits bits)) = true ↔ Announced bits tlvs k) ↔
      (k < 32 ∨ ¬ Announced bits tlvs k ∧ ∀ j < 32, ¬ Announced bits tlvs j) := by
  constructor
  · intro right
    by_cases low : k < 32
    · exact .inl low
    · have wide := Nat.not_lt.mp low
      have absent : ¬ Announced bits tlvs k := fun announced => by
        have read := (@right noShift).mpr announced
        rw [testBit_noShift wide] at read
        cases read
      refine .inr ⟨absent, fun j small announced => absent ((@right (shiftTo j)).mp ?_)⟩
      -- a shift that picks bit `j` reads it at `k`
      rw [testBit_shiftTo wide small, ← @testBit_eq noShift j small]
      exact (@testBit_applyTlvs_zero bits j noShift some tlvs small).mpr announced
  · rintro (low | ⟨absent, clear⟩) shift
    · exact testBit_applyTlvs_zero some tlvs low
    · by_cases low : k < 32
      · exact testBit_applyTlvs_zero some tlvs low
      · rw [testBit_applyTlvs_clear some (Nat.not_lt.mp low) clear]
        exact ⟨fun read => absurd read Bool.false_ne_true, fun announced => absurd announced absent⟩

end Reader

/-- The API TLVs of a file, handled in order. -/
def apiTlvs (tlvs : List FlagsTlv) (capa : IwlUcodeCapabilities) : IwlUcodeCapabilities :=
  tlvs.foldl (fun capa tlv => iwlSetUcodeApiFlags tlv capa) capa

/-- The CAPA TLVs of a file, handled in order. -/
def capaTlvs (tlvs : List FlagsTlv) (capa : IwlUcodeCapabilities) : IwlUcodeCapabilities :=
  tlvs.foldl (fun capa tlv => iwlSetUcodeCapabilities tlv capa) capa

theorem apiTlvs_api (tlvs : List FlagsTlv) (capa : IwlUcodeCapabilities) :
    (apiTlvs tlvs capa).api = applyTlvs numIwlUcodeTlvApi tlvs capa.api := by
  induction tlvs generalizing capa with
  | nil => rfl
  | cons tlv rest ih => exact ih (iwlSetUcodeApiFlags tlv capa)

theorem capaTlvs_capa (tlvs : List FlagsTlv) (capa : IwlUcodeCapabilities) :
    (capaTlvs tlvs capa).capa = applyTlvs numIwlUcodeTlvCapa tlvs capa.capa := by
  induction tlvs generalizing capa with
  | nil => rfl
  | cons tlv rest ih => exact ih (iwlSetUcodeCapabilities tlv capa)

/-! ### When the port keeps the law -/

/-- **The bit-array law of the port, and what it does to the firmware's announcements**, whatever the undefined shifts
give. -/
theorem portBits_iff (k : Nat) :
    (∀ (addr : List Word) (m : Nat), k < bitsPerLong * addr.length → m < bitsPerLong * addr.length →
      ((∀ [WideShift], BitArrayLaw addr k m) ↔ k < 32 ∧ m < 32)) ∧
    (∀ (tlvs : List FlagsTlv) (capa : IwlUcodeCapabilities), capa.api = zeroBits numIwlUcodeTlvApi →
      ((∀ [WideShift], fwHasApi (apiTlvs tlvs capa) k = true ↔ Announced numIwlUcodeTlvApi tlvs k) ↔
        (k < 32 ∨ ¬ Announced numIwlUcodeTlvApi tlvs k ∧ ∀ j < 32, ¬ Announced numIwlUcodeTlvApi tlvs j))) ∧
    (∀ (tlvs : List FlagsTlv) (capa : IwlUcodeCapabilities), capa.capa = zeroBits numIwlUcodeTlvCapa →
      ((∀ [WideShift], fwHasCapa (capaTlvs tlvs capa) k = true ↔ Announced numIwlUcodeTlvCapa tlvs k) ↔
        (k < 32 ∨ ¬ Announced numIwlUcodeTlvCapa tlvs k ∧ ∀ j < 32, ¬ Announced numIwlUcodeTlvCapa tlvs j))) := by
  refine ⟨fun addr m inside _ => ?_, fun tlvs capa fresh => ?_, fun tlvs capa fresh => ?_⟩
  · have nonempty : addr ≠ [] := by
      rintro rfl
      simp at inside
    exact bitArrayLaw_iff addr k m nonempty
  · unfold fwHasApi
    rw [apiTlvs_api, fresh]
    exact readsAnnounced_iff (by decide) tlvs k
  · unfold fwHasCapa
    rw [capaTlvs_capa, fresh]
    exact readsAnnounced_iff (by decide) tlvs k

/-- A zeroed capability record. -/
def zeroCapabilities : IwlUcodeCapabilities where
  maxProbeLength := 0
  nScanChannels := 0
  standardPhyCalibrationSize := 0
  flags := 0
  api := zeroBits numIwlUcodeTlvApi
  capa := zeroBits numIwlUcodeTlvCapa

/-- A kept law, two broken ones, an API bit that is read, and `IWL_UCODE_TLV_CAPA_CDB_SUPPORT` (40), which is not even
where bit 8 is announced too. -/
theorem portBits_iff_instances :
    (∀ [WideShift], BitArrayLaw [0, 0] 3 5) ∧ (¬ ∀ [WideShift], BitArrayLaw [0, 0] 40 5) ∧
    (¬ ∀ [WideShift], BitArrayLaw [0, 0] 3 35) ∧
    (∀ [WideShift], fwHasApi (apiTlvs [⟨0, 8⟩] zeroCapabilities) 3 = true ↔
      Announced numIwlUcodeTlvApi [⟨0, 8⟩] 3) ∧
    ¬ ∀ [WideShift], fwHasCapa (capaTlvs [⟨0, 256⟩, ⟨1, 256⟩] zeroCapabilities) 40 = true ↔
      Announced numIwlUcodeTlvCapa [⟨0, 256⟩, ⟨1, 256⟩] 40 := by
  refine ⟨?_, ?_, ?_, ?_, ?_⟩
  · rw [(portBits_iff 3).1 [0, 0] 5 (by decide) (by decide)]
    decide
  · rw [(portBits_iff 40).1 [0, 0] 5 (by decide) (by decide)]
    decide
  · rw [(portBits_iff 3).1 [0, 0] 35 (by decide) (by decide)]
    decide
  · rw [(portBits_iff 3).2.1 [⟨0, 8⟩] zeroCapabilities rfl]
    exact .inl (by decide)
  · rw [(portBits_iff 40).2.2 [⟨0, 256⟩, ⟨1, 256⟩] zeroCapabilities rfl]
    unfold Announced
    decide

/-- **Bit 40 is lost**: set, and read as clear, whatever `1 << 40` gives. -/
theorem bit40_lost :
    (∀ [WideShift], ¬ ∀ (addr : List Word) (nr m : Nat), nr < bitsPerLong * addr.length →
        m < bitsPerLong * addr.length → BitArrayLaw addr nr m) ∧
      (∀ [WideShift], testBit 40 (setBit 40 [0]) = false) ∧
      Announced numIwlUcodeTlvCapa [⟨1, 256⟩] 40 ∧
      ∀ [WideShift], fwHasCapa (capaTlvs [⟨1, 256⟩] zeroCapabilities) 40 = false := by
  have lost : ∀ [WideShift], testBit 40 (setBit 40 [0]) = false := by
    intro shift
    rw [testBit_wide (by decide)]
    have first : osAddAtomicZero (setBit 40 [0]) = 0#32 := by decide
    rw [first, BitVec.zero_and]
    rfl
  refine ⟨?_, lost, ⟨_, List.mem_singleton_self _, by decide⟩, ?_⟩
  · intro shift law
    have read := (law [0] 40 0 (by decide) (by decide)).set_true
    rw [lost] at read
    cases read
  · intro shift
    unfold fwHasCapa
    rw [testBit_wide (by decide)]
    have first : osAddAtomicZero (capaTlvs [⟨1, 256⟩] zeroCapabilities).capa = 0#32 := by decide
    rw [first, BitVec.zero_and]
    rfl

end IntelWifi.Fw
