/-
**The bit-array operations of the porting layer.**

`set_bit`, `clear_bit`, `test_and_set_bit`, `test_and_clear_bit` and `test_bit` over an array of
64-bit words, as the kext computes them on x86-64. The four writers pick the word `nr / 64` and the
mask `1 << (nr % 64)`. The reader does not: `test_bit` loads the first **32-bit** word of the array
(`OSAddAtomic` takes an `SInt32 *`) and masks it with the `int` shift `1 << nr`, which C leaves
undefined from 32 on. What it gives there is a parameter.

* `testBit_setBit`, `testBit_clearBit`: what the reader sees of a write, below bit 32.
* `bitArrayLaw_iff`: the bit-array law at `nr` and `m` holds, whatever such shifts give, exactly when
  both are below 32.
-/

import Mathlib.Data.List.Basic
import Mathlib.Tactic.Common

namespace IntelWifi.Porting

/-- An `unsigned long` of the port. -/
abbrev Word := BitVec 64

def bitsPerLong : Nat := 64

/-- `BIT_MASK(nr)`. -/
def bitMask (nr : Nat) : Word := BitVec.twoPow 64 (nr % bitsPerLong)

/-- `BIT_WORD(nr)`. -/
def bitWord (nr : Nat) : Nat := nr / bitsPerLong

/-- `OSBitwiseAtomic64`: the value the compare-and-swap loop stores. -/
def osBitwiseAtomic64 (andMask orMask xorMask value : Word) : Word :=
  ((value &&& andMask) ||| orMask) ^^^ xorMask

/-- `OSBitAndAtomic64`. -/
def osBitAndAtomic64 (mask value : Word) : Word := osBitwiseAtomic64 mask 0#64 0#64 value

/-- `OSBitOrAtomic64`. -/
def osBitOrAtomic64 (mask value : Word) : Word := osBitwiseAtomic64 (BitVec.allOnes 64) mask 0#64 value

def setBit (nr : Nat) (addr : List Word) : List Word :=
  addr.modify (bitWord nr) (osBitOrAtomic64 (bitMask nr))

def clearBit (nr : Nat) (addr : List Word) : List Word :=
  addr.modify (bitWord nr) (osBitAndAtomic64 (~~~bitMask nr))

/-- The word the bit operations of `nr` work on. -/
def wordAt (nr : Nat) (addr : List Word) : Word := addr.getD (bitWord nr) 0

/-- `test_and_set_bit`: the old value of the bit, and the array after the plain store. -/
def testAndSetBit (nr : Nat) (addr : List Word) : Bool × List Word :=
  let old := wordAt nr addr
  (old &&& bitMask nr != 0, addr.set (bitWord nr) (old ||| bitMask nr))

/-- `test_and_clear_bit`. -/
def testAndClearBit (nr : Nat) (addr : List Word) : Bool × List Word :=
  let old := wordAt nr addr
  (old &&& bitMask nr != 0, addr.set (bitWord nr) (old &&& ~~~bitMask nr))

/-- `OSAddAtomic(0, addr)`: the first 32 bits of the array. -/
def osAddAtomicZero (addr : List Word) : BitVec 32 := (addr.headD 0).setWidth 32

/-- What `1 << nr` gives in an `int` from 32 on. The processor takes the count modulo 32; a compiler that
sees `nr` need not. -/
class WideShift where
  value : Nat → BitVec 32

/-- `1 << nr` in `int`. -/
def intShift [WideShift] (nr : Nat) : BitVec 32 :=
  if nr < 32 then BitVec.twoPow 32 nr else WideShift.value nr

def testBit [WideShift] (nr : Nat) (addr : List Word) : Bool := osAddAtomicZero addr &&& intShift nr != 0

/-- The shift as the processor makes it. -/
@[reducible]
def processorShift : WideShift := ⟨fun nr => BitVec.twoPow 32 (nr % 32)⟩

/-! ### The reader sees one bit of the first word -/

/-- A word masked with one bit is non-zero exactly when it has the bit. -/
theorem and_twoPow_ne_zero {w : Nat} (value : BitVec w) (i : Nat) :
    (value &&& BitVec.twoPow w i != 0) = value.getLsbD i := by
  rw [BitVec.and_twoPow]
  by_cases bit : value.getLsbD i = true
  · have below : i < w := BitVec.lt_of_getLsbD bit
    rw [if_pos bit, bit, bne_iff_ne]
    intro zero
    have := congrArg (fun v => BitVec.getLsbD v i) zero
    simp [below] at this
  · rw [if_neg bit]
    simpa using bit

/-- The first 32 bits of the array, one after another. -/
theorem osAddAtomicZero_bit {i : Nat} (low : i < 32) (addr : List Word) :
    (osAddAtomicZero addr &&& BitVec.twoPow 32 i != 0) = (addr.headD 0).getLsbD i := by
  unfold osAddAtomicZero
  rw [and_twoPow_ne_zero, BitVec.getLsbD_setWidth, decide_eq_true low, Bool.true_and]

theorem testBit_eq [WideShift] {nr : Nat} (low : nr < 32) (addr : List Word) :
    testBit nr addr = (addr.headD 0).getLsbD nr := by
  unfold testBit intShift
  rw [if_pos low, osAddAtomicZero_bit low]

/-- From bit 32 on, the reader sees what the shift picks of the first 32 bits. -/
theorem testBit_wide [WideShift] {nr : Nat} (wide : 32 ≤ nr) (addr : List Word) :
    testBit nr addr = (osAddAtomicZero addr &&& WideShift.value nr != 0) := by
  unfold testBit intShift
  rw [if_neg (Nat.not_lt.mpr wide)]

theorem osBitOr_getLsbD (mask value : Word) (i : Nat) :
    (osBitOrAtomic64 mask value).getLsbD i = (value.getLsbD i || mask.getLsbD i) := by
  unfold osBitOrAtomic64 osBitwiseAtomic64
  rw [BitVec.and_allOnes]
  simp

theorem osBitAnd_getLsbD (mask value : Word) (i : Nat) :
    (osBitAndAtomic64 mask value).getLsbD i = (value.getLsbD i && mask.getLsbD i) := by
  unfold osBitAndAtomic64 osBitwiseAtomic64
  simp

theorem bitMask_getLsbD (nr i : Nat) :
    (bitMask nr).getLsbD i = decide (nr % 64 = i) := by
  unfold bitMask bitsPerLong
  rw [BitVec.getLsbD_twoPow]
  simp [Nat.mod_lt nr (by decide : 0 < 64)]

/-- The plain store of `test_and_set_bit` writes what `set_bit` writes. -/
theorem testAndSetBit_snd (nr : Nat) (addr : List Word) :
    (testAndSetBit nr addr).2 = setBit nr addr := by
  unfold testAndSetBit setBit wordAt osBitOrAtomic64 osBitwiseAtomic64
  rw [List.modify_eq_set, BitVec.and_allOnes, BitVec.xor_zero]
  rfl

/-- The plain store of `test_and_clear_bit` writes what `clear_bit` writes. -/
theorem testAndClearBit_snd (nr : Nat) (addr : List Word) :
    (testAndClearBit nr addr).2 = clearBit nr addr := by
  unfold testAndClearBit clearBit wordAt osBitAndAtomic64 osBitwiseAtomic64
  rw [List.modify_eq_set, BitVec.or_zero, BitVec.xor_zero]
  rfl

/-- The first word after a write at `nr`: changed only when `nr` is in it. -/
theorem headD_modify (addr : List Word) (nr : Nat) (f : Word → Word) (nonempty : addr ≠ []) :
    (addr.modify (bitWord nr) f).headD 0 =
      if nr < 64 then f (addr.headD 0) else addr.headD 0 := by
  obtain ⟨head, tail, rfl⟩ := List.exists_cons_of_ne_nil nonempty
  unfold bitWord bitsPerLong
  by_cases first : nr < 64
  · rw [if_pos first, Nat.div_eq_of_lt first, List.modify_zero_cons]
    rfl
  · obtain ⟨word, later⟩ : ∃ word, nr / 64 = word + 1 := ⟨nr / 64 - 1, by omega⟩
    rw [if_neg first, later, List.modify_succ_cons]
    rfl

/-- The first word after `set_bit`. -/
theorem headD_setBit {m : Nat} (low : m < 32) (nr : Nat) (addr : List Word) (nonempty : addr ≠ []) :
    ((setBit nr addr).headD 0).getLsbD m = (decide (m = nr) || (addr.headD 0).getLsbD m) := by
  unfold setBit
  rw [headD_modify addr nr _ nonempty]
  by_cases first : nr < 64
  · rw [if_pos first, osBitOr_getLsbD, bitMask_getLsbD, Nat.mod_eq_of_lt first, Bool.or_comm]
    simp only [eq_comm]
  · have far : m ≠ nr := by omega
    simp [first, far]

/-- The first word after `clear_bit`. -/
theorem headD_clearBit {m : Nat} (low : m < 32) (nr : Nat) (addr : List Word) :
    ((clearBit nr addr).headD 0).getLsbD m = (!decide (m = nr) && (addr.headD 0).getLsbD m) := by
  unfold clearBit
  by_cases empty : addr = []
  · simp [empty]
  rw [headD_modify addr nr _ empty]
  by_cases first : nr < 64
  · rw [if_pos first, osBitAnd_getLsbD, BitVec.getLsbD_not, bitMask_getLsbD,
      Nat.mod_eq_of_lt first, Bool.and_comm]
    have inWord : m < 64 := by omega
    simp only [inWord, decide_true, Bool.true_and, eq_comm]
  · have far : m ≠ nr := by omega
    simp [first, far]

/-- **The reader after `set_bit`.** -/
theorem testBit_setBit [WideShift] {m : Nat} (low : m < 32) (nr : Nat) (addr : List Word) (nonempty : addr ≠ []) :
    testBit m (setBit nr addr) = (decide (m = nr) || testBit m addr) := by
  rw [testBit_eq low, testBit_eq low, headD_setBit low nr addr nonempty]

/-- **The reader after `clear_bit`.** -/
theorem testBit_clearBit [WideShift] {m : Nat} (low : m < 32) (nr : Nat) (addr : List Word) :
    testBit m (clearBit nr addr) = (!decide (m = nr) && testBit m addr) := by
  rw [testBit_eq low, testBit_eq low, headD_clearBit low nr addr]

/-- The value the test-and-modify pair returns is the stored bit, at every position. -/
theorem wordAt_and_bitMask (nr : Nat) (addr : List Word) :
    (wordAt nr addr &&& bitMask nr != 0) = (wordAt nr addr).getLsbD (nr % 64) :=
  and_twoPow_ne_zero _ _

/-- In the first 32 bits, the stored bit is the bit the reader sees. -/
theorem wordAt_eq_testBit [WideShift] (nr : Nat) (addr : List Word) (low : nr < 32) :
    (wordAt nr addr).getLsbD (nr % 64) = testBit nr addr := by
  rw [testBit_eq low, wordAt, bitWord, bitsPerLong, Nat.div_eq_of_lt (by omega : nr < 64),
    Nat.mod_eq_of_lt (by omega : nr < 64)]
  cases addr <;> rfl

/-! ### The stored bits -/

/-- The bit the writers of `nr` work on. -/
def storedBit (nr : Nat) (addr : List Word) : Bool := (wordAt nr addr).getLsbD (nr % 64)

theorem storedBit_eq_testBit [WideShift] {nr : Nat} (low : nr < 32) (addr : List Word) :
    storedBit nr addr = testBit nr addr :=
  wordAt_eq_testBit nr addr low

/-- A word after a write at another or the same position. -/
theorem wordAt_modify {m nr : Nat} {addr : List Word} (inside : m < 64 * addr.length)
    (f : Word → Word) :
    wordAt m (addr.modify (bitWord nr) f) =
      if bitWord nr = bitWord m then f (wordAt m addr) else wordAt m addr := by
  have word : bitWord m < addr.length := by
    unfold bitWord bitsPerLong
    omega
  unfold wordAt
  rw [List.getD_eq_getElem?_getD, List.getD_eq_getElem?_getD, List.getElem?_modify,
    List.getElem?_eq_getElem word]
  split <;> rfl

/-- **`set_bit` stores its bit and no other.** -/
theorem storedBit_setBit {m nr : Nat} {addr : List Word} (inside : m < 64 * addr.length) :
    storedBit m (setBit nr addr) = (decide (m = nr) || storedBit m addr) := by
  unfold storedBit setBit
  rw [wordAt_modify inside]
  unfold bitWord bitsPerLong
  by_cases word : nr / 64 = m / 64
  · rw [if_pos word, osBitOr_getLsbD, bitMask_getLsbD, Bool.or_comm]
    congr 1
    exact decide_eq_decide.mpr ⟨fun same => by omega, fun same => by rw [same]⟩
  · have other : m ≠ nr := fun same => word (by rw [same])
    rw [if_neg word, decide_eq_false other, Bool.false_or]

/-- **`clear_bit` clears its bit and no other.** -/
theorem storedBit_clearBit {m nr : Nat} {addr : List Word} (inside : m < 64 * addr.length) :
    storedBit m (clearBit nr addr) = (!decide (m = nr) && storedBit m addr) := by
  have range : m % 64 < 64 := Nat.mod_lt _ (by decide)
  unfold storedBit clearBit
  rw [wordAt_modify inside]
  unfold bitWord bitsPerLong
  by_cases word : nr / 64 = m / 64
  · rw [if_pos word, osBitAnd_getLsbD, BitVec.getLsbD_not, bitMask_getLsbD, Bool.and_comm]
    simp only [range, decide_true, Bool.true_and]
    congr 2
    exact decide_eq_decide.mpr ⟨fun same => by omega, fun same => by rw [same]⟩
  · have other : m ≠ nr := fun same => word (by rw [same])
    rw [if_neg word, decide_eq_false other, Bool.not_false, Bool.true_and]

/-! ### The law -/

/-- **The bit-array law** at the positions `nr` and `m`: a test after a write sees the write, a
test of another bit sees no change, and the test-and-modify pair returns the bit as it was. -/
structure BitArrayLaw [WideShift] (addr : List Word) (nr m : Nat) : Prop where
  set_true : testBit nr (setBit nr addr) = true
  testAndSet_true : testBit nr (testAndSetBit nr addr).2 = true
  clear_false : testBit nr (clearBit nr addr) = false
  testAndClear_false : testBit nr (testAndClearBit nr addr).2 = false
  set_frame : m ≠ nr → testBit m (setBit nr addr) = testBit m addr
  testAndSet_frame : m ≠ nr → testBit m (testAndSetBit nr addr).2 = testBit m addr
  clear_frame : m ≠ nr → testBit m (clearBit nr addr) = testBit m addr
  testAndClear_frame : m ≠ nr → testBit m (testAndClearBit nr addr).2 = testBit m addr
  testAndSet_returns : (testAndSetBit nr addr).1 = testBit nr addr
  testAndClear_returns : (testAndClearBit nr addr).1 = testBit nr addr

/-- The law holds of two bits in the first 32. -/
theorem bitArrayLaw_of_low [WideShift] {addr : List Word} {nr m : Nat} (nonempty : addr ≠ []) (low : nr < 32)
    (otherLow : m < 32) : BitArrayLaw addr nr m := by
  have setSelf : testBit nr (setBit nr addr) = true := by
    rw [testBit_setBit low nr addr nonempty]
    simp
  have clearSelf : testBit nr (clearBit nr addr) = false := by
    rw [testBit_clearBit low]
    simp
  have setOther (other : m ≠ nr) : testBit m (setBit nr addr) = testBit m addr := by
    rw [testBit_setBit otherLow nr addr nonempty]
    simp [other]
  have clearOther (other : m ≠ nr) : testBit m (clearBit nr addr) = testBit m addr := by
    rw [testBit_clearBit otherLow]
    simp [other]
  have returned : (wordAt nr addr &&& bitMask nr != 0) = testBit nr addr := by
    rw [wordAt_and_bitMask, wordAt_eq_testBit nr addr low]
  exact {
    set_true := setSelf
    testAndSet_true := by rw [testAndSetBit_snd]; exact setSelf
    clear_false := clearSelf
    testAndClear_false := by rw [testAndClearBit_snd]; exact clearSelf
    set_frame := setOther
    testAndSet_frame := fun other => by rw [testAndSetBit_snd]; exact setOther other
    clear_frame := clearOther
    testAndClear_frame := fun other => by rw [testAndClearBit_snd]; exact clearOther other
    testAndSet_returns := returned
    testAndClear_returns := returned }

/-- Shifts that pick nothing. -/
@[reducible]
def noShift : WideShift := ⟨fun _ => 0⟩

/-- Shifts that all pick one bit. -/
@[reducible]
def shiftTo (i : Nat) : WideShift := ⟨fun _ => BitVec.twoPow 32 i⟩

theorem testBit_noShift {nr : Nat} (wide : 32 ≤ nr) (addr : List Word) : @testBit noShift nr addr = false := by
  rw [@testBit_wide noShift nr wide addr]
  show (osAddAtomicZero addr &&& 0#32 != 0) = false
  simp

theorem testBit_shiftTo {nr i : Nat} (wide : 32 ≤ nr) (low : i < 32) (addr : List Word) :
    @testBit (shiftTo i) nr addr = (addr.headD 0).getLsbD i := by
  rw [@testBit_wide (shiftTo i) nr wide addr]
  exact osAddAtomicZero_bit low addr

/-- From bit 32 on, a set need not be read back. -/
theorem low_of_law {addr : List Word} {nr m : Nat} (law : ∀ [WideShift], BitArrayLaw addr nr m) : nr < 32 := by
  by_contra high
  have read := @BitArrayLaw.set_true noShift addr nr m (@law noShift)
  rw [testBit_noShift (Nat.not_lt.mp high)] at read
  cases read

/-- From bit 32 on, a bit may be read as another one, which the set or the clear changes. -/
theorem otherLow_of_law {addr : List Word} {nr m : Nat} (nonempty : addr ≠ [])
    (law : ∀ [WideShift], BitArrayLaw addr nr m) : m < 32 := by
  have low := low_of_law law
  by_contra high
  have wide := Nat.not_lt.mp high
  have other : m ≠ nr := fun same => high (same ▸ low)
  have setRead := @BitArrayLaw.set_frame (shiftTo nr) addr nr m (@law (shiftTo nr)) other
  have clearRead := @BitArrayLaw.clear_frame (shiftTo nr) addr nr m (@law (shiftTo nr)) other
  rw [testBit_shiftTo wide low, testBit_shiftTo wide low, headD_setBit low nr addr nonempty] at setRead
  rw [testBit_shiftTo wide low, testBit_shiftTo wide low, headD_clearBit low nr addr] at clearRead
  rw [← setRead] at clearRead
  simp at clearRead

/-- **The bit-array law holds, whatever undefined shifts give, exactly in the first 32 bits.** -/
theorem bitArrayLaw_iff (addr : List Word) (nr m : Nat) (nonempty : addr ≠ []) :
    (∀ [WideShift], BitArrayLaw addr nr m) ↔ nr < 32 ∧ m < 32 :=
  ⟨fun law => ⟨low_of_law law, otherLow_of_law nonempty law⟩,
    fun ⟨low, otherLow⟩ => bitArrayLaw_of_low nonempty low otherLow⟩

end IntelWifi.Porting
