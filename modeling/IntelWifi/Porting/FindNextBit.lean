/-
**The bit search of the porting layer.**

`find_next_bit` goes through a bitmap by words: it masks the first one from the offset on and the last one up to the
size, and takes the lowest bit of the first word that is not zero.

* `findNextBit_isNext`: it gives the least set bit from the offset on, or the size, and reads only words of the bitmap.
* `forEachSetBit_eq`: so `for_each_set_bit` does its body for each set bit, from below.
* `bitSearch_exact`: both.
-/

import IntelWifi.Lib.Checked
import IntelWifi.Lib.Enumeration
import IntelWifi.Porting.Bitfield

namespace IntelWifi.Porting

open Checked Enumeration

variable {ε σ : Type}

/-! ### The search -/

/-- `__ffs`. Without a set bit it is undefined. -/
def ffs (word : Word) : Outcome ε Nat :=
  match (List.range bitsPerLong).find? word.getLsbD with
  | some bit => .ok bit
  | none => .error .fault

/-- At `found_first`. -/
def foundFirst (tmp : Word) (size result : Nat) : Outcome ε Nat :=
  let tmp := tmp &&& BitVec.allOnes 64 >>> (bitsPerLong - size)
  if tmp = 0 then .ok (result + size)
  else do
    let bit ← ffs tmp
    .ok (result + bit)

/-- From the `while` on. `p` is what is left of the bitmap. -/
def findWord : List Word → Nat → Nat → Outcome ε Nat
  | [], size, result => if size = 0 then .ok result else .error .fault
  | tmp :: p, size, result =>
    if bitsPerLong ≤ size then
      if tmp ≠ 0 then do
        let bit ← ffs tmp
        .ok (result + bit)
      else findWord p (size - bitsPerLong) (result + bitsPerLong)
    else if size = 0 then .ok result
    else foundFirst tmp size result

/-- `find_next_bit`. -/
def findNextBit (addr : List Word) (size offset : Nat) : Outcome ε Nat :=
  if size ≤ offset then .ok size
  else
    let p := addr.drop (bitWord offset)
    let result := offset / bitsPerLong * bitsPerLong
    let size := size - result
    let offset := offset % bitsPerLong
    if offset ≠ 0 then
      match p with
      | [] => .error .fault
      | tmp :: p =>
        let tmp := tmp &&& BitVec.allOnes 64 <<< offset
        if size < bitsPerLong then foundFirst tmp size result
        else if tmp ≠ 0 then do
          let bit ← ffs tmp
          .ok (result + bit)
        else findWord p (size - bitsPerLong) (result + bitsPerLong)
    else findWord p size result

/-- `for_each_set_bit`. -/
def forEachSetBit (fuel : Nat) (addr : List Word) (size : Nat) (body : σ → Nat → Outcome ε σ) (s : σ) :
    Option (Outcome ε σ) :=
  enumerate fuel (findNextBit addr size) size body s

/-! ### Words -/

theorem ffs_eq_ok_iff {word : Word} {bit : Nat} : (ffs word : Outcome ε Nat) = .ok bit ↔
    bit < bitsPerLong ∧ word.getLsbD bit = true ∧ ∀ i < bit, word.getLsbD i = false := by
  unfold ffs
  cases found : (List.range bitsPerLong).find? word.getLsbD with
  | none =>
    rw [List.find?_eq_none] at found
    refine iff_of_false (by simp) fun ⟨inside, set, _⟩ => found bit (List.mem_range.mpr inside) set
  | some first =>
    rw [List.find?_range_eq_some] at found
    obtain ⟨set, inside, least⟩ := found
    constructor
    · intro same
      obtain rfl := Except.ok.inj same
      exact ⟨List.mem_range.mp inside, set, fun i below => by simpa using least i below⟩
    · rintro ⟨_, set', least'⟩
      rcases Nat.lt_trichotomy first bit with below | rfl | above
      · rw [least' first below] at set
        cases set
      · rfl
      · have := least bit above
        simp [set'] at this

/-- A word that is not zero has a lowest bit. -/
theorem ffs_of_ne_zero {word : Word} (some_bit : word ≠ 0) : ∃ bit, (ffs word : Outcome ε Nat) = .ok bit := by
  unfold ffs
  cases found : (List.range bitsPerLong).find? word.getLsbD with
  | some first => exact ⟨first, rfl⟩
  | none =>
    rw [List.find?_eq_none] at found
    refine absurd (BitVec.eq_of_getLsbD_eq fun i inside => ?_) some_bit
    simpa using found i (List.mem_range.mpr inside)

theorem getLsbD_of_eq_zero {word : Word} (zero : word = 0) (i : Nat) : word.getLsbD i = false := by
  rw [zero]
  exact BitVec.getLsbD_zero

/-- What the masks leave. -/
theorem getLsbD_low {word : Word} {size i : Nat} (part : 0 < size) (inside : size < bitsPerLong) :
    (word &&& BitVec.allOnes 64 >>> (bitsPerLong - size)).getLsbD i = (decide (i < size) && word.getLsbD i) := by
  unfold bitsPerLong at inside ⊢
  rw [BitVec.getLsbD_and, BitVec.getLsbD_ushiftRight, BitVec.getLsbD_allOnes, Bool.and_comm]
  congr 1
  exact decide_eq_decide.mpr (by omega)

theorem getLsbD_high {word : Word} {offset i : Nat} (inside : i < bitsPerLong) :
    (word &&& BitVec.allOnes 64 <<< offset).getLsbD i = (decide (offset ≤ i) && word.getLsbD i) := by
  unfold bitsPerLong at inside
  rw [BitVec.getLsbD_and, BitVec.getLsbD_shiftLeft, BitVec.getLsbD_allOnes, Bool.and_comm]
  by_cases below : i < offset
  · simp [below, Nat.not_le.mpr below]
  · simp [below, Nat.not_lt.mp below, inside]
    omega

/-! ### A word of the bitmap -/

section Search

variable {addr : List Word} {size start stop result next w : Nat} {word : Word}

/-- The word holds the bits of the bitmap from `start` to `stop`, and no others; `result` is its first position. -/
structure Holds (addr : List Word) (word : Word) (result start stop : Nat) : Prop where
  from_start : result ≤ start
  ordered : start ≤ stop
  to_stop : stop ≤ result + bitsPerLong
  bits : ∀ i < bitsPerLong,
    word.getLsbD i = (decide (start ≤ result + i ∧ result + i < stop) && storedBit (result + i) addr)

/-- A position that it covers has its bit there. -/
theorem Holds.bit (holds : Holds addr word result start stop) {i : Nat} (from_start : start ≤ i) (below : i < stop) :
    storedBit i addr = word.getLsbD (i - result) := by
  have first := holds.from_start
  have last := holds.to_stop
  have here := holds.bits (i - result) (by omega)
  rw [show result + (i - result) = i by omega, decide_eq_true (by omega), Bool.true_and] at here
  exact here.symm

/-- Its lowest bit is the next one. -/
theorem Holds.hit (holds : Holds addr word result start stop) (inside : stop ≤ size) (some_bit : word ≠ 0) :
    ∃ bit, (ffs word : Outcome ε Nat) = .ok bit ∧ IsNext (storedBit · addr) size start (result + bit) := by
  obtain ⟨bit, lowest⟩ := ffs_of_ne_zero (ε := ε) some_bit
  obtain ⟨in_word, set, least⟩ := ffs_eq_ok_iff.mp lowest
  have here := holds.bits bit in_word
  rw [set, eq_comm, Bool.and_eq_true, decide_eq_true_iff] at here
  obtain ⟨covered, member⟩ := here
  refine ⟨bit, lowest, by omega, fun _ => ⟨covered.1, member⟩, fun i from_start below => ?_⟩
  rw [holds.bit from_start (by omega)]
  exact least _ (by have := holds.from_start; omega)

/-- Without a bit the search goes on behind it. -/
theorem Holds.skip (holds : Holds addr word result start stop) (zero : word = 0)
    (later : IsNext (storedBit · addr) size stop next) : IsNext (storedBit · addr) size start next := by
  refine ⟨later.le_size, fun below => ?_, fun i from_start before => ?_⟩
  · obtain ⟨from_stop, member⟩ := later.member below
    exact ⟨Nat.le_trans holds.ordered from_stop, member⟩
  · rcases Nat.lt_or_ge i stop with below | from_stop
    · rw [holds.bit from_start below]
      exact getLsbD_of_eq_zero zero _
    · exact later.least i from_stop before

/-- At the end there is none. -/
theorem isNext_end : IsNext (storedBit · addr) size size size :=
  ⟨Nat.le_refl _, fun below => absurd below (Nat.lt_irrefl _), fun _ from_size below => absurd below (Nat.not_lt.mpr from_size)⟩

/-- The word that is read from `w` on. -/
theorem holds_high (there : addr[w]? = some word) (offset : Nat) (inside : offset < bitsPerLong) :
    Holds addr (word &&& BitVec.allOnes 64 <<< offset) (bitsPerLong * w) (bitsPerLong * w + offset)
      (bitsPerLong * w + bitsPerLong) := by
  refine ⟨by omega, by omega, Nat.le_refl _, fun i in_word => ?_⟩
  have stored : storedBit (bitsPerLong * w + i) addr = word.getLsbD i := by
    have place : bitWord (bitsPerLong * w + i) = w := by
      unfold bitWord
      rw [Nat.mul_add_div (by decide), Nat.div_eq_of_lt in_word, Nat.add_zero]
    have bit : (bitsPerLong * w + i) % 64 = i := by
      unfold bitsPerLong at in_word ⊢
      omega
    rw [storedBit, wordAt, place, bit, List.getD_eq_getElem?_getD, there, Option.getD_some]
  rw [getLsbD_high in_word, stored]
  congr 1
  exact decide_eq_decide.mpr (by omega)

theorem holds_whole (there : addr[w]? = some word) :
    Holds addr word (bitsPerLong * w) (bitsPerLong * w) (bitsPerLong * w + bitsPerLong) := by
  have high := holds_high there 0 (by decide)
  rwa [BitVec.shiftLeft_zero, BitVec.and_allOnes] at high

theorem Holds.low (holds : Holds addr word result start (result + bitsPerLong)) {part : Nat} (some_part : 0 < part)
    (in_word : part < bitsPerLong) (ordered : start ≤ result + part) :
    Holds addr (word &&& BitVec.allOnes 64 >>> (bitsPerLong - part)) result start (result + part) := by
  refine ⟨holds.from_start, ordered, by omega, fun i inside => ?_⟩
  rw [getLsbD_low some_part in_word, holds.bits i inside, ← Bool.and_assoc]
  congr 1
  rw [← Bool.decide_and]
  exact decide_eq_decide.mpr (by omega)

/-- The last word, of which only a part belongs to the bitmap. -/
theorem foundFirst_isNext (holds : Holds addr word result start (result + bitsPerLong)) {part : Nat} (some_part : 0 < part)
    (in_word : part < bitsPerLong) (ordered : start ≤ result + part) : ∃ next,
      (foundFirst word part result : Outcome ε Nat) = .ok next ∧
        IsNext (storedBit · addr) (result + part) start next := by
  have low := holds.low some_part in_word ordered
  unfold foundFirst
  dsimp only
  by_cases zero : word &&& BitVec.allOnes 64 >>> (bitsPerLong - part) = 0
  · rw [if_pos zero]
    exact ⟨_, rfl, low.skip zero isNext_end⟩
  · rw [if_neg zero]
    obtain ⟨bit, lowest, isNext⟩ := low.hit (ε := ε) (Nat.le_refl _) zero
    rw [lowest]
    exact ⟨_, rfl, isNext⟩

/-- **The search by words**, from a word on. -/
theorem findWord_isNext (w part : Nat) (inside : bitsPerLong * w + part ≤ bitsPerLong * addr.length) : ∃ next,
    (findWord (addr.drop w) part (bitsPerLong * w) : Outcome ε Nat) = .ok next ∧
      IsNext (storedBit · addr) (bitsPerLong * w + part) (bitsPerLong * w) next := by
  -- by induction on the words that are left
  induction left : addr.drop w generalizing w part with
  | nil =>
    have length : addr.length ≤ w := List.drop_eq_nil_iff.mp left
    obtain rfl : part = 0 := by
      have := Nat.mul_le_mul_left bitsPerLong length
      omega
    exact ⟨_, if_pos rfl, isNext_end⟩
  | cons word p ih =>
    have there : addr[w]? = some word := by
      rw [← List.head?_drop, left]
      rfl
    have after : addr.drop (w + 1) = p := by
      rw [← List.drop_drop, left]
      rfl
    have holds := holds_whole there
    unfold findWord
    by_cases whole : bitsPerLong ≤ part
    · rw [if_pos whole]
      by_cases zero : word = 0
      · obtain ⟨next, found, isNext⟩ := ih (w + 1) (part - bitsPerLong) (by rw [Nat.mul_add]; omega) after
        rw [Nat.mul_add, Nat.mul_one] at found isNext
        rw [show bitsPerLong * w + bitsPerLong + (part - bitsPerLong) = bitsPerLong * w + part by omega] at isNext
        rw [if_neg (not_not.mpr zero)]
        exact ⟨next, found, holds.skip zero isNext⟩
      · rw [if_pos zero]
        obtain ⟨bit, lowest, isNext⟩ := holds.hit (ε := ε) (show _ ≤ bitsPerLong * w + part by omega) zero
        rw [lowest]
        exact ⟨_, rfl, isNext⟩
    · rw [if_neg whole]
      by_cases none : part = 0
      · subst none
        exact ⟨_, if_pos rfl, isNext_end⟩
      · rw [if_neg none]
        exact foundFirst_isNext holds (by omega) (by omega) (by omega)

/-- **`find_next_bit` gives the next set bit**, and reads inside the bitmap. -/
theorem findNextBit_isNext (inside : size ≤ bitsPerLong * addr.length) (offset : Nat) : ∃ next,
    (findNextBit addr size offset : Outcome ε Nat) = .ok next ∧ IsNext (storedBit · addr) size offset next := by
  unfold findNextBit
  by_cases past : size ≤ offset
  · rw [if_pos past]
    refine ⟨size, rfl, Nat.le_refl _, fun below => absurd below (Nat.lt_irrefl _), fun i from_offset below => ?_⟩
    omega
  have split : bitsPerLong * bitWord offset + offset % bitsPerLong = offset := Nat.div_add_mod offset bitsPerLong
  have in_word : offset % bitsPerLong < bitsPerLong := Nat.mod_lt _ (by decide)
  have first : offset / bitsPerLong * bitsPerLong = bitsPerLong * bitWord offset := Nat.mul_comm _ _
  have rest : bitsPerLong * bitWord offset + (size - bitsPerLong * bitWord offset) = size := by omega
  rw [if_neg past]
  dsimp only
  rw [first]
  by_cases aligned : offset % bitsPerLong = 0
  · rw [if_neg (not_not.mpr aligned)]
    obtain ⟨next, found, isNext⟩ :=
      @findWord_isNext ε addr (bitWord offset) (size - bitsPerLong * bitWord offset) (by omega)
    rw [rest] at isNext
    rw [aligned, Nat.add_zero] at split
    rw [split] at isNext
    exact ⟨next, found, isNext⟩
  · rw [if_pos aligned]
    have stored : bitWord offset < addr.length := by
      by_contra none
      have := Nat.mul_le_mul_left bitsPerLong (Nat.not_lt.mp none)
      omega
    have left : addr.drop (bitWord offset) = addr[bitWord offset] :: addr.drop (bitWord offset + 1) :=
      List.drop_eq_getElem_cons stored
    have holds := holds_high (List.getElem?_eq_getElem stored) _ in_word
    rw [split] at holds
    rw [left]
    dsimp only
    by_cases short : size - bitsPerLong * bitWord offset < bitsPerLong
    · rw [if_pos short]
      obtain ⟨next, found, isNext⟩ := foundFirst_isNext (ε := ε) holds (by omega) short (by omega)
      rw [rest] at isNext
      exact ⟨next, found, isNext⟩
    rw [if_neg short]
    by_cases zero : addr[bitWord offset] &&& BitVec.allOnes 64 <<< (offset % bitsPerLong) = 0
    · rw [if_neg (not_not.mpr zero)]
      obtain ⟨next, found, isNext⟩ := @findWord_isNext ε addr (bitWord offset + 1)
        (size - bitsPerLong * bitWord offset - bitsPerLong) (by rw [Nat.mul_add]; omega)
      rw [Nat.mul_add, Nat.mul_one] at found isNext
      rw [show bitsPerLong * bitWord offset + bitsPerLong + (size - bitsPerLong * bitWord offset - bitsPerLong) = size by
        omega] at isNext
      exact ⟨next, found, holds.skip zero isNext⟩
    · rw [if_pos zero]
      obtain ⟨bit, lowest, isNext⟩ := holds.hit (ε := ε) (show _ ≤ size by omega) zero
      rw [lowest]
      exact ⟨_, rfl, isNext⟩

/-- **`for_each_set_bit` goes through the set bits**, from below, and each once. -/
theorem forEachSetBit_eq (inside : size ≤ bitsPerLong * addr.length) (body : σ → Nat → Outcome ε σ) (s : σ) {fuel : Nat}
    (enough : size < fuel) :
    forEachSetBit fuel addr size body s = some (((List.range size).filter (storedBit · addr)).foldlM body s) :=
  run_enumerate (findNextBit_isNext inside) enough s

/-- **The search by words is the search by bits**, for one step and for a loop. -/
theorem bitSearch_exact (inside : size ≤ bitsPerLong * addr.length) :
    (∀ offset, ∃ next, (findNextBit addr size offset : Outcome ε Nat) = .ok next ∧
      IsNext (storedBit · addr) size offset next) ∧
    ∀ (body : σ → Nat → Outcome ε σ) (s : σ) (fuel : Nat), size < fuel → forEachSetBit fuel addr size body s =
      some (((List.range size).filter (storedBit · addr)).foldlM body s) :=
  ⟨findNextBit_isNext inside, fun body s _ enough => forEachSetBit_eq inside body s enough⟩

end Search

/-- A bitmap of 140 bits, with three of them. -/
theorem bitSearch_threeWords :
    ((∀ offset, ∃ next, (findNextBit [1, 0, 9] 140 offset : Outcome Empty Nat) = .ok next ∧
        IsNext (storedBit · [1, 0, 9]) 140 offset next) ∧
      ∀ (body : List Nat → Nat → Outcome Empty (List Nat)) (s : List Nat) (fuel : Nat), 140 < fuel →
        forEachSetBit fuel [1, 0, 9] 140 body s =
          some (((List.range 140).filter (storedBit · [1, 0, 9])).foldlM body s)) ∧
    forEachSetBit 141 [1, 0, 9] 140 (fun seen i => (.ok (seen ++ [i]) : Outcome Empty (List Nat))) [] =
      some (.ok [0, 128, 131]) :=
  ⟨bitSearch_exact (by decide), by decide +kernel⟩

end IntelWifi.Porting
