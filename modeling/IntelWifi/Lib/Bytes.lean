/-
**Little-endian fields of a byte string.**

`leAt bytes offset n` is the unsigned value of the `n` bytes from `offset`, least significant first.
It is total: a byte past the end counts as zero. Whether a read stays inside is a separate question,
asked by `Inside`. `leBytes` writes such a field.
-/

import Mathlib.Algebra.Ring.Int.Defs
import Mathlib.Algebra.Ring.Nat
import Mathlib.Data.List.Basic
import Mathlib.Tactic.Common

namespace IntelWifi.Bytes

def byteAt (bytes : List UInt8) (offset : Nat) : Nat := (bytes.getD offset 0).toNat

/-- The `n`-byte little-endian field at `offset`. -/
def leAt (bytes : List UInt8) (offset : Nat) : Nat → Nat
  | 0 => 0
  | n + 1 => byteAt bytes offset + 256 * leAt bytes (offset + 1) n

/-- The `n` bytes from `offset` exist. -/
def Inside (bytes : List UInt8) (offset n : Nat) : Prop := offset + n ≤ bytes.length

instance (bytes : List UInt8) (offset n : Nat) : Decidable (Inside bytes offset n) :=
  inferInstanceAs (Decidable (_ ≤ _))

/-- The `n` bytes from `offset`. -/
def slice (bytes : List UInt8) (offset n : Nat) : List UInt8 := (bytes.drop offset).take n

theorem byteAt_lt (bytes : List UInt8) (offset : Nat) : byteAt bytes offset < 256 :=
  UInt8.toNat_lt _

theorem leAt_lt (bytes : List UInt8) (offset n : Nat) : leAt bytes offset n < 256 ^ n := by
  induction n generalizing offset with
  | zero => exact Nat.one_pos
  | succ n ih =>
    have low := byteAt_lt bytes offset
    have high := ih (offset + 1)
    rw [leAt, Nat.pow_succ]
    omega

theorem leAt_four_lt (bytes : List UInt8) (offset : Nat) : leAt bytes offset 4 < 2 ^ 32 :=
  leAt_lt bytes offset 4

/-! ### Fields of a part -/

theorem byteAt_drop (bytes : List UInt8) (start offset : Nat) :
    byteAt (bytes.drop start) offset = byteAt bytes (start + offset) := by
  unfold byteAt
  rw [List.getD_eq_getElem?_getD, List.getElem?_drop, ← List.getD_eq_getElem?_getD]

theorem leAt_drop (bytes : List UInt8) (start offset n : Nat) :
    leAt (bytes.drop start) offset n = leAt bytes (start + offset) n := by
  induction n generalizing offset with
  | zero => rfl
  | succ n ih => rw [leAt, leAt, byteAt_drop, ih, Nat.add_assoc]

theorem byteAt_append_left {bytes : List UInt8} {offset : Nat} (below : offset < bytes.length)
    (rest : List UInt8) : byteAt (bytes ++ rest) offset = byteAt bytes offset := by
  unfold byteAt
  rw [List.getD_eq_getElem?_getD, List.getElem?_append_left below, ← List.getD_eq_getElem?_getD]

/-- A field of the first part. -/
theorem leAt_append_left {bytes : List UInt8} {offset n : Nat} (inside : offset + n ≤ bytes.length)
    (rest : List UInt8) : leAt (bytes ++ rest) offset n = leAt bytes offset n := by
  induction n generalizing offset with
  | zero => rfl
  | succ n ih =>
    rw [leAt, leAt, byteAt_append_left (by omega), ih (by omega)]

/-- A field of the second part. -/
theorem leAt_append_right (bytes rest : List UInt8) (offset n : Nat) :
    leAt (bytes ++ rest) (bytes.length + offset) n = leAt rest offset n := by
  rw [← leAt_drop, List.drop_left]

/-- A field inside a slice. -/
theorem leAt_slice {bytes : List UInt8} {start length offset n : Nat}
    (field : offset + n ≤ length) (inside : start + length ≤ bytes.length) :
    leAt (slice bytes start length) offset n = leAt bytes (start + offset) n := by
  have whole : slice bytes start length ++ (bytes.drop start).drop length = bytes.drop start :=
    List.take_append_drop length _
  have enough : offset + n ≤ (slice bytes start length).length := by
    unfold slice
    rw [List.length_take, List.length_drop]
    omega
  rw [← leAt_append_left enough ((bytes.drop start).drop length), whole, leAt_drop]

theorem length_slice {bytes : List UInt8} {start length : Nat}
    (inside : start + length ≤ bytes.length) : (slice bytes start length).length = length := by
  unfold slice
  rw [List.length_take, List.length_drop]
  omega

/-- A slice of a slice. -/
theorem slice_slice {bytes : List UInt8} {start length offset n : Nat} (part : offset + n ≤ length) :
    slice (slice bytes start length) offset n = slice bytes (start + offset) n := by
  unfold slice
  rw [List.drop_take, List.take_take, List.drop_drop]
  congr 1
  omega

/-! ### Writing a field -/

/-- The `n` bytes of a value, least significant first. -/
def leBytes : Nat → Nat → List UInt8
  | 0, _ => []
  | n + 1, value => UInt8.ofNat (value % 256) :: leBytes n (value / 256)

@[simp] theorem length_leBytes (n value : Nat) : (leBytes n value).length = n := by
  induction n generalizing value with
  | zero => rfl
  | succ n ih => rw [leBytes, List.length_cons, ih]

/-- **A written field is read back.** -/
theorem leAt_leBytes {n value : Nat} (fits : value < 256 ^ n) (rest : List UInt8) :
    leAt (leBytes n value ++ rest) 0 n = value := by
  induction n generalizing value with
  | zero =>
    rw [Nat.pow_zero] at fits
    rw [leAt]
    omega
  | succ n ih =>
    rw [Nat.pow_succ] at fits
    have low : byteAt (leBytes (n + 1) value ++ rest) 0 = value % 256 := by
      simp [leBytes, byteAt]
    have high : leAt (leBytes (n + 1) value ++ rest) (0 + 1) n = value / 256 := by
      have tail := leAt_drop (leBytes (n + 1) value ++ rest) 1 0 n
      rw [← tail]
      exact ih (Nat.div_lt_of_lt_mul (by omega))
    rw [leAt, low, high]
    omega

/-- **A field that is read is written back.** -/
theorem leBytes_leAt {bytes : List UInt8} {offset n : Nat} (inside : Inside bytes offset n) :
    leBytes n (leAt bytes offset n) = slice bytes offset n := by
  unfold Inside at inside
  induction n generalizing offset with
  | zero => simp [leBytes, slice]
  | succ n ih =>
    have low := byteAt_lt bytes offset
    have here : offset < bytes.length := by omega
    have first : slice bytes offset (n + 1) = bytes[offset] :: slice bytes (offset + 1) n := by
      unfold slice
      rw [List.drop_eq_getElem_cons here, List.take_succ_cons]
    have byte : UInt8.ofNat (byteAt bytes offset) = bytes[offset] := by
      unfold byteAt
      rw [List.getD_eq_getElem?_getD, List.getElem?_eq_getElem here, Option.getD_some, UInt8.ofNat_toNat]
    rw [leAt, leBytes, first, ← ih (by omega), ← byte]
    congr 2 <;> omega

end IntelWifi.Bytes
