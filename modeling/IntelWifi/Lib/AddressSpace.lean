/-
**A memory in banks, with addresses that wrap.**

An address is a word of `w` bits, and each has a bank it is at home in. A range of bytes runs on from the last
address to the first. `place` puts each of its bytes where it is at home; `write` puts them all in the bank that is
selected.

* `place_append`, `place_tiles`: a range in two parts, and in the parts of a tiling.
* `write_eq_place`: a write into the bank its bytes are at home in.
* `placeAll_latest`: of several ranges, the last one that has an address shows.
-/

import IntelWifi.Lib.Bytes
import IntelWifi.Lib.Tiling
import Mathlib.Data.List.Induction

namespace IntelWifi.AddressSpace

open IntelWifi.Bytes (slice)
open IntelWifi.Tiling

/-- What each bank has at each address. -/
abbrev Banks (β : Type) (w : Nat) := β → BitVec w → UInt8

section Ranges

variable {w : Nat}

/-- Where an address is in a range that begins at `start`. -/
def position (start address : BitVec w) : Nat := (address - start).toNat

/-- The byte of a range for an address, if it reaches it. -/
def byteFor (start : BitVec w) (bytes : List UInt8) (address : BitVec w) : Option UInt8 :=
  bytes[position start address]?

variable {start address : BitVec w} {bytes : List UInt8}

theorem position_lt (start address : BitVec w) : position start address < 2 ^ w := (address - start).isLt

/-- The address is at its position. -/
theorem add_position (start address : BitVec w) : start + BitVec.ofNat w (position start address) = address := by
  unfold position
  rw [BitVec.ofNat_toNat, BitVec.setWidth_eq, BitVec.add_comm, BitVec.sub_add_cancel]

theorem position_add {n : Nat} (fits : n ≤ 2 ^ w) (start address : BitVec w) :
    position (start + BitVec.ofNat w n) address =
      if position start address < n then position start address + 2 ^ w - n else position start address - n := by
  have same : position (start + BitVec.ofNat w n) address = (address - start - BitVec.ofNat w n).toNat := by
    unfold position
    rw [BitVec.sub_sub]
  have short := position_lt start address
  rw [same, BitVec.toNat_sub, BitVec.toNat_ofNat]
  show (2 ^ w - n % 2 ^ w + position start address) % 2 ^ w = _
  rcases Nat.eq_or_lt_of_le fits with rfl | less
  · rw [Nat.mod_self, if_pos short, Nat.sub_zero, Nat.add_mod_left, Nat.mod_eq_of_lt short, Nat.add_sub_cancel]
  · rw [Nat.mod_eq_of_lt less]
    by_cases before : position start address < n
    · rw [if_pos before, Nat.mod_eq_of_lt (by omega)]
      omega
    · rw [if_neg before, show 2 ^ w - n + position start address = position start address - n + 2 ^ w by omega,
        Nat.add_mod_right, Nat.mod_eq_of_lt (by omega)]

/-- An address in a part of a range is in the range. -/
theorem position_part {first length n : Nat} (inside : first + length ≤ n) (fits : n ≤ 2 ^ w)
    (part : position (start + BitVec.ofNat w first) address < length) : position start address < n := by
  have short := position_lt start address
  rw [position_add (by omega)] at part
  split at part <;> omega

theorem byteFor_eq_none : byteFor start bytes address = none ↔ bytes.length ≤ position start address :=
  List.getElem?_eq_none_iff

/-- The second part of a range shows where it reaches. -/
theorem byteFor_append {more : List UInt8} (fits : bytes.length + more.length ≤ 2 ^ w) :
    byteFor start (bytes ++ more) address =
      (byteFor (start + BitVec.ofNat w bytes.length) more address).or (byteFor start bytes address) := by
  have short := position_lt start address
  unfold byteFor
  rw [position_add (by omega)]
  by_cases before : position start address < bytes.length
  · have past : more[position start address + 2 ^ w - bytes.length]? = none := List.getElem?_eq_none (by omega)
    rw [if_pos before, List.getElem?_append_left before, past, Option.none_or]
  · rw [if_neg before, List.getElem?_append_right (by omega), List.getElem?_eq_none (by omega : bytes.length ≤ _),
      Option.or_none]

end Ranges

section Memory

variable {β : Type} {w : Nat} [DecidableEq β] (home : BitVec w → β)

/-- Each byte of the range where it is at home. -/
def place (mem : Banks β w) (start : BitVec w) (bytes : List UInt8) : Banks β w := fun bank address =>
  if home address = bank then (byteFor start bytes address).getD (mem bank address) else mem bank address

/-- All bytes of the range in one bank. -/
def write (mem : Banks β w) (selected : β) (start : BitVec w) (bytes : List UInt8) : Banks β w := fun bank address =>
  if selected = bank then (byteFor start bytes address).getD (mem bank address) else mem bank address

/-- One range after another. -/
def placeAll (mem : Banks β w) (ranges : List (BitVec w × List UInt8)) : Banks β w :=
  ranges.foldl (fun mem range => place home mem range.1 range.2) mem

variable {home} {mem : Banks β w} {start address : BitVec w} {bytes : List UInt8} {bank selected : β}

theorem place_outside (outside : byteFor start bytes address = none) :
    place home mem start bytes bank address = mem bank address := by
  unfold place
  rw [outside, Option.getD_none, ite_self]

theorem write_outside (outside : byteFor start bytes address = none) :
    write mem selected start bytes bank address = mem bank address := by
  unfold write
  rw [outside, Option.getD_none, ite_self]

/-- **A write into the home** of its bytes puts them where they belong. -/
theorem write_eq_place (atHome : ∀ address, position start address < bytes.length → home address = selected) :
    write mem selected start bytes = place home mem start bytes := by
  funext bank address
  by_cases inside : position start address < bytes.length
  · unfold write place
    rw [atHome address inside]
  · have outside := byteFor_eq_none.mpr (Nat.not_lt.mp inside)
    rw [write_outside outside, place_outside outside]

/-- **A range in two parts.** -/
theorem place_append {more : List UInt8} (fits : bytes.length + more.length ≤ 2 ^ w) :
    place home (place home mem start bytes) (start + BitVec.ofNat w bytes.length) more =
      place home mem start (bytes ++ more) := by
  funext bank address
  unfold place
  by_cases here : home address = bank
  · rw [if_pos here, if_pos here, if_pos here, byteFor_append fits, Option.getD_or]
  · rw [if_neg here, if_neg here, if_neg here]

/-- From a prefix of the range on, the parts complete it. -/
theorem place_parts {parts : List Part} {first stop : Nat} (tiles : Tiles first parts stop)
    (inside : stop ≤ bytes.length) (fits : bytes.length ≤ 2 ^ w) :
    parts.foldl (fun mem part => place home mem (start + BitVec.ofNat w part.start) (slice bytes part.start part.length))
      (place home mem start (bytes.take first)) = place home mem start (bytes.take stop) := by
  induction parts generalizing first with
  | nil =>
    obtain rfl : first = stop := tiles
    rfl
  | cons part later ih =>
    obtain ⟨rfl, rest⟩ := tiles
    have upTo := rest.le
    unfold Part.stop at upTo rest
    have length : (bytes.take part.start).length = part.start := List.length_take_of_le (by omega)
    have next := @place_append β w _ home mem start (bytes.take part.start) (slice bytes part.start part.length)
      (by rw [length, Bytes.length_slice (by omega)]; omega)
    rw [length] at next
    rw [List.foldl_cons, next, slice, ← List.take_add, ih rest]

/-- **The parts of a tiling**, one after another, are the whole range. -/
theorem place_tiles {parts : List Part} (tiles : Tiles 0 parts bytes.length) (fits : bytes.length ≤ 2 ^ w) :
    parts.foldl (fun mem part => place home mem (start + BitVec.ofNat w part.start) (slice bytes part.start part.length))
      mem = place home mem start bytes := by
  have none : place home mem start (bytes.take 0) = mem := by
    funext bank address
    exact place_outside rfl
  have whole := @place_parts β w _ home mem start bytes parts 0 bytes.length tiles (Nat.le_refl _) fits
  rwa [none, List.take_length] at whole

@[simp] theorem placeAll_nil : placeAll home mem [] = mem := rfl

theorem placeAll_append (ranges more : List (BitVec w × List UInt8)) :
    placeAll home mem (ranges ++ more) = placeAll home (placeAll home mem ranges) more := List.foldl_append

/-- **The last range that has an address** shows, in the home of the address; elsewhere nothing changes. -/
theorem placeAll_latest (ranges : List (BitVec w × List UInt8)) :
    placeAll home mem ranges bank address =
      if home address = bank then
        (ranges.reverse.findSome? fun range => byteFor range.1 range.2 address).getD (mem bank address)
      else mem bank address := by
  induction ranges using List.reverseRecOn with
  | nil => exact (ite_self _).symm
  | append_singleton ranges range ih =>
    rw [placeAll_append]
    show place home (placeAll home mem ranges) range.1 range.2 bank address = _
    unfold place
    rw [ih, List.reverse_append, List.reverse_singleton, List.singleton_append, List.findSome?_cons]
    by_cases here : home address = bank
    · rw [if_pos here, if_pos here, if_pos here]
      cases byteFor range.1 range.2 address <;> rfl
    · rw [if_neg here, if_neg here, if_neg here]

end Memory

end IntelWifi.AddressSpace
