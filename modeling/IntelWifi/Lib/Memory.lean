/-
**A byte-addressed memory.**

`store` writes a list of bytes from an address on, `load` reads as many as asked for. A load sees a
store to the same range (`load_store_same`) and none to a range apart (`load_store_apart`).

A list of stores is made one after another. Stores that go up are all read back (`Ascending.load`), and what
is outside a region that has all of them is as it was (`load_storeAll_outside`).
-/

import Mathlib.Data.List.Basic
import Mathlib.Tactic.Common

namespace IntelWifi.Memory

/-- What is at each address. -/
abbrev Ram := Nat → UInt8

/-- Write `bytes` from `addr` on. -/
def store (mem : Ram) (addr : Nat) (bytes : List UInt8) : Ram :=
  fun a => if addr ≤ a ∧ a < addr + bytes.length then bytes.getD (a - addr) 0 else mem a

/-- Read `n` bytes from `addr` on. -/
def load (mem : Ram) (addr n : Nat) : List UInt8 := (List.range n).map fun k => mem (addr + k)

/-- The `n` bytes at `a` and the `m` bytes at `b` have none in common. -/
def Apart (a n b m : Nat) : Prop := a + n ≤ b ∨ b + m ≤ a

instance (a n b m : Nat) : Decidable (Apart a n b m) := inferInstanceAs (Decidable (_ ∨ _))

variable {mem : Ram} {addr other n m : Nat} {bytes : List UInt8}

theorem Apart.symm (apart : Apart addr n other m) : Apart other m addr n := Or.symm apart

/-- A part of a range is apart from what the range is apart from. -/
theorem Apart.inside {a k : Nat} (apart : Apart addr n other m) (start : addr ≤ a)
    (stop : a + k ≤ addr + n) : Apart a k other m := by
  unfold Apart at *
  omega

@[simp] theorem load_length : (load mem addr n).length = n := by
  rw [load, List.length_map, List.length_range]

/-- **A store is read back.** -/
theorem load_store_same (exact : n = bytes.length) : load (store mem addr bytes) addr n = bytes := by
  subst exact
  refine List.ext_getElem load_length fun k _ inside => ?_
  have here : (load (store mem addr bytes) addr bytes.length)[k] =
      store mem addr bytes (addr + k) := by
    simp only [load, List.getElem_map, List.getElem_range]
  rw [here, store, if_pos (by omega), Nat.add_sub_cancel_left,
    List.getD_eq_getElem?_getD, List.getElem?_eq_getElem inside, Option.getD_some]

/-- **A store elsewhere does not show.** -/
theorem load_store_apart (apart : Apart addr bytes.length other m) :
    load (store mem addr bytes) other m = load mem other m := by
  refine List.map_congr_left fun k inside => ?_
  have := List.mem_range.mp inside
  unfold Apart at apart
  unfold store
  rw [if_neg (by omega)]

/-! ### Parts of a load -/

/-- Two loads, one behind the other. -/
theorem load_add (mem : Ram) (addr n m : Nat) :
    load mem addr (n + m) = load mem addr n ++ load mem (addr + n) m := by
  unfold load
  rw [List.range_add, List.map_append, List.map_map]
  congr 1
  refine List.map_congr_left fun k _ => ?_
  rw [Function.comp_apply, Nat.add_assoc]

/-! ### Lists of stores -/

/-- Stores one after another. -/
def storeAll (mem : Ram) (writes : List (Nat × List UInt8)) : Ram :=
  writes.foldl (fun mem write => store mem write.1 write.2) mem

/-- The stores are all in the region. -/
def Region (start stop : Nat) (writes : List (Nat × List UInt8)) : Prop :=
  ∀ write ∈ writes, start ≤ write.1 ∧ write.1 + write.2.length ≤ stop

/-- Each store is behind the ones before it. -/
def Ascending (writes : List (Nat × List UInt8)) : Prop :=
  writes.Pairwise fun write later => write.1 + write.2.length ≤ later.1

section StoreAll

variable {write : Nat × List UInt8} {writes more : List (Nat × List UInt8)} {start stop start' stop' : Nat}

@[simp] theorem storeAll_cons : storeAll mem (write :: writes) = storeAll (store mem write.1 write.2) writes := rfl

@[simp] theorem storeAll_append : storeAll mem (writes ++ more) = storeAll (storeAll mem writes) more :=
  List.foldl_append

theorem load_storeAll_apart (apart : ∀ write ∈ writes, Apart write.1 write.2.length addr n) :
    load (storeAll mem writes) addr n = load mem addr n := by
  induction writes generalizing mem with
  | nil => rfl
  | cons write later ih =>
    rw [List.forall_mem_cons] at apart
    rw [storeAll_cons, ih apart.2, load_store_apart apart.1]

/-- **Stores in a region** do not show outside it. -/
theorem load_storeAll_outside (region : Region start stop writes) (outside : addr + n ≤ start ∨ stop ≤ addr) :
    load (storeAll mem writes) addr n = load mem addr n := by
  refine load_storeAll_apart fun write member => ?_
  have inside := region write member
  unfold Apart
  omega

/-- **Stores that go up** are read back. -/
theorem Ascending.load (ascending : Ascending writes) (member : (addr, bytes) ∈ writes) :
    load (storeAll mem writes) addr bytes.length = bytes := by
  induction writes generalizing mem with
  | nil => exact absurd member List.not_mem_nil
  | cons write later ih =>
    obtain ⟨first, rest⟩ := List.pairwise_cons.mp ascending
    rw [storeAll_cons]
    rcases List.mem_cons.mp member with rfl | member
    · rw [load_storeAll_apart fun other listed => .inr (first other listed), load_store_same rfl]
    · exact ih rest member

@[simp] theorem region_nil : Region start stop [] := fun _ none => absurd none List.not_mem_nil

@[simp] theorem region_cons : Region start stop (write :: writes) ↔
    (start ≤ write.1 ∧ write.1 + write.2.length ≤ stop) ∧ Region start stop writes := List.forall_mem_cons

@[simp] theorem region_append :
    Region start stop (writes ++ more) ↔ Region start stop writes ∧ Region start stop more :=
  List.forall_mem_append

theorem Region.mono (region : Region start stop writes) (below : start' ≤ start) (above : stop ≤ stop') :
    Region start' stop' writes := by
  intro write member
  have inside := region write member
  omega

end StoreAll

end IntelWifi.Memory
