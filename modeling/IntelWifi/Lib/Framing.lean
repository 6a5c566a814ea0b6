/-
**Framed items in a byte string.**

A framing says how an item is written and how the next item is read off a string, if there is one: exactly what was
written. Then every string is a list of items and a rest at which no item is read, in one way.

* `exists_reads`, `Reads.unique`: the items of a string, and its rest.
* `reads_encode`: written items are read back.
* `run_reads`: a loop that takes an item in each turn is a fold over the items.
-/

import IntelWifi.Lib.Loop

namespace IntelWifi.Framing

open Loop

/-- How items are written, and the next one is read. -/
structure Format (Byte Item : Type) where
  encode : Item → List Byte
  next : List Byte → Option (Item × List Byte)
  next_eq_some_iff : ∀ {bytes item rest}, next bytes = some (item, rest) ↔ bytes = encode item ++ rest
  encode_ne_nil : ∀ item, encode item ≠ []

variable {Byte Item : Type} {format : Format Byte Item} {bytes rest : List Byte} {items : List Item}

/-- The items one after the other. -/
def Format.encodeAll (format : Format Byte Item) (items : List Item) : List Byte := items.flatMap format.encode

@[simp] theorem encodeAll_nil : format.encodeAll [] = [] := rfl

@[simp] theorem encodeAll_cons (item : Item) :
    format.encodeAll (item :: items) = format.encode item ++ format.encodeAll items := rfl

/-- **The items of a string**, up to where no item is read. -/
structure Reads (format : Format Byte Item) (bytes : List Byte) (items : List Item) (rest : List Byte) : Prop where
  split : bytes = format.encodeAll items ++ rest
  done : format.next rest = none

theorem next_encode (format : Format Byte Item) (item : Item) (rest : List Byte) :
    format.next (format.encode item ++ rest) = some (item, rest) :=
  format.next_eq_some_iff.mpr rfl

theorem Reads.nil (done : format.next bytes = none) : Reads format bytes [] bytes := ⟨rfl, done⟩

theorem Reads.cons {item : Item} {later : List Byte} (first : format.next bytes = some (item, later))
    (reads : Reads format later items rest) : Reads format bytes (item :: items) rest := by
  refine ⟨?_, reads.done⟩
  rw [format.next_eq_some_iff.mp first, encodeAll_cons, List.append_assoc, ← reads.split]

/-- Written items are read back, whatever follows that is none. -/
theorem reads_encode (items : List Item) (done : format.next rest = none) :
    Reads format (format.encodeAll items ++ rest) items rest := ⟨rfl, done⟩

/-- An item has a byte. -/
theorem length_next {item : Item} (first : format.next bytes = some (item, rest)) : rest.length < bytes.length := by
  have some := List.length_pos_iff.mpr (format.encode_ne_nil item)
  rw [format.next_eq_some_iff.mp first, List.length_append]
  omega

/-- **Every string has items and a rest.** -/
theorem exists_reads (format : Format Byte Item) (bytes : List Byte) :
    ∃ items rest, Reads format bytes items rest := by
  -- by induction on the length, since an item is not empty
  induction size : bytes.length using Nat.strongRecOn generalizing bytes with
  | ind size shorter =>
    cases first : format.next bytes with
    | none => exact ⟨[], bytes, .nil first⟩
    | some read =>
      obtain ⟨items, rest, reads⟩ := shorter _ (size ▸ length_next first) read.2 rfl
      exact ⟨read.1 :: items, rest, .cons first reads⟩

/-- There are no more items than bytes. -/
theorem Reads.length_le (reads : Reads format bytes items rest) : items.length ≤ bytes.length := by
  obtain ⟨rfl, _⟩ := reads
  induction items with
  | nil => exact Nat.zero_le _
  | cons item items ih =>
    have some := List.length_pos_iff.mpr (format.encode_ne_nil item)
    rw [encodeAll_cons, List.append_assoc, List.length_append, List.length_cons]
    omega

/-- **And only these.** -/
theorem Reads.unique {items' : List Item} {rest' : List Byte} (reads : Reads format bytes items rest)
    (reads' : Reads format bytes items' rest') : items = items' ∧ rest = rest' := by
  have first (item : Item) (items : List Item) (rest : List Byte) :
      format.next (format.encodeAll (item :: items) ++ rest) = some (item, format.encodeAll items ++ rest) := by
    rw [encodeAll_cons, List.append_assoc, next_encode]
  obtain ⟨split, done⟩ := reads
  obtain ⟨split', done'⟩ := reads'
  induction items generalizing bytes items' with
  | nil =>
    cases items' with
    | nil => exact ⟨rfl, split.symm.trans split'⟩
    | cons item items' =>
      rw [← List.nil_append rest, ← encodeAll_nil, ← split, split', first] at done
      cases done
  | cons item items ih =>
    cases items' with
    | nil =>
      rw [← List.nil_append rest', ← encodeAll_nil, ← split', split, first] at done'
      cases done'
    | cons item' items' =>
      have same := first item items rest
      rw [← split, split', first, Option.some.injEq, Prod.mk.injEq] at same
      obtain ⟨rfl, more⟩ := same
      obtain ⟨rfl, rfl⟩ := ih rfl more.symm
      exact ⟨rfl, rfl⟩

/-- The result of a loop that was left early, or that came to its end. -/
def result {State Result : Type} (final : State → Result) : Except Result State → Result
  | .ok st => final st
  | .error early => early

@[simp] theorem result_ok {State Result : Type} (final : State → Result) (st : State) : result final (.ok st) = final st := rfl

@[simp] theorem result_error {State Result : Type} (final : State → Result) (early : Result) :
    result final (.error early) = early := rfl

/-- **A loop that takes an item in each turn.** Before a turn `view` is what is left of the string. The turn gives the
item to `absorb`, which may refuse it; where there is no item it leaves. -/
theorem run_reads {State Result : Type} {body : State → Turn State Result} {absorb : State → Item → Except Result State}
    (Inv : State → Prop) (view : State → List Byte) (final : State → Result)
    (turn : ∀ {st item rest}, Inv st → format.next (view st) = some (item, rest) →
      (∃ result, absorb st item = .error result ∧ body st = .leave result) ∨
      ∃ st', absorb st item = .ok st' ∧ body st = .again st' ∧ Inv st' ∧ view st' = rest)
    (stop : ∀ {st}, Inv st → format.next (view st) = none → body st = .leave (final st))
    {st : State} (inv : Inv st) (reads : Reads format (view st) items rest) {fuel : Nat} (enough : items.length < fuel) :
    run body fuel st = some (result final (items.foldlM absorb st)) := by
  obtain ⟨split, done⟩ := reads
  induction items generalizing st fuel with
  | nil =>
    obtain ⟨fuel, rfl⟩ : ∃ less, fuel = less + 1 := ⟨fuel - 1, by simp at enough; omega⟩
    have none : format.next (view st) = none := by rw [split]; exact done
    exact run_leave (stop inv none) fuel
  | cons item items ih =>
    obtain ⟨fuel, rfl⟩ : ∃ less, fuel = less + 1 := ⟨fuel - 1, by simp at enough; omega⟩
    have first : format.next (view st) = some (item, format.encodeAll items ++ rest) := by
      rw [split, encodeAll_cons, List.append_assoc, next_encode]
    rw [List.foldlM_cons]
    rcases turn inv first with ⟨result, refused, left⟩ | ⟨st', taken, again, inv', view'⟩
    · rw [refused, run_leave left]
      rfl
    · rw [taken, run_again again]
      exact ih inv' (by simpa using enough) view'

end IntelWifi.Framing
