/-
**A table that grows by index and by append.**

A table of records is filled by two kinds of writes: `put i` assigns slot `i`, growing the table with
holes when it is shorter, and `append` adds a slot at the end. Holes and records can be overwritten
by a later `put`, never by an `append`.

* `fill_all_iff`: every slot of the final table holds a good record exactly when every write that
  leaves a hole or a bad record is followed by a `put` to that slot.
-/

import Mathlib.Data.List.Basic
import Mathlib.Tactic.Common

namespace IntelWifi.Slots

/-- One write to a table of records of type `R`. -/
inductive Write (R : Type) where
  | put (slot : Nat) (record : R)
  | append (record : R)
  deriving DecidableEq

variable {R : Type}

/-- A table with at least `n` slots; new ones are holes. -/
def grow (n : Nat) (table : List (Option R)) : List (Option R) :=
  table ++ List.replicate (n - table.length) none

def Write.apply (write : Write R) (table : List (Option R)) : List (Option R) :=
  match write with
  | .put slot record => (grow (slot + 1) table).set slot (some record)
  | .append record => table ++ [some record]

/-- The table after a list of writes. -/
def fill (writes : List (Write R)) (table : List (Option R)) : List (Option R) :=
  writes.foldl (fun table write => write.apply table) table

/-- Some write of the list puts a record in the slot. -/
def Puts (slot : Nat) (writes : List (Write R)) : Prop := ∃ record, Write.put slot record ∈ writes

/-- What a list of writes, to a table of `n` slots, has to satisfy for every slot it touches to end
up good: a bad record and a hole are put over later. -/
def Mended (Good : R → Prop) : Nat → List (Write R) → Prop
  | _, [] => True
  | n, .put slot record :: later =>
    (Good record ∨ Puts slot later) ∧ (∀ hole, n ≤ hole → hole < slot → Puts hole later) ∧
      Mended Good (max n (slot + 1)) later
  | n, .append record :: later => (Good record ∨ Puts n later) ∧ Mended Good (n + 1) later

@[simp] theorem length_grow (n : Nat) (table : List (Option R)) :
    (grow n table).length = max n table.length := by
  unfold grow
  rw [List.length_append, List.length_replicate]
  omega

theorem getElem?_grow (n : Nat) (table : List (Option R)) (i : Nat) :
    (grow n table)[i]? = if i < table.length then table[i]? else if i < n then some none else none := by
  unfold grow
  by_cases old : i < table.length
  · rw [if_pos old, List.getElem?_append_left old]
  · rw [if_neg old, List.getElem?_append_right (Nat.not_lt.mp old), List.getElem?_replicate]
    congr 1
    exact propext ⟨fun h => by omega, fun h => by omega⟩

theorem puts_cons_put {slot other : Nat} {record : R} {later : List (Write R)} :
    Puts other (.put slot record :: later) ↔ other = slot ∨ Puts other later := by
  constructor
  · rintro ⟨record', found⟩
    rcases List.mem_cons.mp found with same | found
    · cases same
      exact .inl rfl
    · exact .inr ⟨record', found⟩
  · rintro (rfl | ⟨record', found⟩)
    · exact ⟨record, List.mem_cons_self⟩
    · exact ⟨record', List.mem_cons_of_mem _ found⟩

theorem puts_cons_append {other : Nat} {record : R} {later : List (Write R)} :
    Puts other (.append record :: later) ↔ Puts other later := by
  constructor
  · rintro ⟨record', found⟩
    rcases List.mem_cons.mp found with same | found
    · cases same
    · exact ⟨record', found⟩
  · rintro ⟨record', found⟩
    exact ⟨record', List.mem_cons_of_mem _ found⟩

/-- The slot holds a good record. -/
def GoodSlot (Good : R → Prop) (table : List (Option R)) (slot : Nat) : Prop :=
  ∃ record, table[slot]? = some (some record) ∧ Good record

variable {Good : R → Prop}

theorem goodSlot_put {table : List (Option R)} {slot i : Nat} {record : R} :
    GoodSlot Good ((Write.put slot record).apply table) i ↔
      if i = slot then Good record else GoodSlot Good table i := by
  unfold GoodSlot Write.apply
  dsimp only
  rw [List.getElem?_set, length_grow, getElem?_grow]
  by_cases here : i = slot
  · subst here
    rw [if_pos rfl, if_pos rfl, if_pos (by omega)]
    exact ⟨fun ⟨_, same, good⟩ => by cases same; exact good, fun good => ⟨record, rfl, good⟩⟩
  · rw [if_neg (Ne.symm here), if_neg here]
    by_cases old : i < table.length
    · rw [if_pos old]
    · rw [if_neg old, List.getElem?_eq_none (Nat.not_lt.mp old)]
      refine ⟨fun ⟨_, same, _⟩ => ?_, fun ⟨_, same, _⟩ => by cases same⟩
      split at same <;> cases same

theorem goodSlot_append {table : List (Option R)} {i : Nat} {record : R} :
    GoodSlot Good ((Write.append record).apply table) i ↔
      if i = table.length then Good record else GoodSlot Good table i := by
  unfold GoodSlot Write.apply
  dsimp only
  by_cases last : i = table.length
  · subst last
    rw [if_pos rfl, List.getElem?_concat_length]
    exact ⟨fun ⟨_, same, good⟩ => by cases same; exact good, fun good => ⟨record, rfl, good⟩⟩
  · rw [if_neg last]
    by_cases old : i < table.length
    · rw [List.getElem?_append_left old]
    · have past : (table ++ [some record])[i]? = none := by
        rw [List.getElem?_eq_none_iff, List.length_append, List.length_singleton]
        omega
      rw [past, List.getElem?_eq_none (Nat.not_lt.mp old)]

/-- A slot past the end holds nothing. -/
theorem GoodSlot.lt_length {table : List (Option R)} {i : Nat} (good : GoodSlot Good table i) :
    i < table.length := by
  obtain ⟨record, found, _⟩ := good
  exact (List.getElem?_eq_some_iff.mp found).1

theorem length_put (table : List (Option R)) (slot : Nat) (record : R) :
    ((Write.put slot record).apply table).length = max (slot + 1) table.length := by
  unfold Write.apply
  dsimp only
  rw [List.length_set, length_grow]

theorem length_append (table : List (Option R)) (record : R) :
    ((Write.append record).apply table).length = table.length + 1 := by
  unfold Write.apply
  dsimp only
  rw [List.length_append, List.length_singleton]

/-- **How long a table gets** that is only put into: as long as its highest slot needs. -/
theorem lt_length_fill_puts {writes : List (Write R)} {table : List (Option R)} {n : Nat}
    (puts : ∀ write ∈ writes, ∃ slot record, write = .put slot record) :
    n < (fill writes table).length ↔ n < table.length ∨ ∃ slot, n ≤ slot ∧ Puts slot writes := by
  induction writes generalizing table with
  | nil =>
    refine ⟨.inl, fun or => or.resolve_right ?_⟩
    rintro ⟨_, _, _, found⟩
    cases found
  | cons write later ih =>
    obtain ⟨slot, record, rfl⟩ := puts write List.mem_cons_self
    have first : fill (.put slot record :: later) table = fill later ((Write.put slot record).apply table) := rfl
    rw [first, ih fun write member => puts write (List.mem_cons_of_mem _ member), length_put]
    constructor
    · rintro (longer | ⟨other, above, found⟩)
      · by_cases old : n < table.length
        · exact .inl old
        · exact .inr ⟨slot, by omega, puts_cons_put.mpr (.inl rfl)⟩
      · exact .inr ⟨other, above, puts_cons_put.mpr (.inr found)⟩
    · rintro (old | ⟨other, above, found⟩)
      · exact .inl (by omega)
      · rcases puts_cons_put.mp found with rfl | found
        · exact .inl (by omega)
        · exact .inr ⟨other, above, found⟩

/-- Every slot holds a good record. -/
def AllGood (Good : R → Prop) (table : List (Option R)) : Prop :=
  ∀ i < table.length, GoodSlot Good table i

/-- Every slot holds a good record, or is put over later. -/
def Covered (Good : R → Prop) (table : List (Option R)) (later : List (Write R)) : Prop :=
  ∀ i < table.length, GoodSlot Good table i ∨ Puts i later

/-- What a `put` has to leave for the writes after it. -/
theorem covered_put {table : List (Option R)} {slot : Nat} {record : R} {later : List (Write R)} :
    Covered Good ((Write.put slot record).apply table) later ↔
      (Good record ∨ Puts slot later) ∧ (∀ hole, table.length ≤ hole → hole < slot → Puts hole later) ∧
        Covered Good table (.put slot record :: later) := by
  unfold Covered
  rw [length_put]
  constructor
  · intro good
    refine ⟨?_, fun hole new below => ?_, fun i lt => ?_⟩
    · have here := good slot (by omega)
      rwa [goodSlot_put, if_pos rfl] at here
    · have gap := good hole (by omega)
      rw [goodSlot_put, if_neg (by omega)] at gap
      exact gap.resolve_left fun there => absurd there.lt_length (by omega)
    · have old := good i (by omega)
      rw [goodSlot_put] at old
      rw [puts_cons_put]
      by_cases here : i = slot
      · exact .inr (.inl here)
      · rw [if_neg here] at old
        exact old.imp_right .inr
  · rintro ⟨written, holes, good⟩ i lt
    rw [goodSlot_put]
    by_cases here : i = slot
    · rw [if_pos here, here]
      exact written
    · rw [if_neg here]
      by_cases old : i < table.length
      · have found := good i old
        rw [puts_cons_put] at found
        exact found.imp_right fun puts => puts.resolve_left here
      · exact .inr (holes i (by omega) (by omega))

/-- What an `append` has to leave for them. -/
theorem covered_append {table : List (Option R)} {record : R} {later : List (Write R)} :
    Covered Good ((Write.append record).apply table) later ↔
      (Good record ∨ Puts table.length later) ∧ Covered Good table (.append record :: later) := by
  unfold Covered
  rw [length_append]
  constructor
  · intro good
    refine ⟨?_, fun i lt => ?_⟩
    · have here := good table.length (by omega)
      rwa [goodSlot_append, if_pos rfl] at here
    · have old := good i (by omega)
      rw [goodSlot_append, if_neg (by omega)] at old
      rwa [puts_cons_append]
  · rintro ⟨written, good⟩ i lt
    rw [goodSlot_append]
    by_cases last : i = table.length
    · rw [if_pos last, last]
      exact written
    · rw [if_neg last]
      have found := good i (by omega)
      rwa [puts_cons_append] at found

/-- **The table ends up good**: what is written has to be mended, and what was bad put over. -/
theorem fill_allGood (writes : List (Write R)) (table : List (Option R)) :
    AllGood Good (fill writes table) ↔
      Mended Good table.length writes ∧
        ∀ i < table.length, GoodSlot Good table i ∨ Puts i writes := by
  show _ ↔ Mended Good table.length writes ∧ Covered Good table writes
  induction writes generalizing table with
  | nil =>
    constructor
    · exact fun good => ⟨trivial, fun i lt => .inl (good i lt)⟩
    · rintro ⟨_, good⟩ i lt
      rcases good i lt with good | ⟨_, found⟩
      · exact good
      · cases found
  | cons write later ih =>
    have first : fill (write :: later) table = fill later (write.apply table) := rfl
    rw [first, ih]
    cases write with
    | put slot record =>
      rw [covered_put, length_put, Nat.max_comm]
      exact ⟨fun ⟨mended, written, holes, good⟩ => ⟨⟨written, holes, mended⟩, good⟩,
        fun ⟨⟨written, holes, mended⟩, good⟩ => ⟨mended, written, holes, good⟩⟩
    | append record =>
      rw [covered_append, length_append]
      exact ⟨fun ⟨mended, written, good⟩ => ⟨⟨written, mended⟩, good⟩,
        fun ⟨⟨written, mended⟩, good⟩ => ⟨mended, written, good⟩⟩

/-- **A table filled from nothing** is good exactly when its writes are mended. -/
theorem fill_all_iff (writes : List (Write R)) :
    AllGood Good (fill writes []) ↔ Mended Good 0 writes := by
  rw [fill_allGood]
  exact ⟨And.left, fun mended => ⟨mended, fun i lt => absurd lt (Nat.not_lt_zero i)⟩⟩

theorem allGood_iff_mem (table : List (Option R)) :
    AllGood Good table ↔ ∀ entry ∈ table, ∃ record, entry = some record ∧ Good record := by
  constructor
  · intro good entry member
    obtain ⟨i, lt, rfl⟩ := List.mem_iff_getElem.mp member
    obtain ⟨record, found, own⟩ := good i lt
    rw [List.getElem?_eq_getElem lt, Option.some.injEq] at found
    exact ⟨record, found, own⟩
  · intro good i lt
    obtain ⟨record, found, own⟩ := good _ (List.getElem_mem lt)
    exact ⟨record, by rw [List.getElem?_eq_getElem lt, found], own⟩

/-- The record a write carries. -/
def Write.record : Write R → R
  | .put _ record => record
  | .append record => record

theorem mem_apply {write : Write R} {table : List (Option R)} {record : R}
    (member : some record ∈ write.apply table) : some record ∈ table ∨ write.record = record := by
  cases write with
  | put slot written =>
    rcases List.mem_or_eq_of_mem_set member with old | new
    · rcases List.mem_append.mp old with old | hole
      · exact .inl old
      · exact absurd (List.mem_replicate.mp hole).2 (by simp)
    · cases new
      exact .inr rfl
  | append written =>
    rcases List.mem_append.mp member with old | new
    · exact .inl old
    · cases List.mem_singleton.mp new
      exact .inr rfl

/-- Every record of a filled table was written. -/
theorem mem_fill {writes : List (Write R)} {table : List (Option R)} {record : R}
    (member : some record ∈ fill writes table) :
    some record ∈ table ∨ ∃ write ∈ writes, write.record = record := by
  induction writes generalizing table with
  | nil => exact .inl member
  | cons write later ih =>
    rcases @ih (write.apply table) member with old | ⟨other, found, same⟩
    · rcases mem_apply old with old | same
      · exact .inl old
      · exact .inr ⟨write, List.mem_cons_self, same⟩
    · exact .inr ⟨other, List.mem_cons_of_mem _ found, same⟩

end IntelWifi.Slots
