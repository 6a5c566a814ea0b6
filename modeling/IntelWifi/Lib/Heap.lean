/-
**A heap of named blocks.**

A block is named by the allocation that makes it, which is made once. A pointer is NULL or names a block.
Releasing or reading through NULL, or a block that is not allocated, is a fault.

* `release_ok`, `access_ok`: what does not fault.
* `execute_ordered`: a program that uses no block after its release, and only allocated ones, does not fault.
* `execute_stale`: a program that uses a block which is not allocated does.
-/

import Mathlib.Logic.Function.Basic
import Mathlib.Tactic.Common

namespace IntelWifi.Heap

/-- A block is not allocated yet, allocated, or released. -/
inductive Cell where
  | fresh
  | live
  | freed
  deriving DecidableEq, Repr

/-- What goes wrong: NULL is dereferenced, or a pointer to no allocated block is used. -/
inductive Fault where
  | null
  | stale
  deriving DecidableEq, Repr

/-- The state of every block. -/
abbrev Blocks (Name : Type) := Name → Cell

abbrev Pointer (Name : Type) := Option Name

variable {Name : Type} [DecidableEq Name]

/-- A block is allocated. -/
def allocate (heap : Blocks Name) (name : Name) : Blocks Name := Function.update heap name .live

/-- A pointer is dereferenced. -/
def access (heap : Blocks Name) : Pointer Name → Except Fault Unit
  | none => .error .null
  | some name => if heap name = .live then .ok () else .error .stale

/-- A block is released. Releasing NULL does nothing. -/
def release (heap : Blocks Name) : Pointer Name → Except Fault (Blocks Name)
  | none => .ok heap
  | some name =>
    if heap name = .live then .ok (Function.update heap name .freed) else .error .stale

variable {heap heap' : Blocks Name} {name : Name}

omit [DecidableEq Name] in
theorem access_ok (live : heap name = .live) : access heap (some name) = .ok () := if_pos live

omit [DecidableEq Name] in
theorem access_stale (gone : heap name ≠ .live) : access heap (some name) = .error .stale := if_neg gone

theorem release_ok (live : heap name = .live) :
    release heap (some name) = .ok (Function.update heap name .freed) := if_pos live

theorem release_stale (gone : heap name ≠ .live) : release heap (some name) = .error .stale :=
  if_neg gone

/-- What a release may do to a block. -/
theorem release_cell {pointer : Pointer Name} (done : release heap pointer = .ok heap') (name : Name) :
    heap' name = heap name ∨ pointer = some name ∧ heap' name = .freed := by
  cases pointer with
  | none => exact .inl (congrFun (Except.ok.inj done).symm name)
  | some own =>
    by_cases live : heap own = .live
    · rw [release_ok live] at done
      obtain rfl := Except.ok.inj done
      by_cases same : name = own
      · subst same
        exact .inr ⟨rfl, Function.update_self _ _ _⟩
      · exact .inl (Function.update_of_ne same _ _)
    · rw [release_stale live] at done
      cases done

/-- A release allocates nothing. -/
theorem release_not_live {pointer : Pointer Name} (done : release heap pointer = .ok heap')
    (gone : heap name ≠ .live) : heap' name ≠ .live := by
  rcases release_cell done name with same | ⟨_, freed⟩
  · rw [same]
    exact gone
  · rw [freed]
    decide

/-! ### Programs that allocate nothing -/

/-- A use of a pointer. -/
inductive Op (Name : Type) where
  | read (pointer : Pointer Name)
  | free (pointer : Pointer Name)

/-- Some uses in order. -/
def execute : List (Op Name) → Blocks Name → Except Fault (Blocks Name)
  | [], heap => .ok heap
  | .read pointer :: later, heap => do
    access heap pointer
    execute later heap
  | .free pointer :: later, heap => do
    let heap ← release heap pointer
    execute later heap

/-- The block a use is of. -/
def Op.block : Op Name → Pointer Name
  | .read pointer | .free pointer => pointer

/-- The blocks that are used. -/
def touched (ops : List (Op Name)) : List Name := ops.filterMap Op.block

/-- The blocks that are released. -/
def freed (ops : List (Op Name)) : List Name :=
  ops.filterMap fun op =>
    match op with
    | .read _ => none
    | .free pointer => pointer

/-- A heap with some blocks released. -/
def freeAll (names : List Name) (heap : Blocks Name) : Blocks Name :=
  fun name => if name ∈ names then .freed else heap name

/-- A heap with some blocks allocated. -/
def allocateAll (names : List Name) (heap : Blocks Name) : Blocks Name :=
  fun name => if name ∈ names then .live else heap name

/-- **No block is used once it is released**, and NULL is not read. -/
def Ordered : List (Op Name) → Prop
  | [] => True
  | .read pointer :: later => pointer ≠ none ∧ Ordered later
  | .free none :: later => Ordered later
  | .free (some name) :: later => name ∉ touched later ∧ Ordered later

omit [DecidableEq Name] in
theorem touched_append (ops later : List (Op Name)) : touched (ops ++ later) = touched ops ++ touched later :=
  List.filterMap_append

omit [DecidableEq Name] in
theorem freed_append (ops later : List (Op Name)) : freed (ops ++ later) = freed ops ++ freed later :=
  List.filterMap_append

omit [DecidableEq Name] in
theorem freed_subset_touched {ops : List (Op Name)} {name : Name} (member : name ∈ freed ops) :
    name ∈ touched ops := by
  obtain ⟨op, found, is⟩ := List.mem_filterMap.mp member
  refine List.mem_filterMap.mpr ⟨op, found, ?_⟩
  cases op with
  | read pointer => cases is
  | free pointer => exact is

omit [DecidableEq Name] in
/-- What comes later does not use what was released before. -/
theorem ordered_append {ops later : List (Op Name)} :
    Ordered (ops ++ later) ↔ Ordered ops ∧ Ordered later ∧ ∀ name ∈ freed ops, name ∉ touched later := by
  induction ops with
  | nil => exact ⟨fun ordered => ⟨trivial, ordered, fun _ member => (nomatch member)⟩, fun all => all.2.1⟩
  | cons op rest ih =>
    cases op with
    | read pointer =>
      show _ ∧ Ordered (rest ++ later) ↔ (_ ∧ Ordered rest) ∧ _ ∧ ∀ name ∈ freed rest, _
      rw [ih, and_assoc]
    | free pointer =>
      cases pointer with
      | none => exact ih
      | some name =>
        show _ ∉ touched (rest ++ later) ∧ Ordered (rest ++ later) ↔
          (_ ∧ Ordered rest) ∧ _ ∧ ∀ other ∈ name :: freed rest, _
        rw [ih, touched_append, List.mem_append, not_or, List.forall_mem_cons]
        tauto

omit [DecidableEq Name] in
theorem mem_touched_flatMap {ι : Type} {program : ι → List (Op Name)} {parts : List ι} {name : Name} :
    name ∈ touched (parts.flatMap program) ↔ ∃ part ∈ parts, name ∈ touched (program part) := by
  unfold touched
  rw [List.filterMap_flatMap, List.mem_flatMap]

omit [DecidableEq Name] in
theorem mem_freed_flatMap {ι : Type} {program : ι → List (Op Name)} {parts : List ι} {name : Name} :
    name ∈ freed (parts.flatMap program) ↔ ∃ part ∈ parts, name ∈ freed (program part) := by
  unfold freed
  rw [List.filterMap_flatMap, List.mem_flatMap]

omit [DecidableEq Name] in
/-- Ordered programs that release nothing of each other make one. -/
theorem ordered_flatMap {ι : Type} {program : ι → List (Op Name)} {parts : List ι} (distinct : parts.Nodup)
    (ordered : ∀ part ∈ parts, Ordered (program part))
    (apart : ∀ part other, part ≠ other → ∀ name ∈ freed (program part), name ∉ touched (program other)) :
    Ordered (parts.flatMap program) := by
  induction parts with
  | nil => exact trivial
  | cons part later ih =>
    obtain ⟨new, distinct⟩ := List.nodup_cons.mp distinct
    rw [List.flatMap_cons, ordered_append]
    refine ⟨ordered part List.mem_cons_self,
      ih distinct fun other member => ordered other (List.mem_cons_of_mem _ member), fun name gone used => ?_⟩
    obtain ⟨other, member, used⟩ := mem_touched_flatMap.mp used
    have differ : part ≠ other := by
      rintro rfl
      exact new member
    exact apart part other differ name gone used

/-- **An ordered program releases its blocks**, if all it uses are allocated. -/
theorem execute_ordered {ops : List (Op Name)} {heap : Blocks Name} (ordered : Ordered ops)
    (live : ∀ name ∈ touched ops, heap name = .live) : execute ops heap = .ok (freeAll (freed ops) heap) := by
  induction ops generalizing heap with
  | nil => exact congrArg _ (funext fun name => (if_neg (List.not_mem_nil)).symm)
  | cons op later ih =>
    cases op with
    | read pointer =>
      cases pointer with
      | none => exact absurd rfl ordered.1
      | some name =>
        rw [execute, access_ok (live name List.mem_cons_self)]
        exact ih ordered.2 fun other member => live other (List.mem_cons_of_mem _ member)
    | free pointer =>
      cases pointer with
      | none => exact ih ordered live
      | some name =>
        obtain ⟨unused, ordered⟩ := ordered
        rw [execute, release_ok (live name List.mem_cons_self)]
        have rest := @ih (Function.update heap name .freed) ordered fun other member => by
          have differ : other ≠ name := by
            rintro rfl
            exact unused member
          rw [Function.update_of_ne differ]
          exact live other (List.mem_cons_of_mem _ member)
        refine rest.trans (congrArg _ (funext fun other => ?_))
        show freeAll (freed later) _ other = freeAll (name :: freed later) _ other
        unfold freeAll
        by_cases here : other = name
        · subst here
          rw [if_pos List.mem_cons_self, Function.update_self, ite_self]
        · rw [Function.update_of_ne here]
          simp only [List.mem_cons, here, false_or]

/-- **A program that uses a block which is not allocated faults.** -/
theorem execute_stale {ops : List (Op Name)} {heap heap' : Blocks Name} {name : Name}
    (gone : heap name ≠ .live) (used : name ∈ touched ops) : execute ops heap ≠ .ok heap' := by
  induction ops generalizing heap with
  | nil => cases used
  | cons op later ih =>
    intro done
    cases op with
    | read pointer =>
      cases pointer with
      | none => cases done
      | some own =>
        by_cases live : heap own = .live
        · rw [execute, access_ok live] at done
          refine ih gone ?_ done
          exact (List.mem_cons.mp used).resolve_left fun same => gone (same ▸ live)
        · rw [execute, access_stale live] at done
          cases done
    | free pointer =>
      cases pointer with
      | none => exact ih gone used done
      | some own =>
        by_cases live : heap own = .live
        · rw [execute, release_ok live] at done
          have other : name ≠ own := fun same => gone (same ▸ live)
          refine ih ?_ ((List.mem_cons.mp used).resolve_left other) done
          rwa [Function.update_of_ne other]
        · rw [execute, release_stale live] at done
          cases done

end IntelWifi.Heap
