/-
**What is left of a list after a left-to-right pass.**

A pass over a list updates a state, and a part of the state is updated in one of four ways: overwritten
by the elements that set it, extended, kept from the first element that offers it, or kept from the first
after a gate has opened. Each rule gives the part after the whole pass from its law for one element. The maximum
of a list is such a pass too, bounded as its elements are, and so is the minimum.
-/

import Mathlib.Data.List.Basic
import Mathlib.Order.MinMax
import Mathlib.Tactic.Common

namespace IntelWifi.Folds

variable {σ α β : Type} {step : σ → β → σ}

/-- The last value a list sets, or the initial one. -/
def latest (sets : β → Option α) (xs : List β) (initial : α) : α := (xs.filterMap sets).getLastD initial

/-- The elements after the first that opens the gate. -/
def afterFirst (opens : β → Bool) : List β → List β
  | [] => []
  | x :: rest => if opens x then rest else afterFirst opens rest

theorem latest_cons (sets : β → Option α) (x : β) (rest : List β) (initial : α) :
    latest sets (x :: rest) initial = latest sets rest ((sets x).getD initial) := by
  unfold latest
  cases set : sets x with
  | none => rw [List.filterMap_cons_none set]; rfl
  | some a => rw [List.filterMap_cons_some set, List.getLastD_cons]; rfl

theorem latest_map {γ : Type} (sets : β → Option α) (f : γ → β) (xs : List γ) (initial : α) :
    latest sets (xs.map f) initial = latest (fun x => sets (f x)) xs initial := by
  unfold latest
  rw [List.filterMap_map]
  rfl

/-- A part that nothing sets. -/
theorem latest_none (xs : List β) (initial : α) : latest (fun _ : β => none) xs initial = initial := by
  induction xs with
  | nil => rfl
  | cons x rest ih => rw [latest_cons]; exact ih

/-- **A part that is overwritten** is the last value set. -/
theorem foldl_latest {get : σ → α} {sets : β → Option α}
    (law : ∀ s x, get (step s x) = (sets x).getD (get s)) (xs : List β) (s : σ) :
    get (xs.foldl step s) = latest sets xs (get s) := by
  induction xs generalizing s with
  | nil => rfl
  | cons x rest ih => rw [List.foldl_cons, ih, law, latest_cons]

/-- **A part that is updated by what an element holds.** -/
theorem foldl_part {γ : Type} {get : σ → α} {holds : β → Option γ} {update : α → γ → α}
    (law : ∀ s x, get (step s x) = ((holds x).map (update (get s))).getD (get s)) (xs : List β) (s : σ) :
    get (xs.foldl step s) = (xs.filterMap holds).foldl update (get s) := by
  induction xs generalizing s with
  | nil => rfl
  | cons x rest ih =>
    rw [List.foldl_cons, ih, law]
    cases held : holds x with
    | none => rw [List.filterMap_cons_none held]; rfl
    | some c => rw [List.filterMap_cons_some held]; rfl

/-- **A part that is extended.** -/
theorem foldl_extended {get : σ → List α} {adds : β → Option α}
    (law : ∀ s x, get (step s x) = get s ++ (adds x).toList) (xs : List β) (s : σ) :
    get (xs.foldl step s) = get s ++ xs.filterMap adds := by
  induction xs generalizing s with
  | nil => exact (List.append_nil _).symm
  | cons x rest ih =>
    rw [List.foldl_cons, ih, law, List.append_assoc]
    cases added : adds x with
    | none => rw [List.filterMap_cons_none added]; rfl
    | some a => rw [List.filterMap_cons_some added]; rfl

/-- **A flag that is raised.** -/
theorem foldl_any {get : σ → Bool} {raises : β → Bool}
    (law : ∀ s x, get (step s x) = (get s || raises x)) (xs : List β) (s : σ) :
    get (xs.foldl step s) = (get s || xs.any raises) := by
  induction xs generalizing s with
  | nil => exact (Bool.or_false _).symm
  | cons x rest ih => rw [List.foldl_cons, ih, law, List.any_cons, Bool.or_assoc]

/-- **A part that is kept** from the first element that offers it. -/
theorem foldl_first {get : σ → Option α} {offers : β → Option α}
    (law : ∀ s x, get (step s x) = (get s).or (offers x)) (xs : List β) (s : σ) :
    get (xs.foldl step s) = (get s).or (xs.findSome? offers) := by
  induction xs generalizing s with
  | nil => exact (Option.or_none).symm
  | cons x rest ih =>
    rw [List.foldl_cons, ih, law, Option.or_assoc]
    congr 1
    rw [List.findSome?_cons]
    cases offers x <;> rfl

/-- **A part that is kept** from the first element that offers it after the gate has opened. -/
theorem foldl_first_after {get : σ → Option α} {offers : β → Option α} {opened : σ → Bool}
    {opens : β → Bool} (gate : ∀ s x, opened (step s x) = (opened s || opens x))
    (law : ∀ s x, get (step s x) = (get s).or (if opened s then offers x else none)) (xs : List β)
    (s : σ) :
    get (xs.foldl step s) =
      (get s).or ((if opened s then xs else afterFirst opens xs).findSome? offers) := by
  induction xs generalizing s with
  | nil =>
    rw [afterFirst, ite_self]
    exact (Option.or_none).symm
  | cons x rest ih =>
    rw [List.foldl_cons, ih, law, gate]
    cases opened s with
    | true =>
      rw [Bool.true_or, if_pos rfl, if_pos rfl, if_pos rfl, Option.or_assoc, List.findSome?_cons]
      cases offers x <;> rfl
    | false =>
      rw [Bool.false_or, if_neg Bool.false_ne_true, if_neg Bool.false_ne_true, Option.or_none, afterFirst]

section Max

variable [LinearOrder α] {values : List α} {start bound : α}

/-- **The maximum is bounded** by what bounds the start and every element. -/
theorem foldl_max_le_iff : values.foldl max start ≤ bound ↔ start ≤ bound ∧ ∀ value ∈ values, value ≤ bound := by
  induction values generalizing start with
  | nil => exact ⟨fun least => ⟨least, fun _ none => absurd none List.not_mem_nil⟩, fun both => both.1⟩
  | cons value later ih => rw [List.foldl_cons, ih, List.forall_mem_cons, max_le_iff, and_assoc]

/-- **It reaches** what the start or an element reaches. -/
theorem le_foldl_max_iff : bound ≤ values.foldl max start ↔ bound ≤ start ∨ ∃ value ∈ values, bound ≤ value := by
  induction values generalizing start with
  | nil => exact ⟨Or.inl, fun reached => reached.resolve_right fun ⟨_, member, _⟩ => absurd member List.not_mem_nil⟩
  | cons value later ih => rw [List.foldl_cons, ih, List.exists_mem_cons_iff, le_max_iff, or_assoc]

/-- **The minimum is above** what is below the start and every element. -/
theorem lt_foldl_min_iff : bound < values.foldl min start ↔ bound < start ∧ ∀ value ∈ values, bound < value := by
  induction values generalizing start with
  | nil => exact ⟨fun least => ⟨least, fun _ none => absurd none List.not_mem_nil⟩, fun both => both.1⟩
  | cons value later ih => rw [List.foldl_cons, ih, List.forall_mem_cons, lt_min_iff, and_assoc]

end Max

end IntelWifi.Folds
