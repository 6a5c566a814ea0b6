/-
**Searches that may be stopped.**

A search goes through a list and gives the index of the first element that it takes. It gives up at an element
that stops it, so that what it finds depends on what comes before.

* `search_eq_some_iff`: what is found is taken, and everything before it is passed.
* `search_of_least`: the least index that is taken is found if nothing before it stops the search.
* `search_of_stopped`, `search_of_absent`: when nothing is found.
-/

import Mathlib.Order.Bounds.Basic
import Mathlib.Tactic.Common

namespace IntelWifi.GuardedSearch

/-- What a search does with an element. -/
inductive Verdict where
  | take
  | stop
  | pass
  deriving DecidableEq

variable {Item : Type} (verdict : Item → Verdict)

/-- The index of the first element that is taken, if the search comes to it. -/
def search : List Item → Option Nat
  | [] => none
  | item :: later =>
    match verdict item with
    | .take => some 0
    | .stop => none
    | .pass => (search later).map (· + 1)

/-- An element is there, and the search does this with it. -/
def Finds (items : List Item) (what : Verdict) (i : Nat) : Prop :=
  ∃ item, items[i]? = some item ∧ verdict item = what

variable {verdict} {item : Item} {items later : List Item} {what what' : Verdict} {i j : Nat}

@[simp] theorem finds_cons_zero : Finds verdict (item :: later) what 0 ↔ verdict item = what := by
  simp [Finds]

@[simp] theorem finds_cons_succ : Finds verdict (item :: later) what (i + 1) ↔ Finds verdict later what i :=
  Iff.rfl

theorem Finds.unique (here : Finds verdict items what i) (also : Finds verdict items what' i) : what = what' := by
  obtain ⟨item, is, rfl⟩ := here
  obtain ⟨item', is', rfl⟩ := also
  obtain rfl := Option.some.inj (is.symm.trans is')
  rfl

/-- Before an element there is another one. -/
theorem Finds.before (here : Finds verdict items what i) (below : j < i) :
    ∃ what', Finds verdict items what' j := by
  obtain ⟨item, is, -⟩ := here
  obtain ⟨inside, -⟩ := List.getElem?_eq_some_iff.mp is
  exact ⟨_, items[j], List.getElem?_eq_getElem (below.trans inside), rfl⟩

/-- **What a search finds** is taken, and everything before it is passed. -/
theorem search_eq_some_iff :
    search verdict items = some i ↔
      Finds verdict items .take i ∧ ∀ j < i, Finds verdict items .pass j := by
  induction items generalizing i with
  | nil => simp [search, Finds]
  | cons item later ih =>
    unfold search
    cases here : verdict item with
    | take =>
      constructor
      · intro found
        obtain rfl := Option.some.inj found
        exact ⟨finds_cons_zero.mpr here, fun j below => absurd below (Nat.not_lt_zero j)⟩
      · rintro ⟨-, passed⟩
        cases i with
        | zero => rfl
        | succ i =>
          have first := finds_cons_zero.mp (passed 0 (Nat.succ_pos i))
          cases here.symm.trans first
    | stop =>
      refine iff_of_false (by simp) ?_
      rintro ⟨taken, passed⟩
      cases i with
      | zero => cases here.symm.trans (finds_cons_zero.mp taken)
      | succ i => cases here.symm.trans (finds_cons_zero.mp (passed 0 (Nat.succ_pos i)))
    | pass =>
      cases i with
      | zero => simp [here]
      | succ i =>
        simp only [Option.map_eq_some_iff, Nat.add_right_cancel_iff, exists_eq_right, ih, finds_cons_succ]
        refine and_congr_right fun _ => ⟨fun passed j below => ?_, fun passed j below => ?_⟩
        · cases j with
          | zero => exact finds_cons_zero.mpr here
          | succ j => exact finds_cons_succ.mpr (passed j (Nat.lt_of_succ_lt_succ below))
        · exact passed (j + 1) (Nat.succ_lt_succ below)

/-- **The least element that is taken is found**, if nothing before it stops the search. -/
theorem search_of_least (least : IsLeast {i | Finds verdict items .take i} i)
    (clear : ∀ j < i, ¬ Finds verdict items .stop j) : search verdict items = some i := by
  refine search_eq_some_iff.mpr ⟨least.1, fun j below => ?_⟩
  obtain ⟨what, finds⟩ := Finds.before least.1 below
  cases what with
  | take => exact absurd (least.2 finds) (Nat.not_le.mpr below)
  | stop => exact absurd finds (clear j below)
  | pass => exact finds

/-- An element that stops the search hides what is taken after it. -/
theorem search_of_stopped (least : IsLeast {i | Finds verdict items .take i} i) (below : j < i)
    (stopped : Finds verdict items .stop j) : search verdict items = none := by
  refine Option.eq_none_iff_forall_ne_some.mpr fun k found => ?_
  obtain ⟨taken, passed⟩ := search_eq_some_iff.mp found
  cases stopped.unique (passed j (below.trans_le (least.2 taken)))

theorem search_of_absent (absent : ∀ i, ¬ Finds verdict items .take i) : search verdict items = none :=
  Option.eq_none_iff_forall_ne_some.mpr fun i found => absent i (search_eq_some_iff.mp found).1

end IntelWifi.GuardedSearch
