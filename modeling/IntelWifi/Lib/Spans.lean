/-
**Labelled spans, and joining those that touch.**

A span is a closed interval of a linear order with a label. A list of spans allows a point under a label when one
of its spans has this label and contains the point. `add` puts a span at the end of a list: into the last one, if
that has the same label and reaches the new one's beginning, else behind it.

* `allows_merged`: spans that come in order allow the same when they are added one after another.
* `apart_merged`: what is left cannot be joined further.
* `length_merged_le`: there are not more.
-/

import Mathlib.Data.List.Chain
import Mathlib.Data.List.ModifyLast
import Mathlib.Order.Lattice
import Mathlib.Tactic.Common

namespace IntelWifi.Spans

/-- The points from `first` to `last`, with a label. -/
@[ext]
structure Span (α κ : Type) where
  first : α
  last : α
  label : κ
  deriving DecidableEq, Repr

variable {α κ : Type} [LinearOrder α] [DecidableEq κ]

/-- A point is allowed under a label. -/
def Allows (spans : List (Span α κ)) (x : α) (l : κ) : Prop :=
  ∃ s ∈ spans, s.label = l ∧ s.first ≤ x ∧ x ≤ s.last

/-- The second can be taken into the first. -/
def Span.joins (s t : Span α κ) : Bool := s.label = t.label ∧ t.first ≤ s.last

/-- A list that ends in `s` gets `t`. -/
def add (spans : List (Span α κ)) (t : Span α κ) : List (Span α κ) :=
  match spans.getLast? with
  | none => [t]
  | some s => if s.joins t then spans.modifyLast ({ · with last := t.last }) else spans ++ [t]

def merged (spans : List (Span α κ)) : List (Span α κ) := spans.foldl add []

omit [DecidableEq κ] in
@[simp] theorem not_allows_nil (x : α) (l : κ) : ¬ Allows [] x l := by
  simp [Allows]

omit [DecidableEq κ] in
theorem allows_append (spans later : List (Span α κ)) (x : α) (l : κ) :
    Allows (spans ++ later) x l ↔ Allows spans x l ∨ Allows later x l := by
  simp only [Allows, List.mem_append, or_and_right, exists_or]

omit [DecidableEq κ] in
theorem allows_singleton (s : Span α κ) (x : α) (l : κ) :
    Allows [s] x l ↔ s.label = l ∧ s.first ≤ x ∧ x ≤ s.last := by
  simp [Allows]

@[simp] theorem add_nil (t : Span α κ) : add [] t = [t] := rfl

theorem add_join {spans : List (Span α κ)} {s t : Span α κ} (joins : s.joins t = true) :
    add (spans ++ [s]) t = spans ++ [{ s with last := t.last }] := by
  unfold add
  rw [List.getLast?_concat]
  dsimp only
  rw [if_pos joins, List.modifyLast_concat]

theorem add_apart {spans : List (Span α κ)} {s t : Span α κ} (apart : s.joins t = false) :
    add (spans ++ [s]) t = spans ++ [s] ++ [t] := by
  unfold add
  rw [List.getLast?_concat]
  dsimp only
  rw [apart, if_neg Bool.false_ne_true]

/-- The later span begins and ends no earlier. -/
def Span.before (s t : Span α κ) : Prop := s.first ≤ t.first ∧ s.last ≤ t.last

/-- **Joining two spans that touch** allows what both allow. -/
theorem allows_join {s t : Span α κ} (joins : s.joins t = true) (ordered : s.before t) (x : α) (l : κ) :
    Allows [{ s with last := t.last }] x l ↔ Allows [s] x l ∨ Allows [t] x l := by
  obtain ⟨same, reaches⟩ := of_decide_eq_true joins
  rw [allows_singleton, allows_singleton, allows_singleton, ← same, ← and_or_left]
  refine and_congr_right fun _ => ⟨fun inside => ?_, fun inside => ?_⟩
  · rcases le_total x s.last with here | beyond
    · exact .inl ⟨inside.1, here⟩
    · exact .inr ⟨reaches.trans beyond, inside.2⟩
  · rcases inside with first | second
    · exact ⟨first.1, first.2.trans ordered.2⟩
    · exact ⟨ordered.1.trans second.1, second.2⟩

/-- The last span of a list comes before the new one. -/
def Ends (spans : List (Span α κ)) (t : Span α κ) : Prop := ∀ s, spans.getLast? = some s → s.before t

theorem allows_add {spans : List (Span α κ)} {t : Span α κ} (ends : Ends spans t) (x : α) (l : κ) :
    Allows (add spans t) x l ↔ Allows spans x l ∨ Allows [t] x l := by
  rcases List.eq_nil_or_concat' spans with rfl | ⟨before, s, rfl⟩
  · simp
  · have ordered : s.before t := ends s List.getLast?_concat
    cases joins : s.joins t with
    | true => rw [add_join joins, allows_append, allows_join joins ordered, allows_append, or_assoc]
    | false => rw [add_apart joins, allows_append]

/-- The last span after one was added ends with it, and begins no later. -/
theorem getLast_add {spans : List (Span α κ)} {t : Span α κ} (ends : Ends spans t) :
    ∃ s, (add spans t).getLast? = some s ∧ s.first ≤ t.first ∧ s.last = t.last ∧ s.label = t.label := by
  rcases List.eq_nil_or_concat' spans with rfl | ⟨before, s, rfl⟩
  · exact ⟨t, rfl, le_rfl, rfl, rfl⟩
  · have ordered : s.before t := ends s List.getLast?_concat
    cases joins : s.joins t with
    | true =>
      rw [add_join joins]
      exact ⟨_, List.getLast?_concat, ordered.1, rfl, (of_decide_eq_true joins).1⟩
    | false =>
      rw [add_apart joins]
      exact ⟨t, List.getLast?_concat, le_rfl, rfl, rfl⟩

theorem ends_add {spans : List (Span α κ)} {t u : Span α κ} (ends : Ends spans t) (ordered : t.before u) :
    Ends (add spans t) u := by
  obtain ⟨s, last, first, same, _⟩ := getLast_add ends
  intro other is
  obtain rfl := Option.some.inj (last.symm.trans is)
  exact ⟨first.trans ordered.1, same.trans_le ordered.2⟩

theorem length_add_le (spans : List (Span α κ)) (t : Span α κ) : (add spans t).length ≤ spans.length + 1 := by
  rcases List.eq_nil_or_concat' spans with rfl | ⟨before, s, rfl⟩
  · simp
  · cases joins : s.joins t with
    | true => simp [add_join joins]
    | false => simp [add_apart joins]

/-- Neighbours cannot be joined. -/
def Apart (spans : List (Span α κ)) : Prop := spans.IsChain fun s t => s.joins t = false

theorem apart_add {spans : List (Span α κ)} (t : Span α κ) (apart : Apart spans) : Apart (add spans t) := by
  rcases List.eq_nil_or_concat' spans with rfl | ⟨before, s, rfl⟩
  · exact List.isChain_singleton t
  · cases joins : s.joins t with
    | true =>
      rw [add_join joins]
      unfold Apart at apart ⊢
      rw [List.isChain_append] at apart ⊢
      refine ⟨apart.1, List.isChain_singleton _, fun x last y only => ?_⟩
      obtain rfl := Option.some.inj only
      exact apart.2.2 x last s rfl
    | false =>
      rw [add_apart joins]
      unfold Apart at apart ⊢
      rw [List.isChain_append]
      refine ⟨apart, List.isChain_singleton _, fun x last y only => ?_⟩
      obtain rfl := Option.some.inj only
      rw [List.getLast?_concat, Option.mem_some_iff] at last
      rw [← last]
      exact joins

/-! ### A list of spans -/

/-- What a list allows after spans in order were added. -/
theorem allows_foldl {spans : List (Span α κ)} (added : List (Span α κ)) (ordered : added.IsChain Span.before)
    (ends : ∀ t ∈ added.head?, Ends spans t) (x : α) (l : κ) :
    Allows (added.foldl add spans) x l ↔ Allows spans x l ∨ Allows added x l := by
  induction added generalizing spans with
  | nil => simp
  | cons t later ih =>
    have here : Ends spans t := ends t rfl
    rw [List.isChain_cons] at ordered
    rw [List.foldl_cons, ih ordered.2 fun u next => ends_add here (ordered.1 u next), allows_add here, or_assoc,
      ← allows_append [t] later, List.singleton_append]

/-- **Spans in order allow the same when they are merged.** -/
theorem allows_merged {spans : List (Span α κ)} (ordered : spans.IsChain Span.before) (x : α) (l : κ) :
    Allows (merged spans) x l ↔ Allows spans x l := by
  refine (allows_foldl spans ordered (fun t _ s none => ?_) x l).trans (or_iff_right (not_allows_nil x l))
  cases none

theorem apart_foldl {spans : List (Span α κ)} (added : List (Span α κ)) (apart : Apart spans) :
    Apart (added.foldl add spans) := by
  induction added generalizing spans with
  | nil => exact apart
  | cons t later ih => exact ih (apart_add t apart)

/-- **No two neighbours of the merged spans can be joined.** -/
theorem apart_merged (spans : List (Span α κ)) : Apart (merged spans) := apart_foldl spans List.isChain_nil

theorem length_foldl_le (spans added : List (Span α κ)) :
    (added.foldl add spans).length ≤ spans.length + added.length := by
  induction added generalizing spans with
  | nil => exact le_rfl
  | cons t later ih =>
    have first := length_add_le spans t
    have rest := ih (add spans t)
    rw [List.foldl_cons, List.length_cons]
    omega

theorem length_merged_le (spans : List (Span α κ)) : (merged spans).length ≤ spans.length := by
  have most := length_foldl_le [] spans
  rwa [List.length_nil, Nat.zero_add] at most

end IntelWifi.Spans
