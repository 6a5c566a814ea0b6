/-
**Programs that take and release locks.**

A program is a state transformer whose state has a log of the locks it takes and releases. For one lock, a
log is balanced if the lock is never taken while it is held nor released while it is free, and is released
as often as it is taken.

* `balanced_iff`: a log is balanced when it can be walked and ends with the lock free.
* `Avoids.bind`, `Avoids.ite`: programs that do not touch a lock.
* `KeepsAt.section`: such a program between taking the lock and releasing it.
-/

import Mathlib.Data.List.Count
import Mathlib.Tactic.Common

namespace IntelWifi.Locks

inductive LockEvent (Lock : Type) where
  | lock (lock : Lock)
  | unlock (lock : Lock)
  deriving DecidableEq

variable {Lock : Type}

/-- The lock of an event. -/
def LockEvent.of : LockEvent Lock → Lock
  | .lock own => own
  | .unlock own => own

/-! ### Programs that do not touch a lock -/

variable {State α β : Type} (events : State → List (LockEvent Lock))

/-- The program takes and releases other locks only. -/
def Avoids (own : Lock) (program : StateM State α) : Prop :=
  ∀ st, ∃ added, events (program.run st).2 = events st ++ added ∧ ∀ event ∈ added, event.of ≠ own

variable {events} {own : Lock}

theorem Avoids.pure (own : Lock) (value : α) : Avoids events own (pure value : StateM State α) :=
  fun _ => ⟨[], (List.append_nil _).symm, fun _ none => absurd none List.not_mem_nil⟩

/-- A program that leaves the log as it is. -/
theorem Avoids.of_same {program : StateM State α} (same : ∀ st, events (program.run st).2 = events st) :
    Avoids events own program :=
  fun st => ⟨[], (same st).trans (List.append_nil _).symm, fun _ none => absurd none List.not_mem_nil⟩

theorem Avoids.bind {program : StateM State α} {next : α → StateM State β}
    (first : Avoids events own program) (second : ∀ value, Avoids events own (next value)) :
    Avoids events own (program >>= next) := by
  intro st
  obtain ⟨added, after, other⟩ := first st
  obtain ⟨added', after', other'⟩ := second (program.run st).1 (program.run st).2
  refine ⟨added ++ added', ?_, fun event member => ?_⟩
  · rw [← List.append_assoc, ← after]
    exact after'
  · rcases List.mem_append.mp member with member | member
    · exact other event member
    · exact other' event member

theorem Avoids.ite {condition : Prop} [Decidable condition] {program program' : StateM State α}
    (first : Avoids events own program) (second : Avoids events own program') :
    Avoids events own (if condition then program else program') := by
  split
  · exact first
  · exact second

/-! ### Balanced logs -/

variable [DecidableEq Lock]

/-- Whether the lock is held at the end of a log, if the log never takes it while it is held and never
releases it while it is free. -/
def holds (own : Lock) : Bool → List (LockEvent Lock) → Option Bool
  | held, [] => some held
  | held, .lock lock :: later =>
    if lock = own then (if held then none else holds own true later) else holds own held later
  | held, .unlock lock :: later =>
    if lock = own then (if held then holds own false later else none) else holds own held later

/-- **A balanced log**: the lock is free at first. -/
structure Balanced (own : Lock) (log : List (LockEvent Lock)) : Prop where
  legal : (holds own false log).isSome
  same : log.count (.unlock own) = log.count (.lock own)

variable {log log' : List (LockEvent Lock)}

theorem holds_count {held held' : Bool} (ends : holds own held log = some held') :
    log.count (.lock own) + held.toNat = log.count (.unlock own) + held'.toNat := by
  induction log generalizing held with
  | nil =>
    obtain rfl := Option.some.inj ends
    rfl
  | cons event later ih =>
    rw [List.count_cons, List.count_cons]
    cases event with
    | lock lock =>
      rw [holds] at ends
      rw [if_neg (show ¬ (LockEvent.lock lock == .unlock own) = true by simp)]
      by_cases mine : lock = own
      · subst mine
        rw [if_pos rfl] at ends
        rw [if_pos (beq_self_eq_true _)]
        cases held with
        | false =>
          have after := ih ends
          rw [Bool.toNat_true] at after
          rw [Bool.toNat_false]
          omega
        | true => cases ends
      · rw [if_neg mine] at ends
        rw [if_neg (show ¬ (LockEvent.lock lock == .lock own) = true by simpa using mine)]
        exact ih ends
    | unlock lock =>
      rw [holds] at ends
      rw [if_neg (show ¬ (LockEvent.unlock lock == .lock own) = true by simp)]
      by_cases mine : lock = own
      · subst mine
        rw [if_pos rfl] at ends
        rw [if_pos (beq_self_eq_true _)]
        cases held with
        | true =>
          have after := ih ends
          rw [Bool.toNat_false] at after
          rw [Bool.toNat_true]
          omega
        | false => cases ends
      · rw [if_neg mine] at ends
        rw [if_neg (show ¬ (LockEvent.unlock lock == .unlock own) = true by simpa using mine)]
        exact ih ends

theorem balanced_iff : Balanced own log ↔ holds own false log = some false := by
  constructor
  · rintro ⟨legal, same⟩
    obtain ⟨held, ends⟩ := Option.isSome_iff_exists.mp legal
    have count := holds_count ends
    cases held with
    | false => exact ends
    | true =>
      rw [Bool.toNat_false, Bool.toNat_true] at count
      omega
  · intro ends
    exact ⟨Option.isSome_of_mem ends, (holds_count ends).symm⟩

theorem holds_append (held : Bool) :
    holds own held (log ++ log') = (holds own held log).bind fun held => holds own held log' := by
  induction log generalizing held with
  | nil => rfl
  | cons event later ih =>
    cases event with
    | lock lock =>
      rw [List.cons_append, holds, holds]
      by_cases mine : lock = own
      · rw [if_pos mine, if_pos mine]
        cases held with
        | false => exact ih true
        | true => rfl
      · rw [if_neg mine, if_neg mine, ih]
    | unlock lock =>
      rw [List.cons_append, holds, holds]
      by_cases mine : lock = own
      · rw [if_pos mine, if_pos mine]
        cases held with
        | true => exact ih false
        | false => rfl
      · rw [if_neg mine, if_neg mine, ih]

/-- Other locks do not matter. -/
theorem holds_other (held : Bool) (other : ∀ event ∈ log, event.of ≠ own) :
    holds own held log = some held := by
  induction log with
  | nil => rfl
  | cons event later ih =>
    have later := ih fun event member => other event (List.mem_cons_of_mem _ member)
    have here := other event List.mem_cons_self
    cases event with
    | lock lock => rw [holds, if_neg (show lock ≠ own from here), later]
    | unlock lock => rw [holds, if_neg (show lock ≠ own from here), later]

/-! ### Programs -/

variable (events) in
/-- The program adds a balanced log, from this state. -/
def KeepsAt (own : Lock) (program : StateM State α) (st : State) : Prop :=
  ∃ added, events (program.run st).2 = events st ++ added ∧ Balanced own added

/-- Before a program that keeps the lock balanced. -/
theorem KeepsAt.after {program : StateM State α} {next : α → StateM State β} {st : State}
    (first : Avoids events own program)
    (second : KeepsAt events own (next (program.run st).1) (program.run st).2) :
    KeepsAt events own (program >>= next) st := by
  obtain ⟨added, after, other⟩ := first st
  obtain ⟨added', after', balanced⟩ := second
  refine ⟨added ++ added', ?_, balanced_iff.mpr ?_⟩
  · rw [← List.append_assoc, ← after]
    exact after'
  · rw [holds_append, holds_other _ other]
    exact balanced_iff.mp balanced

/-- After one. -/
theorem KeepsAt.before {program : StateM State α} {next : α → StateM State β} {st : State}
    (first : KeepsAt events own program st) (second : ∀ value, Avoids events own (next value)) :
    KeepsAt events own (program >>= next) st := by
  obtain ⟨added, after, balanced⟩ := first
  obtain ⟨added', after', other⟩ := second (program.run st).1 (program.run st).2
  refine ⟨added ++ added', ?_, balanced_iff.mpr ?_⟩
  · rw [← List.append_assoc, ← after]
    exact after'
  · rw [holds_append, balanced_iff.mp balanced]
    exact holds_other _ other

/-- **A critical section.** -/
theorem KeepsAt.section {take give : StateM State Unit} {body : StateM State α}
    (takes : ∀ st, events (take.run st).2 = events st ++ [.lock own])
    (gives : ∀ st, events (give.run st).2 = events st ++ [.unlock own]) (inside : Avoids events own body)
    (st : State) : KeepsAt events own (do take; let value ← body; give; return value) st := by
  obtain ⟨added, after, other⟩ := inside (take.run st).2
  refine ⟨.lock own :: (added ++ [.unlock own]), ?_, balanced_iff.mpr ?_⟩
  · have last := gives (body.run (take.run st).2).2
    rw [after, takes] at last
    rw [List.append_assoc, List.append_assoc] at last
    exact last
  · rw [holds, if_pos rfl, if_neg Bool.false_ne_true, holds_append, holds_other _ other]
    show holds own true [.unlock own] = some false
    rw [holds, if_pos rfl, if_pos rfl, holds]

/-- **A release without its lock.** -/
theorem not_keepsAt_unlock (give : StateM State Unit)
    (gives : ∀ st, events (give.run st).2 = events st ++ [.unlock own]) {program : StateM State α}
    {next : α → StateM State β} {st : State} (first : Avoids events own program)
    (rest : ∃ value, next (program.run st).1 = (do give; return value)) :
    ¬ KeepsAt events own (program >>= next) st := by
  rintro ⟨log, after, balanced⟩
  obtain ⟨added, before, other⟩ := first st
  obtain ⟨value, rest⟩ := rest
  have ends : events ((program >>= next).run st).2 = events st ++ (added ++ [.unlock own]) := by
    show events ((next (program.run st).1).run (program.run st).2).2 = _
    rw [rest, ← List.append_assoc, ← before]
    exact gives _
  obtain rfl := List.append_cancel_left (after.symm.trans ends)
  have walked := balanced_iff.mp balanced
  rw [holds_append, holds_other _ other] at walked
  have walked : holds own false [.unlock own] = some false := walked
  rw [holds, if_pos rfl, if_neg Bool.false_ne_true] at walked
  cases walked

end IntelWifi.Locks
