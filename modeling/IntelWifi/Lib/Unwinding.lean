/-
**Programs that fail and leave a state.**

A program gives a value or fails, and changes the state in both cases, so that what handles the failure starts from
there. A triple says what holds after each.

* `Triple.bind`, `Triple.ite`, `Triple.catching`: the rules for a sequence, for a test and for a handler.
* `Triple.consequence`: the rule of consequence.
-/

import Mathlib.Tactic.Common

namespace IntelWifi.Unwinding

/-- A program. -/
abbrev Fallible (σ ε α : Type) : Type := ExceptT ε (StateM σ) α

variable {σ ε α β : Type}

/-- The result and the state after it. -/
def Fallible.exec (program : Fallible σ ε α) (st : σ) : Except ε α × σ := (program.run : StateM σ (Except ε α)).run st

/-- Both ends of a program. -/
def Ends (post : α → σ → Prop) (fails : ε → σ → Prop) : Except ε α × σ → Prop
  | (.ok value, after) => post value after
  | (.error why, after) => fails why after

/-- **A triple.** -/
def Triple (pre : σ → Prop) (program : Fallible σ ε α) (post : α → σ → Prop) (fails : ε → σ → Prop) : Prop :=
  ∀ before, pre before → Ends post fails (program.exec before)

variable {pre pre' : σ → Prop} {post post' : α → σ → Prop} {fails fails' : ε → σ → Prop} {program : Fallible σ ε α}

theorem Triple.pure (value : α) (holds : ∀ st, pre st → post value st) :
    Triple pre (pure value) post fails := holds

theorem Triple.failure (why : ε) (holds : ∀ st, pre st → fails why st) : Triple pre (throw why) post fails := holds

theorem Triple.changing {change : σ → σ} {post : PUnit → σ → Prop} (holds : ∀ st, pre st → post ⟨⟩ (change st)) :
    Triple pre (modify change : Fallible σ ε PUnit) post fails := holds

theorem Triple.reading {post : σ → σ → Prop} (holds : ∀ st, pre st → post st st) :
    Triple pre (get : Fallible σ ε σ) post fails := holds

theorem Triple.bind (middle : β → σ → Prop) {first : Fallible σ ε β} {next : β → Fallible σ ε α}
    (here : Triple pre first middle fails) (later : ∀ value, Triple (middle value) (next value) post fails) :
    Triple pre (first >>= next) post fails := by
  intro st holds
  have ends := here st holds
  have run : (first >>= next).exec st =
      match first.exec st with
      | (.ok value, after) => (next value).exec after
      | (.error why, after) => (.error why, after) := by
    show (first >>= next).exec st = _
    unfold Fallible.exec
    rw [ExceptT.run_bind]
    show StateT.run (first.run >>= _) st = _
    rw [StateT.run_bind]
    generalize StateT.run first.run st = ran
    obtain ⟨result, after⟩ := ran
    cases result <;> rfl
  rw [run]
  generalize first.exec st = ran at ends
  obtain ⟨result, after⟩ := ran
  cases result with
  | ok value => exact later value after ends
  | error why => exact ends

theorem Triple.ite {condition : Prop} [Decidable condition] {other : Fallible σ ε α}
    (yes : condition → Triple pre program post fails) (no : ¬ condition → Triple pre other post fails) :
    Triple pre (if condition then program else other) post fails := by
  split
  case isTrue met => exact yes met
  case isFalse unmet => exact no unmet

/-- **The handler starts where the program failed.** -/
theorem Triple.catching (middle : ε → σ → Prop) {handler : ε → Fallible σ ε α}
    (here : Triple pre program post middle) (handled : ∀ why, Triple (middle why) (handler why) post fails) :
    Triple pre (tryCatch program handler) post fails := by
  intro st holds
  have ends := here st holds
  have run : (tryCatch program handler).exec st =
      match program.exec st with
      | (.ok value, after) => (.ok value, after)
      | (.error why, after) => (handler why).exec after := by
    have caught : (tryCatch program handler).exec st =
        StateT.run (program.run >>= fun result => match result with
          | .ok value => (Pure.pure (.ok value) : StateM σ (Except ε α))
          | .error why => (handler why).run) st := rfl
    rw [caught, StateT.run_bind]
    unfold Fallible.exec
    generalize StateT.run program.run st = ran
    obtain ⟨result, after⟩ := ran
    cases result <;> rfl
  rw [run]
  generalize program.exec st = ran at ends
  obtain ⟨result, after⟩ := ran
  cases result with
  | ok value => exact ends
  | error why => exact handled why after ends

theorem Triple.consequence (triple : Triple pre program post fails) (before : ∀ st, pre' st → pre st)
    (passes : ∀ value st, post value st → post' value st) (failing : ∀ why st, fails why st → fails' why st) :
    Triple pre' program post' fails' := by
  intro st holds
  have ends := triple st (before st holds)
  generalize program.exec st = ran at ends
  obtain ⟨result, after⟩ := ran
  cases result with
  | ok value => exact passes value after ends
  | error why => exact failing why after ends

end IntelWifi.Unwinding
