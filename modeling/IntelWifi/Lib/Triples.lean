/-
**Programs with a state that may stop.**

A program gives a value and a state, or stops. A triple says what holds of the two, when the program starts in
a state of its precondition, and which stops there are.

* `Triple.bind`, `Triple.ite`: the rules for a sequence and for a test.
* `Triple.strengthen`: the rule of consequence for a precondition.
* `run_bind_ok`, `run_bind_error`: a run of a sequence, when that of its first part is known.
-/

import Mathlib.Tactic.Common

namespace IntelWifi.Triples

variable {σ ε α β : Type}

/-- How a program ends. -/
def Ends (post : α → σ → Prop) (stops : ε → Prop) : Except ε (α × σ) → Prop
  | .ok (value, after) => post value after
  | .error stop => stops stop

/-- **A triple.** -/
def Triple (pre : σ → Prop) (program : StateT σ (Except ε) α) (post : α → σ → Prop) (stops : ε → Prop) : Prop :=
  ∀ before, pre before → Ends post stops (program.run before)

variable {pre pre' : σ → Prop} {post : α → σ → Prop} {stops : ε → Prop} {program : StateT σ (Except ε) α}

/-- A fact that the precondition gives. -/
theorem Triple.given {fact : Prop} (known : ∀ st, pre st → fact) (triple : fact → Triple pre program post stops) :
    Triple pre program post stops :=
  fun st holds => triple (known st holds) st holds

/-- A precondition that gives less. -/
theorem Triple.strengthen (triple : Triple pre program post stops) (before : ∀ st, pre' st → pre st) :
    Triple pre' program post stops :=
  fun st holds => triple st (before st holds)

/-- A program that is not reached. -/
theorem Triple.unreached : Triple (fun _ => False) program post stops := fun _ reached => reached.elim

theorem Triple.pure (value : α) (holds : ∀ st, pre st → post value st) :
    Triple pre (pure value) post stops := holds

theorem Triple.bind (middle : β → σ → Prop) {first : StateT σ (Except ε) β} {next : β → StateT σ (Except ε) α}
    (here : Triple pre first middle stops) (later : ∀ value, Triple (middle value) (next value) post stops) :
    Triple pre (first >>= next) post stops := by
  intro st holds
  have ends := here st holds
  rw [StateT.run_bind]
  cases ran : first.run st with
  | ok result =>
    rw [ran] at ends
    exact later _ _ ends
  | error stopped =>
    rw [ran] at ends
    exact ends

theorem Triple.ite {condition : Prop} [Decidable condition] {other : StateT σ (Except ε) α}
    (yes : condition → Triple pre program post stops) (no : ¬ condition → Triple pre other post stops) :
    Triple pre (if condition then program else other) post stops := by
  split
  case isTrue met => exact yes met
  case isFalse unmet => exact no unmet

theorem Triple.modify {change : σ → σ} {post : PUnit → σ → Prop} (holds : ∀ st, pre st → post ⟨⟩ (change st)) :
    Triple pre (modify change : StateT σ (Except ε) PUnit) post stops := holds

theorem Triple.get {post : σ → σ → Prop} (holds : ∀ st, pre st → post st st) :
    Triple pre (get : StateT σ (Except ε) σ) post stops := holds

/-! ### Runs of a sequence -/

variable {first : StateT σ (Except ε) β} {next : β → StateT σ (Except ε) α} {st after : σ}

theorem run_bind_ok {value : β} (ran : first.run st = .ok (value, after)) :
    (first >>= next).run st = (next value).run after := by
  rw [StateT.run_bind, ran]
  rfl

theorem run_bind_error {stop : ε} (stopped : first.run st = .error stop) :
    (first >>= next).run st = .error stop := by
  rw [StateT.run_bind, stopped]
  rfl

end IntelWifi.Triples
