/-
**Machines of components that do not meet.**

The state of a machine is seen as a table of components, and an action is for some of them. When a step does to each
component what the action does to it alone, and leaves the components alone that it is not for, then a run does to each
what the actions for it do in their order. A step that is disabled is disabled for one of the components.

* `together_run`: the run of the whole is the runs of the components.
-/

import IntelWifi.Lib.Machine
import Mathlib.Logic.Function.Basic

namespace IntelWifi.Components

variable {Component Value State Act : Type}

/-- **What the components give, together**: all of them a value, or one of them none. -/
def Together (values : Component → Option Value) : Option (Component → Value) → Prop
  | some table => ∀ component, values component = some (table component)
  | none => ∃ component, values component = none

/-- What an action does to a component that it is for, or not. -/
def ownStep (isFor : Act → Bool) (own : Value → Act → Option Value) (value : Value) (act : Act) : Option Value :=
  if isFor act then own value act else some value

/-- A table of which one component is changed, or cannot be. -/
theorem together_update [DecidableEq Component] {table : Component → Value} {component : Component}
    {new : Option Value} {values : Component → Option Value} (here : values component = new)
    (elsewhere : ∀ other, other ≠ component → values other = some (table other)) :
    Together values (new.map (Function.update table component)) := by
  cases new with
  | none => exact ⟨component, here⟩
  | some value =>
    intro other
    by_cases same : other = component
    · subst same
      rw [here, Function.update_self]
    · rw [elsewhere other same, Function.update_of_ne same]

/-- Actions that are not for a component are none of its run. -/
theorem run_ownStep (isFor : Act → Bool) (own : Value → Act → Option Value) (value : Value) (acts : List Act) :
    Machine.run (ownStep isFor own) value acts = Machine.run own value (acts.filter isFor) := by
  induction acts generalizing value with
  | nil => rfl
  | cons act later ih =>
    have first : Machine.run (ownStep isFor own) value (act :: later) =
        (if isFor act then own value act else some value).bind fun next =>
          Machine.run (ownStep isFor own) next later := rfl
    rw [first]
    cases mine : isFor act with
    | false =>
      rw [List.filter_cons_of_neg (ne_true_of_eq_false mine), if_neg Bool.false_ne_true, Option.bind_some]
      exact ih value
    | true =>
      rw [List.filter_cons_of_pos mine, if_pos rfl]
      exact congrArg _ (funext ih)

variable {step : State → Act → Option State} {view : State → Component → Value} {isFor : Component → Act → Bool}
  {own : Component → Value → Act → Option Value}

/-- **The run of the whole is the runs of the components**, each with the actions that are for it. -/
theorem together_run (splits : ∀ state act,
      Together (fun component => ownStep (isFor component) (own component) (view state component) act)
        ((step state act).map view)) (state : State) (acts : List Act) :
    Together (fun component => Machine.run (own component) (view state component) (acts.filter (isFor component)))
      ((Machine.run step state acts).map view) := by
  simp only [← run_ownStep]
  induction acts generalizing state with
  | nil => exact fun _ => rfl
  | cons act later ih =>
    have first := splits state act
    unfold Machine.run
    cases stepped : step state act with
    | none =>
      rw [stepped] at first
      obtain ⟨component, stuck⟩ := first
      exact ⟨component, congrArg (Option.bind · _) stuck⟩
    | some next =>
      rw [stepped] at first
      have follow (component : Component) :
          ((ownStep (isFor component) (own component) (view state component) act).bind fun value =>
            Machine.run (ownStep (isFor component) (own component)) value later) =
            Machine.run (ownStep (isFor component) (own component)) (view next component) later :=
        congrArg (Option.bind · _) (first component)
      have rest := ih next
      rw [Option.bind_some]
      cases ran : Machine.run step next later with
      | none =>
        rw [ran] at rest
        exact rest.imp fun component stuck => (follow component).trans stuck
      | some last =>
        rw [ran] at rest
        exact fun component => (follow component).trans (rest component)

end IntelWifi.Components
