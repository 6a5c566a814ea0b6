/-
**State machines and their runs.**

A machine is a partial step function: an action is disabled where it gives `none`. A run is a list of
actions, each enabled where it happens.

* `run_invariant`: what every step keeps holds after every run.
* `run_invariant_of_forall`: what some actions keep holds after every run of them.
* `run_invariant_of_allowed`: what a step keeps under a condition holds after the runs all of whose
  steps meet the condition.
* `always_iff_allowed`: when the other steps lose it, it holds all along just these runs;
  `always_iff_allowed_of_enabled`: also where steps may be disabled; `always_total_iff`: where none is.
* `throughout_iff_allowed`: the same for a relation between the two ends of each step.
-/

import Mathlib.Tactic.Common

namespace IntelWifi.Machine

variable {State Act : Type} (step : State → Act → Option State)

/-- The state after a sequence of actions, if each is enabled. -/
def run : State → List Act → Option State
  | state, [] => some state
  | state, act :: later => (step state act).bind fun next => run next later

/-- Every step of the run meets a condition on the state before it and the action. -/
def allowed (ok : State → Act → Bool) : State → List Act → Bool
  | _, [] => true
  | state, act :: later => ok state act && (step state act).all fun next => allowed ok next later

variable {step}

/-- **The invariant rule with a condition on steps.** -/
theorem run_invariant_of_allowed {ok : State → Act → Bool} (Inv : State → Prop)
    (kept : ∀ state act next, Inv state → ok state act = true → step state act = some next → Inv next)
    {start last : State} {acts : List Act} (begins : Inv start)
    (allow : allowed step ok start acts = true) (ran : run step start acts = some last) :
    Inv last := by
  induction acts generalizing start with
  | nil => exact Option.some.inj ran ▸ begins
  | cons act later ih =>
    rw [allowed, Bool.and_eq_true] at allow
    obtain ⟨next, stepped, rest⟩ := Option.bind_eq_some_iff.mp ran
    rw [stepped, Option.all_some] at allow
    exact ih (kept start act next begins allow.1 stepped) allow.2 rest

/-- A condition on steps, and one on actions that all of them meet. -/
theorem allowed_and {ok : State → Act → Bool} {also : Act → Bool} {start : State} {acts : List Act}
    (allow : allowed step ok start acts = true) (all : ∀ act ∈ acts, also act = true) :
    allowed step (fun state act => ok state act && also act) start acts = true := by
  induction acts generalizing start with
  | nil => rfl
  | cons act later ih =>
    rw [allowed, Bool.and_eq_true] at allow ⊢
    refine ⟨Bool.and_eq_true_iff.mpr ⟨allow.1, all act List.mem_cons_self⟩, ?_⟩
    cases stepped : step start act with
    | none => rfl
    | some next =>
      rw [stepped] at allow
      exact ih allow.2 fun other member => all other (List.mem_cons_of_mem _ member)

/-- **The invariant rule.** -/
theorem run_invariant (Inv : State → Prop)
    (kept : ∀ state act next, Inv state → step state act = some next → Inv next) {start last : State}
    {acts : List Act} (begins : Inv start) (ran : run step start acts = some last) : Inv last := by
  induction acts generalizing start with
  | nil => exact Option.some.inj ran ▸ begins
  | cons act later ih =>
    obtain ⟨next, stepped, rest⟩ := Option.bind_eq_some_iff.mp ran
    exact ih (kept start act next begins stepped) rest

/-- **The invariant rule for runs of some actions only.** -/
theorem run_invariant_of_forall {ok : Act → Prop} (Inv : State → Prop)
    (kept : ∀ state act next, Inv state → ok act → step state act = some next → Inv next)
    {start last : State} {acts : List Act} (begins : Inv start) (all : ∀ act ∈ acts, ok act)
    (ran : run step start acts = some last) : Inv last := by
  induction acts generalizing start with
  | nil => exact Option.some.inj ran ▸ begins
  | cons act later ih =>
    obtain ⟨next, stepped, rest⟩ := Option.bind_eq_some_iff.mp ran
    exact ih (kept start act next begins (all act List.mem_cons_self) stepped)
      (fun other member => all other (List.mem_cons_of_mem _ member)) rest

/-- A property of every state of a run, the first and the last included. -/
def Always (step : State → Act → Option State) (P : State → Prop) : State → List Act → Prop
  | state, [] => P state
  | state, act :: later => P state ∧ ∀ next, step state act = some next → Always step P next later

/-- The last state of a run has what all of its states have. -/
theorem always_last {P : State → Prop} {start last : State} {acts : List Act}
    (always : Always step P start acts) (ran : run step start acts = some last) : P last := by
  induction acts generalizing start with
  | nil => exact Option.some.inj ran ▸ always
  | cons act later ih =>
    obtain ⟨next, stepped, rest⟩ := Option.bind_eq_some_iff.mp ran
    exact ih (always.2 next stepped) rest

/-- Of a machine that never stops: what holds all along is what holds after each part of the run. -/
theorem always_total_iff {next : State → Act → State} {P : State → Prop} {start : State} {acts : List Act} :
    Always (fun state act => some (next state act)) P start acts ↔
      ∀ done, done <+: acts → P (done.foldl next start) := by
  induction acts generalizing start with
  | nil =>
    refine ⟨fun here done part => ?_, fun all => all [] (List.prefix_refl _)⟩
    rw [List.prefix_nil.mp part]
    exact here
  | cons act later ih =>
    constructor
    · rintro ⟨here, rest⟩ done part
      cases done with
      | nil => exact here
      | cons first others =>
        obtain ⟨rfl, inLater⟩ := List.cons_prefix_cons.mp part
        exact ih.mp (rest _ rfl) others inLater
    · intro all
      refine ⟨all [] List.nil_prefix, fun state same => ?_⟩
      obtain rfl := Option.some.inj same
      exact ih.mpr fun done part => all (act :: done) (List.cons_prefix_cons.mpr ⟨rfl, part⟩)

/-- **The exact condition on steps**: if a step that meets the condition keeps an invariant, under which
a property holds, and a step that does not meet it ends in a state without the property, then the runs
that have the property all along are those all of whose steps meet the condition. -/
theorem always_iff_allowed {ok : State → Act → Bool} {P : State → Prop} (Inv : State → Prop)
    (kept : ∀ state act next, Inv state → ok state act = true → step state act = some next → Inv next)
    (good : ∀ state, Inv state → P state)
    (bad : ∀ state act next, Inv state → ok state act = false → step state act = some next → ¬ P next)
    (total : ∀ state act, ∃ next, step state act = some next) {start : State} {acts : List Act}
    (begins : Inv start) : Always step P start acts ↔ allowed step ok start acts = true := by
  induction acts generalizing start with
  | nil => exact ⟨fun _ => rfl, fun _ => good start begins⟩
  | cons act later ih =>
    obtain ⟨next, stepped⟩ := total start act
    rw [allowed, Bool.and_eq_true, stepped, Option.all_some]
    constructor
    · rintro ⟨_, rest⟩
      have after := rest next stepped
      have holds : P next := by
        cases later with
        | nil => exact after
        | cons _ _ => exact after.1
      cases met : ok start act with
      | false => exact absurd holds (bad start act next begins met stepped)
      | true => exact ⟨rfl, (ih (kept start act next begins met stepped)).mp after⟩
    · rintro ⟨met, rest⟩
      refine ⟨good start begins, fun other same => ?_⟩
      rw [stepped] at same
      obtain rfl := Option.some.inj same
      exact (ih (kept start act next begins met stepped)).mpr rest

/-- The same where a step may be disabled: only one that does not meet the condition has to happen. -/
theorem always_iff_allowed_of_enabled {ok : State → Act → Bool} {P : State → Prop} (Inv : State → Prop)
    (kept : ∀ state act next, Inv state → ok state act = true → step state act = some next → Inv next)
    (good : ∀ state, Inv state → P state)
    (bad : ∀ state act, Inv state → ok state act = false → ∃ next, step state act = some next ∧ ¬ P next)
    {start : State} {acts : List Act} (begins : Inv start) :
    Always step P start acts ↔ allowed step ok start acts = true := by
  induction acts generalizing start with
  | nil => exact ⟨fun _ => rfl, fun _ => good start begins⟩
  | cons act later ih =>
    rw [allowed, Bool.and_eq_true]
    cases met : ok start act with
    | false =>
      obtain ⟨next, stepped, lost⟩ := bad start act begins met
      refine ⟨fun always => absurd ?_ lost, fun both => absurd both.1 Bool.false_ne_true⟩
      have after := always.2 next stepped
      cases later with
      | nil => exact after
      | cons _ _ => exact after.1
    | true =>
      cases stepped : step start act with
      | none =>
        refine ⟨fun _ => ⟨rfl, rfl⟩, fun _ => ⟨good start begins, fun next same => ?_⟩⟩
        rw [stepped] at same
        cases same
      | some next =>
        have rest := ih (kept start act next begins met stepped)
        refine ⟨fun always => ⟨rfl, rest.mp (always.2 next stepped)⟩, fun both => ⟨good start begins, ?_⟩⟩
        intro other same
        rw [stepped] at same
        obtain rfl := Option.some.inj same
        exact rest.mpr both.2

/-- A relation between the state before each step of a run, its action, and the state after it. -/
def Throughout (step : State → Act → Option State) (R : State → Act → State → Prop) : State → List Act → Prop
  | _, [] => True
  | state, act :: later => ∀ next, step state act = some next → R state act next ∧ Throughout step R next later

/-- **The exact condition on steps, for a relation**: under an invariant, a step that meets the condition keeps
the invariant and is in the relation, and a step that does not meet it is not. -/
theorem throughout_iff_allowed {ok : State → Act → Bool} {R : State → Act → State → Prop} (Inv : State → Prop)
    (kept : ∀ state act next, Inv state → ok state act = true → step state act = some next →
      Inv next ∧ R state act next)
    (bad : ∀ state act next, Inv state → ok state act = false → step state act = some next → ¬ R state act next)
    (total : ∀ state act, ∃ next, step state act = some next) {start : State} {acts : List Act}
    (begins : Inv start) : Throughout step R start acts ↔ allowed step ok start acts = true := by
  induction acts generalizing start with
  | nil => exact ⟨fun _ => rfl, fun _ => trivial⟩
  | cons act later ih =>
    obtain ⟨next, stepped⟩ := total start act
    rw [allowed, Bool.and_eq_true, stepped, Option.all_some]
    constructor
    · intro all
      obtain ⟨here, rest⟩ := all next stepped
      cases met : ok start act with
      | false => exact absurd here (bad start act next begins met stepped)
      | true => exact ⟨rfl, (ih (kept start act next begins met stepped).1).mp rest⟩
    · rintro ⟨met, rest⟩ other same
      rw [stepped] at same
      obtain rfl := Option.some.inj same
      obtain ⟨inv, here⟩ := kept start act next begins met stepped
      exact ⟨here, (ih inv).mpr rest⟩

end IntelWifi.Machine
