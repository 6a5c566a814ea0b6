/-
**Computations that may fault.**

A computation gives a value, stops with an error of its own, or faults: it touches what is not there.
`Safe x` says that it does not fault. Each rule reads `Safe` of a program off its parts, in both
directions, so that the exact condition for a program not to fault is computed along its text.

* `safe_bind`: a sequence is safe when its first part is and the rest is after its value.
* `Yields.bind`: the exact condition under which a sequence gives a value is that of its parts.
* `gives_bind`: what is known of a value that a sequence gives, if it gives one.
* `Decides.value_iff`: a computation that does not fault gives a value exactly under the condition its
  checks decide.
-/

import Mathlib.Tactic.Common

namespace IntelWifi.Checked

/-- Why a computation ends before its end. -/
inductive Stop (ε : Type) where
  | fault
  | error (e : ε)
  deriving DecidableEq, Repr

abbrev Outcome (ε α : Type) := Except (Stop ε) α

variable {ε α β : Type}

/-- A sequence gives a value when its parts do. -/
theorem bind_eq_ok {x : Except ε α} {f : α → Except ε β} {b : β} (done : x >>= f = .ok b) :
    ∃ a, x = .ok a ∧ f a = .ok b := by
  cases x with
  | error _ => cases done
  | ok a => exact ⟨a, rfl, done⟩

/-- What every turn of a loop does, the loop does. -/
theorem foldlM_does {σ ι : Type} {R : σ → σ → Prop} {turn : σ → ι → Except ε σ} (refl : ∀ s, R s s)
    (trans : ∀ {s s' s''}, R s s' → R s' s'' → R s s'') (does : ∀ {s s' i}, turn s i = .ok s' → R s s')
    {s s' : σ} (indices : List ι) (ran : indices.foldlM turn s = .ok s') : R s s' := by
  induction indices generalizing s with
  | nil =>
    obtain rfl := Except.ok.inj ran
    exact refl _
  | cons i later ih =>
    rw [List.foldlM_cons] at ran
    obtain ⟨_, first, rest⟩ := bind_eq_ok ran
    exact trans (does first) (ih rest)

/-- It does not fault. -/
def Safe (x : Outcome ε α) : Prop := x ≠ .error .fault

@[simp] theorem safe_ok (a : α) : Safe (.ok a : Outcome ε α) := by
  intro fault
  cases fault

@[simp] theorem safe_error (e : ε) : Safe (.error (.error e) : Outcome ε α) := by
  intro fault
  cases fault

@[simp] theorem not_safe_fault : ¬ Safe (.error .fault : Outcome ε α) := fun safe => safe rfl

/-- **A sequence.** -/
theorem safe_bind {x : Outcome ε α} {rest : α → Outcome ε β} :
    Safe (x >>= rest) ↔ Safe x ∧ ∀ a, x = .ok a → Safe (rest a) := by
  cases x with
  | ok a => exact ⟨fun safe => ⟨safe_ok a, fun b same => Except.ok.inj same ▸ safe⟩,
      fun both => both.2 a rfl⟩
  | error stop =>
    cases stop with
    | fault => exact ⟨fun safe => absurd rfl safe, fun both => absurd rfl both.1⟩
    | error e => exact ⟨fun _ => ⟨safe_error e, fun _ same => (nomatch same)⟩, fun _ => safe_error e⟩

/-- What is made of a value at the end does not matter. -/
theorem safe_map {x : Outcome ε α} {f : α → β} : Safe (x >>= fun a => .ok (f a)) ↔ Safe x :=
  safe_bind.trans (and_iff_left fun a _ => safe_ok (f a))

/-- A sequence whose first part gives a value. -/
@[simp] theorem ok_bind (a : α) (rest : α → Outcome ε β) : (.ok a : Outcome ε α) >>= rest = rest a := rfl

theorem safe_ite {p : Prop} [Decidable p] {x y : Outcome ε α} :
    Safe (if p then x else y) ↔ (p → Safe x) ∧ (¬ p → Safe y) := by
  by_cases holds : p
  · rw [if_pos holds]
    exact ⟨fun safe => ⟨fun _ => safe, fun not => absurd holds not⟩, fun both => both.1 holds⟩
  · rw [if_neg holds]
    exact ⟨fun safe => ⟨fun is => absurd is holds, fun _ => safe⟩, fun both => both.2 holds⟩

/-! ### Exact conditions -/

/-- **The exact condition of a computation without errors of its own**: under it there is a value, with
this property; else it faults. -/
structure Yields (x : Outcome ε α) (fits : Prop) (result : α → Prop) : Prop where
  value : fits → ∃ a, x = .ok a ∧ result a
  fault : ¬ fits → x = .error .fault

variable {x : Outcome ε α} {fits fits' : Prop} {result : α → Prop}

theorem Yields.safe_iff (yields : Yields x fits result) : Safe x ↔ fits := by
  constructor
  · intro safe
    by_contra not
    exact safe (yields.fault not)
  · intro holds
    obtain ⟨a, same, _⟩ := yields.value holds
    rw [same]
    exact safe_ok a

theorem Yields.congr (yields : Yields x fits result) (same : fits ↔ fits') : Yields x fits' result :=
  ⟨fun holds => yields.value (same.mpr holds), fun not => yields.fault fun holds => not (same.mp holds)⟩

theorem Yields.mono (yields : Yields x fits result) {weaker : α → Prop}
    (implies : ∀ a, result a → weaker a) : Yields x fits weaker :=
  ⟨fun holds => (yields.value holds).imp fun a both => ⟨both.1, implies a both.2⟩, yields.fault⟩

theorem yields_value {a : α} (is : result a) (holds : fits) :
    Yields (.ok a : Outcome ε α) fits result :=
  ⟨fun _ => ⟨a, rfl, is⟩, fun not => absurd holds not⟩

theorem yields_ok {a : α} (is : result a) : Yields (.ok a : Outcome ε α) True result :=
  yields_value is trivial

/-- **A sequence** needs what its parts need. -/
theorem Yields.bind (yields : Yields x fits result) {rest : α → Outcome ε β} {final : β → Prop}
    (next : ∀ a, result a → Yields (rest a) fits' final) : Yields (x >>= rest) (fits ∧ fits') final := by
  constructor
  · rintro ⟨holds, after⟩
    obtain ⟨a, rfl, is⟩ := yields.value holds
    exact (next a is).value after
  · intro not
    by_cases holds : fits
    · obtain ⟨a, rfl, is⟩ := yields.value holds
      exact (next a is).fault fun after => not ⟨holds, after⟩
    · rw [yields.fault holds]
      rfl

/-- A sequence is safe when its first part gives a value and the rest is safe after it. -/
theorem Yields.safe_bind (yields : Yields x fits result) {rest : α → Outcome ε β} {safe : Prop}
    (next : ∀ a, result a → (Safe (rest a) ↔ safe)) : Safe (x >>= rest) ↔ fits ∧ safe := by
  by_cases holds : fits
  · obtain ⟨a, rfl, is⟩ := yields.value holds
    rw [and_iff_right holds]
    exact next a is
  · rw [yields.fault holds]
    exact iff_of_false (fun safe => safe rfl) fun both => holds both.1

/-- A sequence whose first part has what it needs is safe when the rest is. -/
theorem Yields.safe_then (yields : Yields x fits result) {rest : α → Outcome ε β} (holds : fits)
    (next : ∀ a, result a → Safe (rest a)) : Safe (x >>= rest) := by
  obtain ⟨a, rfl, is⟩ := yields.value holds
  exact next a is

/-- A sequence whose first part needs all that the rest needs. -/
theorem Yields.safe_bind_iff (yields : Yields x fits result) {rest : α → Outcome ε β}
    (next : fits → ∀ a, result a → Safe (rest a)) : Safe (x >>= rest) ↔ fits := by
  constructor
  · intro safe
    by_contra not
    rw [yields.fault not] at safe
    exact safe rfl
  · intro holds
    exact yields.safe_then holds (next holds)

/-- **A branch** needs what the branch that is taken needs. -/
theorem yields_ite {p : Prop} [Decidable p] {y : Outcome ε α} (pos : p → Yields x fits result)
    (neg : ¬ p → Yields y fits' result) :
    Yields (if p then x else y) ((p → fits) ∧ (¬ p → fits')) result := by
  by_cases holds : p
  · rw [if_pos holds]
    exact (pos holds).congr ⟨fun is => ⟨fun _ => is, fun not => absurd holds not⟩, fun both => both.1 holds⟩
  · rw [if_neg holds]
    exact (neg holds).congr ⟨fun is => ⟨fun yes => absurd yes holds, fun _ => is⟩,
      fun both => both.2 holds⟩

/-- **A part that is skipped** unless a test holds. -/
theorem yields_unless {test : Bool} {a : α} (is : test = false → result a)
    (body : test = true → Yields x fits result) :
    Yields (if !test then .ok a else x) (test = true → fits) result := by
  cases test with
  | false => exact yields_value (is rfl) fun holds => (nomatch holds)
  | true => exact (body rfl).congr ⟨fun holds _ => holds, fun holds => holds rfl⟩

/-! ### Conditions that checks decide -/

/-- **The condition the checks of a computation decide**: there is a value only under it, and an error
only outside it. A fault decides nothing. -/
structure Decides (x : Outcome ε α) (p : Prop) : Prop where
  given : ∀ a, x = .ok a → p
  refused : ∀ e, x = .error (.error e) → ¬ p

variable {p q : Prop}

theorem decides_ok (a : α) (holds : p) : Decides (.ok a : Outcome ε α) p :=
  ⟨fun _ _ => holds, fun _ same => (nomatch same)⟩

theorem decides_error (e : ε) (not : ¬ p) : Decides (.error (.error e) : Outcome ε α) p :=
  ⟨fun _ same => (nomatch same), fun _ _ => not⟩

theorem decides_fault : Decides (.error .fault : Outcome ε α) p :=
  ⟨fun _ same => (nomatch same), fun _ same => (nomatch same)⟩

theorem Decides.value_iff (decides : Decides x p) (safe : Safe x) : (∃ a, x = .ok a) ↔ p := by
  constructor
  · rintro ⟨a, same⟩
    exact decides.given a same
  · intro holds
    rcases x with stop | a
    · cases stop with
      | fault => exact absurd rfl safe
      | error e => exact absurd holds (decides.refused e rfl)
    · exact ⟨a, rfl⟩

theorem Decides.congr (decides : Decides x p) (same : p ↔ q) : Decides x q :=
  ⟨fun a value => same.mp (decides.given a value),
    fun e stopped holds => decides.refused e stopped (same.mpr holds)⟩

/-- **A sequence** decides the condition of its first part, and that of the rest after it. -/
theorem Decides.bind (decides : Decides x p) {rest : α → Outcome ε β}
    (next : ∀ a, Decides (rest a) q) : Decides (x >>= rest) (p ∧ q) := by
  rcases x with stop | a
  · cases stop with
    | fault => exact decides_fault
    | error e => exact decides_error e fun both => decides.refused e rfl both.1
  · exact ⟨fun b same => ⟨decides.given a rfl, (next a).given b same⟩,
      fun e same both => (next a).refused e same both.2⟩

/-- A sequence whose later condition is about the value of its first part. -/
theorem decides_bind {rest : α → Outcome ε β} {q : α → Prop} (next : ∀ a, Decides (rest a) (q a)) :
    Decides (x >>= rest) (∃ a, x = .ok a ∧ q a) := by
  rcases x with stop | a
  · cases stop with
    | fault => exact decides_fault
    | error e => exact decides_error e fun ⟨_, same, _⟩ => (nomatch same)
  · refine ⟨fun b same => ⟨a, rfl, (next a).given b same⟩, fun e same => ?_⟩
    rintro ⟨_, value, holds⟩
    obtain rfl := Except.ok.inj value
    exact (next a).refused e same holds

/-- **A check** before the rest: `bad` is an error. -/
theorem decides_check {bad : Prop} [Decidable bad] {e : ε} (rest : ¬ bad → Decides x q) :
    Decides (if bad then .error (.error e) else x) (¬ bad ∧ q) := by
  by_cases fails : bad
  · rw [if_pos fails]
    exact decides_error e fun both => both.1 fails
  · rw [if_neg fails]
    exact ⟨fun a same => ⟨fails, (rest fails).given a same⟩,
      fun e same both => (rest fails).refused e same both.2⟩

/-- One computation for each element of a list, in order. -/
def each (f : α → Outcome ε Unit) : List α → Outcome ε Unit
  | [] => .ok ()
  | a :: rest => do
    f a
    each f rest

theorem yields_each {f : α → Outcome ε Unit} {fits : α → Prop} {as : List α}
    (one : ∀ a, Yields (f a) (fits a) fun _ => True) :
    Yields (each f as) (∀ a ∈ as, fits a) fun _ => True := by
  induction as with
  | nil => exact yields_value trivial fun _ member => (nomatch member)
  | cons a rest ih =>
    rw [List.forall_mem_cons]
    exact (one a).bind fun _ _ => ih

theorem decides_each {f : α → Outcome ε Unit} {holds : α → Prop} {as : List α}
    (one : ∀ a, Decides (f a) (holds a)) : Decides (each f as) (∀ a ∈ as, holds a) := by
  induction as with
  | nil => exact decides_ok () fun _ member => (nomatch member)
  | cons a rest ih =>
    rw [List.forall_mem_cons]
    exact (one a).bind fun _ => ih

/-! ### What a value is like -/

/-- A value that it gives has this property. -/
def Gives (x : Outcome ε α) (P : α → Prop) : Prop := ∀ a, x = .ok a → P a

section Gives

variable {y : Outcome ε α} {P : α → Prop} {Q : β → Prop} {rest : α → Outcome ε β}

theorem gives_ok {a : α} (holds : P a) : Gives (.ok a : Outcome ε α) P := by
  rintro _ ⟨⟩
  exact holds

theorem gives_bind (first : Gives x P) (next : ∀ a, P a → Gives (rest a) Q) : Gives (x >>= rest) Q := by
  cases x with
  | ok a => exact next a (first a rfl)
  | error stop => exact fun _ same => nomatch same

/-- Of the first part the value is known. -/
theorem Gives.followed {a : α} (first : Gives x (· = a)) (next : Gives (rest a) Q) : Gives (x >>= rest) Q :=
  gives_bind first fun _ same => same ▸ next

theorem Gives.mono {P' : α → Prop} (gives : Gives x P) (implies : ∀ a, P a → P' a) : Gives x P' :=
  fun a same => implies a (gives a same)

/-- Of the first part nothing need be known. -/
theorem gives_then (next : ∀ a, Gives (rest a) Q) : Gives (x >>= rest) Q :=
  gives_bind (P := fun _ => True) (fun _ _ => trivial) fun a _ => next a

theorem gives_ite {p : Prop} [Decidable p] (pos : p → Gives x P) (neg : ¬ p → Gives y P) :
    Gives (if p then x else y) P := by
  by_cases holds : p
  · rw [if_pos holds]
    exact pos holds
  · rw [if_neg holds]
    exact neg holds

theorem Yields.gives {fits : Prop} (yields : Yields x fits P) : Gives x P := by
  rintro a rfl
  by_cases holds : fits
  · obtain ⟨b, same, is⟩ := yields.value holds
    exact Except.ok.inj same ▸ is
  · exact nomatch yields.fault holds

end Gives

end IntelWifi.Checked
