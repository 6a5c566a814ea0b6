/-
**A local shadow of a remote table.**

The remote table is written one entry at a time, and entries are dropped from it by what they hold. The
shadow claims some of the entries. It is sound as long as every claim is in the table.

* `Sound.put`: an entry is written, and whoever claims it claims what is written.
* `sound_drop_iff`: entries are dropped, and the claims that are left decide.
-/

import Mathlib.Logic.Function.Basic

namespace IntelWifi.Shadow

variable {K V : Type} [DecidableEq K]

/-- Every claim is in the table. -/
def Sound (claims remote : K → Option V) : Prop := ∀ key value, claims key = some value → remote key = some value

/-- The entries that are given up. -/
def drop (remote : K → Option V) (gone : V → Bool) : K → Option V :=
  fun key => (remote key).filter fun value => !gone value

variable {claims claims' remote : K → Option V} {key : K} {value : V} {gone : V → Bool}

omit [DecidableEq K] in
/-- Claims may be withdrawn. -/
theorem Sound.fewer (sound : Sound claims remote)
    (fewer : ∀ key value, claims' key = some value → claims key = some value) : Sound claims' remote :=
  fun key value claimed => sound key value (fewer key value claimed)

/-- **An entry is written.** The other claims are old ones. -/
theorem Sound.put (sound : Sound claims remote)
    (here : ∀ value', claims' key = some value' → value' = value)
    (others : ∀ other, other ≠ key → claims' other = claims other) :
    Sound claims' (Function.update remote key (some value)) := by
  intro other value' claimed
  by_cases same : other = key
  · subst same
    rw [Function.update_self, here value' claimed]
  · rw [Function.update_of_ne same]
    exact sound other value' (others other same ▸ claimed)

omit [DecidableEq K] in
/-- What is dropped is not there any more. -/
theorem drop_gone (held : remote key = some value) (lost : gone value = true) : drop remote gone key = none := by
  unfold drop
  rw [held, Option.filter_some, lost]
  rfl

omit [DecidableEq K] in
theorem drop_kept (held : remote key = some value) (stays : gone value = false) :
    drop remote gone key = some value := by
  unfold drop
  rw [held, Option.filter_some, stays]
  rfl

omit [DecidableEq K] in
theorem drop_drop : drop (drop remote gone) gone = drop remote gone := by
  funext key
  unfold drop
  rw [Option.filter_filter, funext fun _ => Bool.and_self _]

omit [DecidableEq K] in
/-- **Entries are dropped**: claims that were sound stay so just when nothing they claim is dropped. -/
theorem sound_drop_iff (sound : Sound claims remote) :
    Sound claims (drop remote gone) ↔ ∀ key value, claims key = some value → gone value = false := by
  constructor
  · intro after key value claimed
    cases lost : gone value with
    | false => rfl
    | true =>
      have none := drop_gone (sound key value claimed) lost
      rw [after key value claimed] at none
      cases none
  · intro stays key value claimed
    exact drop_kept (sound key value claimed) (stays key value claimed)

end IntelWifi.Shadow
