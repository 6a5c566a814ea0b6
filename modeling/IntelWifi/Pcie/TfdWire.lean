/-
**What the device reads of a command.**

The first 20 bytes of a command are copied in any case, plain fragments are copied whole, and of the
NOCOPY and DUP fragments the rest is mapped. The planning loop, the copying loop and the mapping
loop follow this independently.

* `plan_spec`: what the planning loop computes, when nothing overflows its `u16`.
* `copy_spec`: the copied bytes and the remainders are header and data, in order.
* `mapParts_shows`: the TBs show the parts they were made for.
* `tfdWire`: the TFD of an accepted command shows header and data.
-/

import IntelWifi.Pcie.Enqueue

namespace IntelWifi.Pcie

open IntelWifi.Memory IntelWifi.Bytes

/-! ### What is copied and what remains -/

/-- How much of a fragment is copied, after `n` bytes. -/
def copiedOf (n : Nat) (frag : IwlFragment) : Nat :=
  if frag.plain then frag.data.length else min (iwlFirstTbSize - n) frag.data.length

/-- The bytes copied in all. -/
def copiedSize : Nat → List IwlFragment → Nat
  | n, [] => n
  | n, frag :: later => copiedSize (n + copiedOf n frag) later

/-- The fragments with what is left of them after the first 20 bytes of the command. -/
def restsFrom : Nat → List IwlFragment → List (IwlFragment × List UInt8)
  | _, [] => []
  | n, frag :: later =>
    (frag, frag.data.drop (min (iwlFirstTbSize - n) frag.data.length)) ::
      restsFrom (n + copiedOf n frag) later

/-- The fragment is mapped, as something is left of it. -/
def isMapped (pair : IwlFragment × List UInt8) : Bool := !pair.1.plain && pair.2.length != 0

/-- The remainders that are mapped. -/
def remainders (n : Nat) (frags : List IwlFragment) : List (List UInt8) :=
  ((restsFrom n frags).filter isMapped).map Prod.snd

/-- The data of the fragments. -/
def payload (frags : List IwlFragment) : List UInt8 := frags.flatMap IwlFragment.data

/-- No plain fragment follows a NOCOPY or DUP one; `had` says whether there was one. -/
def PlainFirst : Bool → List IwlFragment → Prop
  | _, [] => True
  | had, frag :: later =>
    (frag.data.length ≠ 0 → frag.plain = true → had = false) ∧
      PlainFirst (had || frag.data.length != 0 && !frag.plain) later

theorem le_copiedSize (n : Nat) (frags : List IwlFragment) : n ≤ copiedSize n frags := by
  induction frags generalizing n with
  | nil => exact Nat.le_refl n
  | cons frag later ih => exact Nat.le_trans (Nat.le_add_right ..) (ih _)

theorem copiedOf_le (n : Nat) (frag : IwlFragment) : copiedOf n frag ≤ frag.data.length := by
  unfold copiedOf
  split <;> omega

/-- Once 20 bytes are copied and a fragment is mapped, nothing more is copied. -/
theorem copiedSize_done {n : Nat} (enough : iwlFirstTbSize ≤ n) (frags : List IwlFragment)
    (order : PlainFirst true frags) : copiedSize n frags = n := by
  induction frags with
  | nil => rfl
  | cons frag later ih =>
    have none : copiedOf n frag = 0 := by
      unfold copiedOf
      split
      · rename_i plain
        by_contra some
        exact absurd (order.1 some plain) (by decide)
      · omega
    rw [copiedSize, none, Nat.add_zero]
    exact ih order.2

theorem remainders_cons (n : Nat) (frag : IwlFragment) (later : List IwlFragment) :
    (remainders n (frag :: later)).flatten =
      (if frag.plain then [] else frag.data.drop (min (iwlFirstTbSize - n) frag.data.length)) ++
        (remainders (n + copiedOf n frag) later).flatten := by
  unfold remainders
  rw [restsFrom, List.filter_cons]
  by_cases plain : frag.plain
  · rw [if_neg (by simp [isMapped, plain]), if_pos plain, List.nil_append]
  · by_cases some : (frag.data.drop (min (iwlFirstTbSize - n) frag.data.length)).length = 0
    · rw [if_neg (by simpa [isMapped, plain] using some), if_neg plain,
        List.length_eq_zero_iff.mp some, List.nil_append]
    · rw [if_pos (by simpa [isMapped, plain] using some), if_neg plain, List.map_cons,
        List.flatten_cons]

/-! ### Planning -/

/-- What planning a fragment does, when the `u16` do not overflow. -/
structure Planned (plan : HcmdPlan) (frag : IwlFragment) (plan' : HcmdPlan) : Prop where
  copySize : plan'.copySize = plan.copySize + copiedOf plan.copySize frag
  cmdSize : plan'.cmdSize = plan.cmdSize + frag.data.length
  rests : plan'.rests = plan.rests ++
    [(frag, frag.data.drop (min (iwlFirstTbSize - plan.copySize) frag.data.length))]
  order : frag.data.length ≠ 0 → frag.plain = true → plan.hadNocopy = false
  hadNocopy : plan'.hadNocopy = (plan.hadNocopy || frag.data.length != 0 && !frag.plain)
  dup : frag.data.length ≠ 0 → frag.dup = true → plan.dupBuf = none ∧ ∃ buf, plan'.dupBuf =
    some (buf, frag.data.drop (min (iwlFirstTbSize - plan.copySize) frag.data.length))
  noDup : frag.data.length = 0 ∨ frag.dup = false → plan'.dupBuf = plan.dupBuf

/-- The plan with a fragment that has data, before the kinds of fragments are told apart. -/
def pulledPlan (plan : HcmdPlan) (frag : IwlFragment) : HcmdPlan :=
  { plan with
    copySize := plan.copySize + min (iwlFirstTbSize - plan.copySize) frag.data.length
    cmdSize := (plan.cmdSize + frag.data.length) % 2 ^ 16
    rests := plan.rests ++
      [(frag, frag.data.drop (min (iwlFirstTbSize - plan.copySize) frag.data.length))] }

section PlanFragment

variable {env : EnqueueEnv} {plan plan' : HcmdPlan} {frag : IwlFragment}

/-- **What planning a fragment can do**: an empty one is listed, a NOCOPY or DUP one ends the plain ones, and a
plain one is copied whole. -/
theorem planFragment_ok (planned : planFragment env plan frag = .ok plan') :
    (frag.data.length = 0 ∧ plan' = { plan with rests := plan.rests ++ [(frag, frag.data)] }) ∨
      frag.data.length ≠ 0 ∧
        ((frag.nocopy = true ∧ frag.dup = false ∧ plan' = { pulledPlan plan frag with hadNocopy := true }) ∨
          (frag.nocopy = false ∧ frag.dup = true ∧ plan.dupBuf = none ∧ ∃ buf, plan' = { pulledPlan plan frag with
            hadNocopy := true
            dupBuf := some
              (buf, frag.data.drop (min (iwlFirstTbSize - plan.copySize) frag.data.length)) }) ∨
          (frag.nocopy = false ∧ frag.dup = false ∧ plan.hadNocopy = false ∧ plan' = { pulledPlan plan frag with
            copySize := ((pulledPlan plan frag).copySize +
              (frag.data.drop (min (iwlFirstTbSize - plan.copySize) frag.data.length)).length) % 2 ^ 16 })) := by
  have pulled : (if plan.copySize < iwlFirstTbSize then
      min (iwlFirstTbSize - plan.copySize) frag.data.length else 0) =
      min (iwlFirstTbSize - plan.copySize) frag.data.length := by
    split <;> omega
  unfold planFragment at planned
  rw [pulled] at planned
  dsimp only at planned
  by_cases empty : frag.data.length = 0
  · rw [if_pos empty] at planned
    exact .inl ⟨empty, (Except.ok.inj planned).symm⟩
  · rw [if_neg empty] at planned
    refine .inr ⟨empty, ?_⟩
    cases nocopy : frag.nocopy with
    | true =>
      rw [nocopy, if_pos rfl] at planned
      cases dup : frag.dup with
      | true =>
        rw [dup, if_pos rfl] at planned
        cases planned
      | false =>
        rw [dup, if_neg Bool.false_ne_true] at planned
        exact .inl ⟨rfl, rfl, (Except.ok.inj planned).symm⟩
    | false =>
      rw [nocopy, if_neg Bool.false_ne_true] at planned
      cases dup : frag.dup with
      | true =>
        rw [dup, if_pos rfl] at planned
        cases unused : plan.dupBuf with
        | some _ =>
          rw [unused] at planned
          cases planned
        | none =>
          rw [unused] at planned
          cases memory : env.dupBuf with
          | none =>
            rw [memory] at planned
            cases planned
          | some buf =>
            rw [memory] at planned
            exact .inr (.inl ⟨rfl, rfl, rfl, buf, (Except.ok.inj planned).symm⟩)
      | false =>
        rw [dup, if_neg Bool.false_ne_true] at planned
        by_cases before : plan.hadNocopy = true
        · rw [if_pos before] at planned
          cases planned
        · rw [if_neg before] at planned
          exact .inr (.inr ⟨rfl, rfl, Bool.eq_false_iff.mpr before, (Except.ok.inj planned).symm⟩)

/-- A fragment is planned as it should be, while `copy_size` does not overflow. -/
theorem planFragment_sized (small : plan.copySize + copiedOf plan.copySize frag < 2 ^ 16)
    (planned : planFragment env plan frag = .ok plan') :
    Planned { plan with cmdSize := 0 } frag { plan' with cmdSize := frag.data.length } := by
  rcases planFragment_ok planned with ⟨empty, rfl⟩ | ⟨some, ⟨nocopy, notDup, rfl⟩ |
    ⟨nocopy, isDup, unused, buf, rfl⟩ | ⟨nocopy, notDup, before, rfl⟩⟩
  · have none : frag.data = [] := List.length_eq_zero_iff.mp empty
    constructor <;> simp [none, copiedOf]
  · constructor <;> simp [pulledPlan, copiedOf, IwlFragment.plain, nocopy, notDup, some]
  · constructor <;> simp [pulledPlan, copiedOf, IwlFragment.plain, nocopy, isDup, some, unused]
  · have plain : frag.plain = true := by simp [IwlFragment.plain, nocopy, notDup]
    rw [copiedOf, if_pos plain] at small
    have whole : ((pulledPlan plan frag).copySize +
        (frag.data.drop (min (iwlFirstTbSize - plan.copySize) frag.data.length)).length) % 2 ^ 16 =
          plan.copySize + frag.data.length := by
      unfold pulledPlan
      dsimp only
      rw [List.length_drop, Nat.mod_eq_of_lt (by omega)]
      omega
    rw [whole]
    constructor <;> simp [pulledPlan, copiedOf, IwlFragment.plain, nocopy, notDup, some, before]

/-- The size of the command has each fragment, while it does not overflow. -/
theorem planFragment_cmdSize (small : plan.cmdSize + frag.data.length < 2 ^ 16)
    (planned : planFragment env plan frag = .ok plan') : plan'.cmdSize = plan.cmdSize + frag.data.length := by
  have sum : (pulledPlan plan frag).cmdSize = plan.cmdSize + frag.data.length := Nat.mod_eq_of_lt small
  rcases planFragment_ok planned with ⟨empty, rfl⟩ | ⟨_, ⟨_, _, rfl⟩ | ⟨_, _, _, _, rfl⟩ | ⟨_, _, _, rfl⟩⟩
  · rw [empty]
    rfl
  · exact sum
  · exact sum
  · exact sum

theorem planFragment_spec (small : plan.copySize + frag.data.length < 2 ^ 16)
    (small' : plan.cmdSize + frag.data.length < 2 ^ 16) (planned : planFragment env plan frag = .ok plan') :
    Planned plan frag plan' :=
  have fits := Nat.lt_of_le_of_lt (Nat.add_le_add_left (copiedOf_le plan.copySize frag) plan.copySize) small
  { planFragment_sized fits planned with cmdSize := planFragment_cmdSize small' planned }

end PlanFragment

/-- The copy of a DUP fragment is what remains of every DUP fragment that is mapped: there is one. -/
def DupHeld (plan : HcmdPlan) : Prop :=
  ∀ pair ∈ plan.rests, pair.1.dup = true → pair.2.length ≠ 0 → ∃ buf, plan.dupBuf = some (buf, pair.2)

theorem Planned.dupHeld {plan plan' : HcmdPlan} {frag : IwlFragment} (planned : Planned plan frag plan')
    (held : DupHeld plan) : DupHeld plan' := by
  intro pair member isDup some
  rw [planned.rests, List.mem_append, List.mem_singleton] at member
  by_cases new : frag.data.length ≠ 0 ∧ frag.dup = true
  · obtain ⟨unused, used⟩ := planned.dup new.1 new.2
    rcases member with earlier | rfl
    · -- Were there an earlier one, the buffer would be in use.
      obtain ⟨buf, taken⟩ := held pair earlier isDup some
      rw [unused] at taken
      cases taken
    · exact used
  · rw [planned.noDup (by
      by_cases empty : frag.data.length = 0
      · exact .inl empty
      · exact .inr (Bool.not_eq_true _ ▸ fun isDup => new ⟨empty, isDup⟩))]
    rcases member with earlier | rfl
    · exact held pair earlier isDup some
    · refine absurd ⟨fun empty => some ?_, isDup⟩ new
      rw [List.length_eq_zero_iff.mp empty, List.drop_nil]
      rfl

/-- **What the planning loop computes.** -/
theorem plan_spec (env : EnqueueEnv) (frags : List IwlFragment) (plan plan' : HcmdPlan)
    (small : plan.copySize + (payload frags).length < 2 ^ 16)
    (small' : plan.cmdSize + (payload frags).length < 2 ^ 16) (held : DupHeld plan)
    (planned : frags.foldlM (planFragment env) plan = .ok plan') :
    plan'.copySize = copiedSize plan.copySize frags ∧
      plan'.cmdSize = plan.cmdSize + (payload frags).length ∧
      plan'.rests = plan.rests ++ restsFrom plan.copySize frags ∧
      PlainFirst plan.hadNocopy frags ∧ DupHeld plan' := by
  induction frags generalizing plan with
  | nil =>
    obtain rfl := Except.ok.inj planned
    exact ⟨rfl, rfl, (List.append_nil _).symm, trivial, held⟩
  | cons frag later ih =>
    have total : (payload (frag :: later)).length = frag.data.length + (payload later).length := by
      unfold payload
      rw [List.flatMap_cons, List.length_append]
    rw [total] at small small' ⊢
    rw [List.foldlM_cons] at planned
    cases first : planFragment env plan frag with
    | error e =>
      rw [first] at planned
      cases planned
    | ok mid =>
      rw [first] at planned
      have step := planFragment_spec (by omega) (by omega) first
      have copied := copiedOf_le plan.copySize frag
      obtain ⟨copySize, cmdSize, rests, order, dup⟩ := ih mid (by rw [step.copySize]; omega)
        (by rw [step.cmdSize]; omega) (step.dupHeld held) planned
      refine ⟨?_, ?_, ?_, ⟨step.order, ?_⟩, dup⟩
      · rw [copySize, step.copySize, copiedSize]
      · rw [cmdSize, step.cmdSize, Nat.add_assoc]
      · rw [rests, step.rests, step.copySize, restsFrom, List.append_assoc, List.singleton_append]
      · rw [← step.hadNocopy]
        exact order

/-- The plan of a whole command. -/
theorem plan_start {env : EnqueueEnv} {cmd : IwlHostCmd} {plan : HcmdPlan}
    (small : headerSize cmd + (payload cmd.fragments).length < 2 ^ 16)
    (planned : cmd.fragments.foldlM (planFragment env) (HcmdPlan.start cmd) = .ok plan) :
    plan.copySize = copiedSize (headerSize cmd) cmd.fragments ∧
      plan.cmdSize = headerSize cmd + (payload cmd.fragments).length ∧
      plan.rests = restsFrom (headerSize cmd) cmd.fragments ∧
      PlainFirst false cmd.fragments ∧ DupHeld plan :=
  plan_spec env cmd.fragments (HcmdPlan.start cmd) plan small small
    (fun _ member => absurd member List.not_mem_nil) planned

/-! ### Copying -/

/-- The front of what is written appears behind the front of what was there. -/
theorem take_memcpy {buf : IwlDeviceCmd} {pos k : Nat} {bytes : List UInt8}
    (fits : pos + bytes.length ≤ tfdMaxPayloadSize) (part : k ≤ bytes.length) :
    (buf.memcpy pos bytes).bytes.take (pos + k) = buf.bytes.take pos ++ bytes.take k := by
  have size := buf.length_eq
  have front : (buf.bytes.take pos).length = pos := by
    rw [List.length_take]
    omega
  unfold IwlDeviceCmd.memcpy
  dsimp only
  rw [List.take_take, Nat.min_eq_left (by omega), List.append_assoc, List.take_append, front,
    List.take_of_length_le (by omega), Nat.add_sub_cancel_left, List.take_append,
    Nat.sub_eq_zero_of_le part, List.take_zero, List.append_nil]

/-- What is written does not show in front of it. -/
theorem take_memcpy_before {buf : IwlDeviceCmd} {n pos : Nat} {bytes : List UInt8} (before : n ≤ pos)
    (fits : pos ≤ tfdMaxPayloadSize) : (buf.memcpy pos bytes).bytes.take n = buf.bytes.take n := by
  have size := buf.length_eq
  unfold IwlDeviceCmd.memcpy
  dsimp only
  rw [List.take_take, Nat.min_eq_left (by omega), List.append_assoc, List.take_append,
    List.take_take, Nat.min_eq_left before, List.length_take,
    Nat.sub_eq_zero_of_le (by omega : n ≤ min pos buf.bytes.length), List.take_zero, List.append_nil]

/-- How the copying loop stands: `copy_size` runs behind `cmd_pos` once a fragment is mapped. -/
structure Copying (had : Bool) (out : HcmdCopy) : Prop where
  behind : out.copySize ≤ out.cmdPos
  fits : out.cmdPos ≤ tfdMaxPayloadSize
  level : out.copySize < iwlFirstTbSize ∨ had = false → out.cmdPos = out.copySize

/-- **Copying one fragment** keeps the loop so, and adds the front of the fragment to the copy. -/
theorem copyFragment_spec {had : Bool} {out : HcmdCopy} {frag : IwlFragment} (copying : Copying had out)
    (order : frag.data.length ≠ 0 → frag.plain = true → had = false)
    (fits : out.copySize + copiedOf out.copySize frag ≤ tfdMaxPayloadSize) :
    Copying (had || frag.data.length != 0 && !frag.plain) (copyFragment out frag) ∧
      (copyFragment out frag).copySize = out.copySize + copiedOf out.copySize frag ∧
      (copyFragment out frag).cmd.bytes.take (copyFragment out frag).copySize =
        out.cmd.bytes.take out.copySize ++ frag.data.take (copiedOf out.copySize frag) := by
  obtain ⟨behind, inside, level⟩ := copying
  unfold copyFragment
  unfold tfdMaxPayloadSize at *
  split
  · rename_i empty
    have none : copiedOf out.copySize frag = 0 := by
      have := copiedOf_le out.copySize frag
      omega
    rw [none, List.take_zero, List.append_nil, empty]
    exact ⟨⟨behind, inside, by simpa using level⟩, rfl, rfl⟩
  · rename_i some
    split
    · rename_i plain
      have whole : copiedOf out.copySize frag = frag.data.length := if_pos plain
      have level := level (.inr (order some plain))
      rw [whole] at fits ⊢
      rw [Nat.mod_eq_of_lt (by omega), level]
      refine ⟨⟨Nat.le_refl _, fits, fun _ => rfl⟩, rfl, ?_⟩
      exact take_memcpy (by unfold tfdMaxPayloadSize; exact fits) (Nat.le_refl _)
    · rename_i mapped
      have pulled : copiedOf out.copySize frag = min (iwlFirstTbSize - out.copySize) frag.data.length :=
        if_neg mapped
      rw [pulled]
      unfold iwlFirstTbSize at *
      by_cases early : out.copySize < 20
      · have level := level (.inl early)
        rw [if_pos early, level]
        refine ⟨⟨?_, ?_, fun late => ?_⟩, rfl, ?_⟩
        · dsimp only
          omega
        · dsimp only
          unfold tfdMaxPayloadSize
          omega
        · dsimp only at *
          have short : out.copySize + min (20 - out.copySize) frag.data.length < 20 :=
            late.resolve_right (by simp [some, mapped])
          omega
        · have front : (frag.data.take (min (324 - out.copySize) frag.data.length)).take
              (min (20 - out.copySize) frag.data.length) =
                frag.data.take (min (20 - out.copySize) frag.data.length) := by
            rw [List.take_take, Nat.min_eq_left (by omega)]
          rw [← front]
          refine take_memcpy ?_ ?_ <;> rw [List.length_take]
          · unfold tfdMaxPayloadSize
            omega
          · omega
      · have nothing : min (20 - out.copySize) frag.data.length = 0 := by omega
        rw [if_neg early, nothing, List.take_zero, List.append_nil]
        refine ⟨⟨?_, ?_, fun late => ?_⟩, rfl, ?_⟩
        · dsimp only
          omega
        · dsimp only
          unfold tfdMaxPayloadSize
          omega
        · have short : out.copySize < 20 := late.resolve_right (by simp [some, mapped])
          omega
        · exact take_memcpy_before behind inside

/-- **The copied bytes and the remainders** are what was copied before and the data, in order. -/
theorem copy_spec (frags : List IwlFragment) (had : Bool) (out : HcmdCopy) (copying : Copying had out)
    (order : PlainFirst had frags) (fits : copiedSize out.copySize frags ≤ tfdMaxPayloadSize) :
    (frags.foldl copyFragment out).copySize = copiedSize out.copySize frags ∧
      (frags.foldl copyFragment out).cmd.bytes.take (copiedSize out.copySize frags) ++
          (remainders out.copySize frags).flatten =
        out.cmd.bytes.take out.copySize ++ payload frags := by
  induction frags generalizing had out with
  | nil => exact ⟨rfl, rfl⟩
  | cons frag later ih =>
    have total : payload (frag :: later) = frag.data ++ payload later := List.flatMap_cons
    obtain ⟨copying', size, bytes⟩ := copyFragment_spec copying order.1
      (Nat.le_trans (le_copiedSize _ later) fits)
    rw [copiedSize, ← size] at fits ⊢
    obtain ⟨last, joined⟩ := ih _ _ copying' order.2 fits
    refine ⟨last, ?_⟩
    rw [remainders_cons, ← size, total, List.foldl_cons]
    rw [bytes] at joined
    -- The copy goes on only if nothing remains of this fragment.
    by_cases whole : frag.data.length ≤ copiedOf out.copySize frag
    · have none : (if frag.plain then [] else
          frag.data.drop (min (iwlFirstTbSize - out.copySize) frag.data.length)) = [] := by
        split
        · rfl
        · rename_i mapped
          have pulled : copiedOf out.copySize frag =
            min (iwlFirstTbSize - out.copySize) frag.data.length := if_neg mapped
          exact List.drop_eq_nil_of_le (pulled ▸ whole)
      rw [none, List.nil_append, joined, List.take_of_length_le whole, List.append_assoc]
    · have mapped : ¬ frag.plain = true := fun plain => whole (Nat.le_of_eq (if_pos plain).symm)
      have pulled : copiedOf out.copySize frag =
        min (iwlFirstTbSize - out.copySize) frag.data.length := if_neg mapped
      have done : copiedSize (copyFragment out frag).copySize later =
          (copyFragment out frag).copySize := by
        have closed : (had || frag.data.length != 0 && !frag.plain) = true := by
          have some : frag.data.length ≠ 0 := by omega
          simp [some, mapped]
        have order := order.2
        rw [closed] at order
        refine copiedSize_done ?_ later order
        rw [size, pulled]
        omega
      rw [done, ← bytes] at joined
      -- Both sides begin with the same number of copied bytes.
      have sameLength : ((later.foldl copyFragment (copyFragment out frag)).cmd.bytes.take
          (copyFragment out frag).copySize).length =
          ((copyFragment out frag).cmd.bytes.take (copyFragment out frag).copySize).length := by
        rw [List.length_take, List.length_take, IwlDeviceCmd.length_eq, IwlDeviceCmd.length_eq]
      obtain ⟨front, back⟩ := List.append_inj joined sameLength
      rw [done, if_neg mapped, front, back, bytes, ← pulled, List.append_assoc,
        ← List.append_assoc (frag.data.take _), List.take_append_drop]

/-! ### Mapping -/

/-- The third loop maps what remains, with an index of its own for each. -/
theorem remainingParts_spec (dupBuf : Option (Nat × List UInt8))
    (rests : List (IwlFragment × List UInt8)) (i : Nat)
    (held : ∀ pair ∈ rests, pair.1.dup = true → pair.2.length ≠ 0 →
      ∃ buf, dupBuf = some (buf, pair.2)) :
    (remainingParts dupBuf i rests).map Prod.snd = (rests.filter isMapped).map Prod.snd ∧
      (remainingParts dupBuf i rests).Pairwise (fun part later => part.1 ≠ later.1) ∧
      ∀ part ∈ remainingParts dupBuf i rests, i < part.1 := by
  induction rests generalizing i with
  | nil => exact ⟨rfl, List.Pairwise.nil, fun _ member => absurd member List.not_mem_nil⟩
  | cons pair later ih =>
    obtain ⟨frag, rest⟩ := pair
    obtain ⟨same, apart, after⟩ := ih (i + 1) fun pair member => held pair (.tail _ member)
    have skip (unmapped : isMapped (frag, rest) = false)
        (parts : remainingParts dupBuf i ((frag, rest) :: later) = remainingParts dupBuf (i + 1) later) :
        (remainingParts dupBuf i ((frag, rest) :: later)).map Prod.snd =
            (((frag, rest) :: later).filter isMapped).map Prod.snd ∧
          (remainingParts dupBuf i ((frag, rest) :: later)).Pairwise
            (fun part later => part.1 ≠ later.1) ∧
          ∀ part ∈ remainingParts dupBuf i ((frag, rest) :: later), i < part.1 := by
      rw [parts, List.filter_cons_of_neg (Bool.eq_false_iff.mp unmapped)]
      exact ⟨same, apart, fun part member => Nat.lt_of_succ_lt (after part member)⟩
    by_cases empty : rest.length = 0
    · exact skip (by simp [isMapped, empty]) (by rw [remainingParts, if_pos empty])
    · by_cases plain : frag.plain
      · exact skip (by simp [isMapped, plain]) (by rw [remainingParts, if_neg empty, if_pos plain])
      · have data : (if frag.dup then (dupBuf.elim [] Prod.snd).take rest.length else rest) = rest := by
          split
          · rename_i isDup
            obtain ⟨buf, taken⟩ := held (frag, rest) (.head _) isDup empty
            rw [taken]
            exact List.take_length
          · rfl
        rw [remainingParts, if_neg empty, if_neg plain,
          List.filter_cons_of_pos (by simp [isMapped, plain, empty])]
        dsimp only
        rw [data]
        refine ⟨?_, List.pairwise_cons.mpr ⟨fun part member => ?_, apart⟩, fun part member => ?_⟩
        · rw [List.map_cons, List.map_cons, same]
        · have := after part member
          dsimp only
          omega
        · rcases List.mem_cons.mp member with rfl | member
          · exact Nat.lt_succ_self i
          · exact Nat.lt_of_succ_lt (after part member)

/-- The buffers a call gets are at addresses of the 36 bits a TB can name, and have no byte in common with
each other or with the first-TB buffers. -/
structure BuffersApart (env : EnqueueEnv) (txq : IwlTxq) : Prop where
  firstInside : txq.firstTbDma + tfdCmdSlots * firstTbBufSize ≤ 2 ^ 36
  inside : ∀ k n dma, env.dmaBuf k n = some dma → dma < 2 ^ 36
  fromFirst : ∀ k n dma, env.dmaBuf k n = some dma →
    Apart txq.firstTbDma (tfdCmdSlots * firstTbBufSize) dma n
  apart : ∀ k n dma k' n' dma', k ≠ k' → env.dmaBuf k n = some dma → env.dmaBuf k' n' = some dma' →
    Apart dma n dma' n'

/-- The TFD of `write_ptr` lists these ranges, and these bytes are at them. -/
structure Shows (st : IwlTrans) (ranges : List (Nat × Nat)) (bytes : List UInt8) : Prop where
  describes : Describes (st.txq.tfds st.txq.writePtr) ranges
  bytes : gather st.memory ranges = bytes

/-- A store apart from all ranges does not show. -/
theorem gather_store {mem : Ram} {dma : Nat} {bytes : List UInt8} {ranges : List (Nat × Nat)}
    (clear : ∀ range ∈ ranges, Apart dma bytes.length range.1 range.2) :
    gather (store mem dma bytes) ranges = gather mem ranges := by
  exact List.flatMap_congr fun range member => load_store_apart (clear range member)

/-- **One more part shows** behind the ones before. -/
theorem mapPart_shows {env : EnqueueEnv} {st st' : IwlTrans} {part : Nat × List UInt8}
    {ranges : List (Nat × Nat)} {bytes : List UInt8} {idx : Slot} (buffers : BuffersApart env st.txq)
    (shows : Shows st ranges bytes) (room : ranges.length < iwlNumOfTbs)
    (short : part.2.length < 2 ^ 12)
    (clear : ∀ range ∈ ranges, ∀ dma, env.dmaBuf part.1 part.2.length = some dma →
      Apart dma part.2.length range.1 range.2)
    (mapped : mapPart env idx st part = .ok st') :
    ∃ dma, env.dmaBuf part.1 part.2.length = some dma ∧
      Shows st' (ranges ++ [(dma, part.2.length)]) (bytes ++ part.2) ∧
      st'.txq.writePtr = st.txq.writePtr ∧ st'.txq.firstTbDma = st.txq.firstTbDma := by
  unfold mapPart at mapped
  split at mapped
  · cases mapped
  · rename_i dma got
    obtain rfl := Except.ok.inj mapped
    have before : Describes ((st.txq.setEntry idx ((st.txq.entries idx).setDma part.1
        ⟨dma, part.2.length⟩)).tfds st.txq.writePtr) ranges := shows.describes
    obtain ⟨tfd, built, describes⟩ := buildTfd_append before room (buffers.inside _ _ _ got) short
    refine ⟨dma, got, ⟨?_, ?_⟩, ?_⟩
    · rw [built, setTfd_writePtr, setTfd_same]
      exact describes
    · rw [gather_append, gather_singleton, load_store_same rfl,
        gather_store fun range member => clear range member dma got, shows.bytes]
    · dsimp only
      rw [built]
      exact ⟨rfl, rfl⟩

/-- **The parts show in order**, each in a buffer of its own. -/
theorem mapParts_shows {env : EnqueueEnv} {idx : Slot} {txq : IwlTxq} (parts : List (Nat × List UInt8))
    (buffers : BuffersApart env txq) {st st' : IwlTrans} {ranges : List (Nat × Nat)}
    {bytes : List UInt8} (here : st.txq.firstTbDma = txq.firstTbDma) (shows : Shows st ranges bytes)
    (keys : parts.Pairwise fun part later => part.1 ≠ later.1)
    (room : ranges.length + parts.length ≤ iwlNumOfTbs)
    (short : ∀ part ∈ parts, part.2.length < 2 ^ 12)
    (clear : ∀ range ∈ ranges, ∀ part ∈ parts, ∀ dma, env.dmaBuf part.1 part.2.length = some dma →
      Apart dma part.2.length range.1 range.2)
    (mapped : parts.foldlM (mapPart env idx) st = .ok st') :
    ∃ more, Shows st' (ranges ++ more) (bytes ++ parts.flatMap Prod.snd) ∧
      more.map Prod.snd = parts.map (fun part => part.2.length) ∧
      st'.txq.writePtr = st.txq.writePtr := by
  induction parts generalizing st ranges bytes with
  | nil =>
    obtain rfl := Except.ok.inj mapped
    exact ⟨[], by simpa using shows, rfl, rfl⟩
  | cons part later ih =>
    rw [List.foldlM_cons] at mapped
    cases first : mapPart env idx st part with
    | error _ =>
      rw [first] at mapped
      cases mapped
    | ok mid =>
      rw [first] at mapped
      rw [List.length_cons] at room
      obtain ⟨apartKeys, keys⟩ := List.pairwise_cons.mp keys
      have buffers' : BuffersApart env st.txq :=
        ⟨here ▸ buffers.firstInside, buffers.inside, here ▸ buffers.fromFirst, buffers.apart⟩
      obtain ⟨dma, got, shows', samePtr, sameTb⟩ := mapPart_shows buffers' shows (by omega)
        (short part (.head _)) (fun range member => clear range member part (.head _)) first
      have clear' : ∀ range ∈ ranges ++ [(dma, part.2.length)], ∀ other ∈ later, ∀ dma',
          env.dmaBuf other.1 other.2.length = some dma' →
          Apart dma' other.2.length range.1 range.2 := by
        intro range member other among dma' got'
        rcases List.mem_append.mp member with earlier | new
        · exact clear range earlier other (.tail _ among) dma' got'
        · rw [List.mem_singleton.mp new]
          exact buffers.apart _ _ _ _ _ _ (Ne.symm (apartKeys other among)) got' got
      obtain ⟨more, shown, lengths, samePtr'⟩ := ih (sameTb.trans here) shows' keys
        (by rw [List.length_append, List.length_singleton]; omega)
        (fun other among => short other (.tail _ among)) clear' mapped
      refine ⟨(dma, part.2.length) :: more, ?_, ?_, samePtr'.trans samePtr⟩
      · rw [List.append_assoc, List.append_assoc] at shown
        exact shown
      · rw [List.map_cons, List.map_cons, lengths]

/-! ### The header -/

theorem cmdSequence_eq (queue : Fin 32) (index : RingIndex) :
    cmdSequence queue index = queue.val * 2 ^ 8 + index.val := by
  have inQueue := queue.isLt
  have inRing : index.val < 2 ^ 8 := index.isLt
  unfold cmdSequence
  rw [Nat.mod_eq_of_lt inRing, Nat.mod_eq_of_lt (by omega), ← Nat.shiftLeft_add_eq_or_of_lt inRing,
    Nat.shiftLeft_eq]

theorem cmdHeader_length (cmd : IwlHostCmd) (sequence cmdSize : Nat) :
    (cmdHeader cmd sequence cmdSize).length = headerSize cmd := by
  unfold cmdHeader headerSize
  split <;> rfl

/-- A little-endian word of two bytes. -/
theorem le16_value (n : Nat) :
    (UInt8.ofNat n).toNat + 256 * ((UInt8.ofNat (n / 2 ^ 8)).toNat + 256 * 0) = n % 2 ^ 16 := by
  rw [UInt8.toNat_ofNat', UInt8.toNat_ofNat']
  omega

/-- Both headers have the sequence at the same place. -/
theorem cmdHeader_sequence (cmd : IwlHostCmd) (sequence cmdSize : Nat) :
    leAt (cmdHeader cmd sequence cmdSize) 2 2 = sequence % 2 ^ 16 := by
  unfold cmdHeader
  split <;> exact le16_value sequence

/-- The wide header has the length without itself. -/
theorem cmdHeader_wideLength {cmd : IwlHostCmd} (wide : iwlCmdGroupid cmd.id ≠ 0)
    (sequence length : Nat) :
    leAt (cmdHeader cmd sequence (8 + length)) 4 2 = length % 2 ^ 16 := by
  unfold cmdHeader
  rw [if_pos wide]
  refine (le16_value (8 + length + 2 ^ 16 - 8)).trans ?_
  omega

/-! ### The law -/

/-- The header that goes out with a command. -/
def sentHeader (cmd : IwlHostCmd) (st : IwlTrans) : List UInt8 :=
  cmdHeader cmd (cmdSequence st.cmdQueue st.txq.writePtr)
    (headerSize cmd + (payload cmd.fragments).length)

/-- **The wire law** of a command enqueued in `st`: what the descriptor of its index shows. -/
structure WireLaw (cmd : IwlHostCmd) (st st' : IwlTrans) : Prop where
  /-- Header and data, every byte once and in order. -/
  bytes : tfdBytes st'.memory (st'.txq.tfds st.txq.writePtr) =
    sentHeader cmd st ++ cmd.first.data ++ cmd.second.data
  /-- The first-TB buffer, the rest of the copy, and each remainder. -/
  ranges : ∃ more, tfdRanges (st'.txq.tfds st.txq.writePtr) =
      (iwlPcieGetFirstTbDma st.txq (iwlPcieGetCmdIndex st.txq.writePtr),
        min (copiedSize (headerSize cmd) cmd.fragments) iwlFirstTbSize) :: more ∧
    more.map Prod.snd =
      (if iwlFirstTbSize < copiedSize (headerSize cmd) cmd.fragments then
        [copiedSize (headerSize cmd) cmd.fragments - iwlFirstTbSize] else []) ++
      (remainders (headerSize cmd) cmd.fragments).map List.length
  few : iwlPcieTfdGetNumTbs (st'.txq.tfds st.txq.writePtr) ≤ 4
  sequence : leAt (sentHeader cmd st) 2 2 = st.cmdQueue.val * 2 ^ 8 + st.txq.writePtr.val
  short : iwlCmdGroupid cmd.id = 0 → (sentHeader cmd st).length = 4
  wide : iwlCmdGroupid cmd.id ≠ 0 → (sentHeader cmd st).length = 8 ∧
    leAt (sentHeader cmd st) 4 2 = cmd.first.data.length + cmd.second.data.length

/-- The stages an accepted command has gone through. -/
theorem enqueue_accepted {env : EnqueueEnv} {cmd : IwlHostCmd} {st st' : IwlTrans} {idx : Slot}
    (accepted : iwlPcieEnqueueHcmd env cmd st = (.ok idx, st')) :
    ∃ plan out mid, cmd.fragments.foldlM (planFragment env) (HcmdPlan.start cmd) = .ok plan ∧
      plan.copySize ≤ tfdMaxPayloadSize ∧
      out = fillSlot cmd (cmdHeader cmd (cmdSequence st.cmdQueue st.txq.writePtr) plan.cmdSize)
        (st.txq.entries (iwlPcieGetCmdIndex st.txq.writePtr)).cmd ∧
      (hcmdParts plan out).foldlM (mapPart env (iwlPcieGetCmdIndex st.txq.writePtr))
        (startTfd cmd out (iwlPcieGetCmdIndex st.txq.writePtr) st) = .ok mid ∧
      st'.memory = mid.memory ∧ st'.txq.tfds = mid.txq.tfds := by
  unfold iwlPcieEnqueueHcmd at accepted
  split at accepted
  · cases accepted
  · split at accepted
    · cases accepted
    · rename_i plan planned
      split at accepted
      · cases accepted
      · rename_i fits
        split at accepted
        · cases accepted
        · unfold enqueuePlanned at accepted
          dsimp only at accepted
          split at accepted
          · cases accepted
          · rename_i mid mapped
            obtain ⟨sameTxq, sameMemory, _⟩ := setCmdInFlight_txq env cmd
              (finishSlot cmd plan (iwlPcieGetCmdIndex st.txq.writePtr) mid)
            split at accepted
            · cases accepted
            · rename_i last woken
              rw [woken] at sameTxq sameMemory
              obtain rfl := (Prod.mk.inj accepted).2
              have sameTfds := congrArg IwlTxq.tfds sameTxq
              exact ⟨plan, _, mid, planned, Nat.le_of_not_lt fits, rfl, mapped, sameMemory, sameTfds⟩

/-- The first TB shows the front of the slot. -/
theorem startTfd_shows {env : EnqueueEnv} (cmd : IwlHostCmd) (out : HcmdCopy) (idx : Slot)
    (st : IwlTrans) (buffers : BuffersApart env st.txq) :
    Shows (startTfd cmd out idx st)
        [(iwlPcieGetFirstTbDma st.txq idx, min out.copySize iwlFirstTbSize)]
        (out.cmd.bytes.take (min out.copySize iwlFirstTbSize)) ∧
      (startTfd cmd out idx st).txq.writePtr = st.txq.writePtr ∧
      (startTfd cmd out idx st).txq.firstTbDma = st.txq.firstTbDma := by
  have inside := buffers.firstInside
  have inTable := idx.isLt
  have size := out.cmd.length_eq
  unfold tfdCmdSlots firstTbBufSize tfdMaxPayloadSize at *
  unfold startTfd
  dsimp only
  have reaches : iwlPcieGetFirstTbDma st.txq idx < 2 ^ 36 := by
    unfold iwlPcieGetFirstTbDma firstTbBufSize
    omega
  have brief : min out.copySize iwlFirstTbSize < 2 ^ 12 := by
    unfold iwlFirstTbSize
    omega
  obtain ⟨tfd, built, describes⟩ := buildTfd_reset
    (st.txq.setEntry idx ⟨out.cmd, (st.txq.entries idx).freeBuf,
      { IwlCmdMeta.zero with source := if cmd.flags.wantSkb then some cmd.ptr else none }⟩)
    reaches brief
  rw [built]
  refine ⟨⟨?_, ?_⟩, rfl, rfl⟩
  · rw [setTfd_writePtr, setTfd_same]
    exact describes
  · rw [gather_singleton, load_store_same]
    rw [List.length_take]
    unfold iwlFirstTbSize
    omega

/-- The copied part of a planned command is header and data up to the remainders. -/
theorem fillSlot_spec {cmd : IwlHostCmd} {header : List UInt8} (buf : IwlDeviceCmd)
    (size : header.length = headerSize cmd) (order : PlainFirst false cmd.fragments)
    (fits : copiedSize (headerSize cmd) cmd.fragments ≤ tfdMaxPayloadSize) :
    (fillSlot cmd header buf).copySize = copiedSize (headerSize cmd) cmd.fragments ∧
      (fillSlot cmd header buf).cmd.bytes.take (copiedSize (headerSize cmd) cmd.fragments) ++
          (remainders (headerSize cmd) cmd.fragments).flatten = header ++ payload cmd.fragments := by
  have small : headerSize cmd ≤ tfdMaxPayloadSize := Nat.le_trans (le_copiedSize _ _) fits
  obtain ⟨copySize, joined⟩ := copy_spec cmd.fragments false
    ⟨buf.memcpy 0 header, headerSize cmd, headerSize cmd⟩
    ⟨Nat.le_refl _, small, fun _ => rfl⟩ order fits
  refine ⟨copySize, joined.trans ?_⟩
  have front : (buf.memcpy 0 header).bytes.take (0 + headerSize cmd) =
      buf.bytes.take 0 ++ header.take (headerSize cmd) :=
    take_memcpy (by rw [size]; omega) (Nat.le_of_eq size.symm)
  rw [Nat.zero_add, List.take_zero, List.nil_append, ← size, List.take_length] at front
  dsimp only
  rw [← size, front]

theorem restsFrom_length (n : Nat) (frags : List IwlFragment) :
    (restsFrom n frags).length = frags.length := by
  induction frags generalizing n with
  | nil => rfl
  | cons frag later ih => rw [restsFrom, List.length_cons, List.length_cons, ih]

/-- A remainder is no longer than a fragment. -/
theorem remainders_short {n : Nat} {frags : List IwlFragment} {bound : Nat}
    (short : ∀ frag ∈ frags, frag.data.length ≤ bound) {rest : List UInt8}
    (member : rest ∈ remainders n frags) : rest.length ≤ bound := by
  obtain ⟨pair, among, rfl⟩ := List.mem_map.mp member
  replace among := (List.mem_filter.mp among).1
  clear member
  induction frags generalizing n with
  | nil => cases among
  | cons frag later ih =>
    rcases List.mem_cons.mp among with rfl | among
    · have := short frag (.head _)
      rw [List.length_drop]
      omega
    · exact ih (fun frag member => short frag (.tail _ member)) among

/-- **What is mapped after the first TB**: the rest of the copy and the remainders, each with a
buffer of its own. -/
theorem hcmdParts_spec {plan : HcmdPlan} {out : HcmdCopy} {n : Nat} {frags : List IwlFragment}
    (rests : plan.rests = restsFrom n frags) (held : DupHeld plan) :
    (hcmdParts plan out).map Prod.snd =
        (if iwlFirstTbSize < out.copySize then
          [(out.cmd.bytes.take out.copySize).drop iwlFirstTbSize] else []) ++ remainders n frags ∧
      (hcmdParts plan out).Pairwise (fun part later => part.1 ≠ later.1) := by
  obtain ⟨same, apart, after⟩ := remainingParts_spec plan.dupBuf plan.rests 0 held
  unfold hcmdParts remainders
  rw [← rests]
  dsimp only
  by_cases more : iwlFirstTbSize < out.copySize
  · rw [Nat.min_eq_right (Nat.le_of_lt more), if_pos more, if_pos more, List.singleton_append,
      List.map_cons, same]
    exact ⟨rfl, List.pairwise_cons.mpr ⟨fun part member => Nat.ne_of_lt (after part member), apart⟩⟩
  · rw [Nat.min_eq_left (Nat.le_of_not_lt more), if_neg (Nat.lt_irrefl _), if_neg more,
      List.nil_append, List.nil_append, same]
    exact ⟨rfl, apart⟩

/-- There are at most three mapped parts, and a TB can hold each. -/
theorem hcmdParts_bounds {plan : HcmdPlan} {out : HcmdCopy} {n : Nat} {frags : List IwlFragment}
    (short : ∀ frag ∈ frags, frag.data.length ≤ 4095)
    (parts : (hcmdParts plan out).map Prod.snd =
      (if iwlFirstTbSize < out.copySize then
        [(out.cmd.bytes.take out.copySize).drop iwlFirstTbSize] else []) ++ remainders n frags) :
    (hcmdParts plan out).length ≤ 1 + frags.length ∧
      ∀ part ∈ hcmdParts plan out, part.2.length < 2 ^ 12 := by
  refine ⟨?_, fun part member => ?_⟩
  · have remaining : (remainders n frags).length ≤ frags.length := by
      rw [remainders, List.length_map, ← restsFrom_length n frags]
      exact List.length_filter_le _ _
    rw [← List.length_map Prod.snd, parts, List.length_append]
    split <;> simp only [List.length_singleton, List.length_nil] <;> omega
  · have among := List.mem_map_of_mem (f := Prod.snd) member
    rw [parts, List.mem_append] at among
    rcases among with copy | remainder
    · split at copy
      · have size := out.cmd.length_eq
        unfold tfdMaxPayloadSize at size
        rw [List.mem_singleton.mp copy, List.length_drop, List.length_take]
        omega
      · cases copy
    · have := remainders_short short remainder
      omega

/-- The buffer of a part is apart from the first TB. -/
theorem firstTb_clear {env : EnqueueEnv} {txq : IwlTxq} (buffers : BuffersApart env txq) (idx : Slot)
    (size : Nat) {k n dma : Nat} (got : env.dmaBuf k n = some dma) :
    Apart dma n (iwlPcieGetFirstTbDma txq idx) (min size iwlFirstTbSize) := by
  have inTable := idx.isLt
  refine ((buffers.fromFirst _ _ _ got).inside ?_ ?_).symm
  · exact Nat.le_add_right _ _
  · unfold iwlPcieGetFirstTbDma tfdCmdSlots firstTbBufSize iwlFirstTbSize at *
    omega

/-- The first TB and the mapped parts are the copy and the remainders. -/
theorem shown_bytes {plan : HcmdPlan} {out : HcmdCopy} {n : Nat} {frags : List IwlFragment}
    (parts : (hcmdParts plan out).map Prod.snd =
      (if iwlFirstTbSize < out.copySize then
        [(out.cmd.bytes.take out.copySize).drop iwlFirstTbSize] else []) ++ remainders n frags) :
    out.cmd.bytes.take (min out.copySize iwlFirstTbSize) ++ (hcmdParts plan out).flatMap Prod.snd =
      out.cmd.bytes.take out.copySize ++ (remainders n frags).flatten := by
  rw [List.flatMap_def, parts, List.flatten_append, ← List.append_assoc]
  congr 1
  split
  · rename_i more
    rw [List.flatten_singleton, Nat.min_eq_right (Nat.le_of_lt more),
      ← Nat.min_eq_left (Nat.le_of_lt more), ← List.take_take, Nat.min_eq_left (Nat.le_of_lt more),
      List.take_append_drop]
  · rename_i none
    rw [List.flatten_nil, List.append_nil, Nat.min_eq_left (Nat.le_of_not_lt none)]

/-- **TFD wire law.** Every command that is accepted, with fragments a TB can hold, is what the
device reads at the descriptor of its index. -/
theorem tfdWire (env : EnqueueEnv) (cmd : IwlHostCmd) (st st' : IwlTrans) (idx : Slot)
    (short : ∀ frag ∈ cmd.fragments, frag.data.length ≤ 4095)
    (buffers : BuffersApart env st.txq)
    (accepted : iwlPcieEnqueueHcmd env cmd st = (.ok idx, st')) : WireLaw cmd st st' := by
  obtain ⟨plan, out, mid, planned, fits, filled, mapped, sameMemory, sameTfds⟩ :=
    enqueue_accepted accepted
  have total : (payload cmd.fragments).length = cmd.first.data.length + cmd.second.data.length := by
    unfold payload IwlHostCmd.fragments
    rw [List.flatMap_cons, List.flatMap_singleton, List.length_append]
  have header : headerSize cmd ≤ 8 := by
    unfold headerSize
    split <;> omega
  have small : headerSize cmd + (payload cmd.fragments).length < 2 ^ 16 := by
    have := short cmd.first (.head _)
    have := short cmd.second (.tail _ (.head _))
    omega
  -- What is planned, what is copied and what is mapped.
  obtain ⟨copySize, cmdSize, rests, order, held⟩ := plan_start small planned
  rw [copySize] at fits
  rw [cmdSize] at filled
  obtain ⟨copied, joined⟩ := fillSlot_spec
    (st.txq.entries (iwlPcieGetCmdIndex st.txq.writePtr)).cmd (cmdHeader_length cmd _ _) order fits
  rw [← filled] at copied joined
  obtain ⟨parts, keys⟩ := @hcmdParts_spec _ out _ _ rests held
  obtain ⟨count, shortParts⟩ := hcmdParts_bounds short parts
  replace count : (hcmdParts plan out).length ≤ 3 := count
  obtain ⟨first, samePtr, sameTb⟩ := @startTfd_shows env cmd out
    (iwlPcieGetCmdIndex st.txq.writePtr) st buffers
  obtain ⟨more, shows, lengths, samePtr'⟩ := mapParts_shows (hcmdParts plan out) buffers sameTb first
    keys (by rw [List.length_singleton]; unfold iwlNumOfTbs; omega) shortParts
    (fun range member part _ dma got => by
      rw [List.mem_singleton.mp member]
      exact firstTb_clear buffers _ _ got) mapped
  rw [shown_bytes parts, copied, joined, List.singleton_append] at shows
  have describes := shows.describes
  rw [samePtr'.trans samePtr, ← sameTfds] at describes
  have ranges := describes.ranges_eq
  refine ⟨?_, ⟨more, ranges, ?_⟩, ?_, ?_, fun narrow => ?_, fun wide => ⟨?_, ?_⟩⟩
  · rw [tfdBytes, ranges, sameMemory, shows.bytes, List.append_assoc]
    unfold sentHeader payload IwlHostCmd.fragments
    rw [List.flatMap_cons, List.flatMap_singleton]
  · have sizes : (hcmdParts plan out).map (fun part => part.2.length) =
        ((hcmdParts plan out).map Prod.snd).map List.length := by
      rw [List.map_map]
      rfl
    rw [lengths, sizes, parts, List.map_append, copied]
    congr 1
    split
    · rw [List.map_singleton, List.length_drop, List.length_take, IwlDeviceCmd.length_eq,
        Nat.min_eq_left fits]
    · rfl
  · have sameCount := congrArg List.length lengths
    rw [List.length_map, List.length_map] at sameCount
    rw [describes.numTbs, List.length_cons]
    omega
  · have queue := st.cmdQueue.isLt
    have index : st.txq.writePtr.val < 2 ^ 8 := st.txq.writePtr.isLt
    rw [sentHeader, cmdHeader_sequence, cmdSequence_eq]
    omega
  · rw [sentHeader, cmdHeader_length, headerSize, if_neg (not_not.mpr narrow)]
  · rw [sentHeader, cmdHeader_length, headerSize, if_pos wide]
  · have size : headerSize cmd = 8 := if_pos wide
    rw [sentHeader, size, cmdHeader_wideLength wide, total]
    omega

theorem fixedBuffers_apart : BuffersApart fixedBuffers (.init 0x10000) where
  firstInside := by decide
  inside := by
    intro k n dma got
    simp only [fixedBuffers, Option.ite_none_right_eq_some, Option.some.injEq] at got
    omega
  fromFirst := by
    intro k n dma got
    simp only [fixedBuffers, Option.ite_none_right_eq_some, Option.some.injEq] at got
    refine .inl ?_
    show 0x10000 + tfdCmdSlots * firstTbBufSize ≤ dma
    unfold tfdCmdSlots firstTbBufSize
    omega
  apart := by
    intro k n dma k' n' dma' differ got got'
    simp only [fixedBuffers, Option.ite_none_right_eq_some, Option.some.injEq] at got got'
    unfold Apart
    omega

/-- A command of a group: 6 plain bytes, then 30 to be duplicated, 6 of which are copied. -/
def mixedCmd : IwlHostCmd where
  ptr := 0x9000
  id := 0x0102a5
  flags := .none
  first := ⟨List.replicate 6 0x11, by decide, false, false⟩
  second := ⟨List.replicate 30 0x22, by decide, false, true⟩

/-- The law for a command of both kinds of fragments. -/
theorem tfdWire_mixed : WireLaw mixedCmd (.init 9 true false 0x10000)
    (iwlPcieEnqueueHcmd fixedBuffers mixedCmd (.init 9 true false 0x10000)).2 :=
  tfdWire fixedBuffers mixedCmd (.init 9 true false 0x10000) _ 0 (by decide) fixedBuffers_apart
    (Prod.ext rfl rfl)

end IntelWifi.Pcie
