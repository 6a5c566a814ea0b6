/-
**The interrupt cause table.**

The device writes a cause word behind the last one in a circular table of 1024 entries, and the driver
collects the entries from `ict_index` up to the first that is 0, which it leaves as zeros. Bits 0 to 7 of
what it collected are bits 0 to 7 of the causes, and bits 8 to 15 are bits 24 to 31.

* `iwlPcieIntCauseIct_collects`: the call ends, and consumes the run of entries at `ict_index` and nothing
  else.
-/

import IntelWifi.Lib.Loop
import Mathlib.Data.Nat.Find
import Mathlib.Logic.Function.Basic

namespace IntelWifi.Pcie

open IntelWifi.Loop

/-- `ICT_COUNT`. -/
def ictCount : Nat := 1024

abbrev IctIndex := Fin ictCount

/-- `ict_tbl` and `ict_index`. -/
structure IctState where
  table : IctIndex → BitVec 32
  index : IctIndex

/-- `(ict_index + 1) & (ICT_COUNT - 1)`. -/
def ictNext (i : IctIndex) : IctIndex := ⟨(i.val + 1) % ictCount, Nat.mod_lt _ (by decide)⟩

/-- One turn of the `do` loop; `read` is the entry at `ict_index`. -/
def ictTurn : IctState × BitVec 32 → Turn (IctState × BitVec 32) (IctState × BitVec 32)
  | (st, val) =>
    let val := val ||| st.table st.index
    let st := { st with table := Function.update st.table st.index 0 }
    let st := { st with index := ictNext st.index }
    if st.table st.index = 0 then .leave (st, val) else .again (st, val)

/-- A value that is not to be had, and the Rx bit a hardware bug clears. -/
def ictWorkarounds (val : BitVec 32) : BitVec 32 :=
  let val := if val = 0xffffffff#32 then 0#32 else val
  if val &&& 0xC0000#32 = 0#32 then val else val ||| 0x8000#32

/-- What is made of the collected words. -/
def ictCauses (val : BitVec 32) : BitVec 32 :=
  let val := ictWorkarounds val
  (0xff#32 &&& val) ||| ((0xff00#32 &&& val) <<< 16)

/-- `iwl_pcie_int_cause_ict`. No table takes more turns than it has entries. -/
def iwlPcieIntCauseIct (st : IctState) : Option (BitVec 32 × IctState) :=
  if st.table st.index = 0 then some (0, st)
  else (run ictTurn ictCount (st, 0)).map fun (st, val) => (ictCauses val, st)

/-! ### The entries of a call -/

/-- The `k`-th entry from an index on. -/
def ahead (i : IctIndex) (k : Nat) : IctIndex := ⟨(i.val + k) % ictCount, Nat.mod_lt _ (by decide)⟩

/-- The run of entries at `ict_index` that are not 0: `k` of them, and a 0 behind, unless none is 0. -/
structure IctRun (st : IctState) (k : Nat) : Prop where
  le : k ≤ ictCount
  causes : ∀ j < k, st.table (ahead st.index j) ≠ 0
  ends : k < ictCount → st.table (ahead st.index k) = 0

/-- The entries of the run. -/
def IctState.collected (st : IctState) (k : Nat) : List (BitVec 32) :=
  (List.range k).map fun j => st.table (ahead st.index j)

/-- The state behind the run, which is zeroed. -/
def IctState.consumed (st : IctState) (k : Nat) : IctState where
  table := fun slot => if ∃ j < k, ahead st.index j = slot then 0 else st.table slot
  index := ahead st.index k

/-- All the causes of some words. -/
def orAll (words : List (BitVec 32)) : BitVec 32 := words.foldr (· ||| ·) 0

theorem ahead_zero (i : IctIndex) : ahead i 0 = i := Fin.ext (Nat.mod_eq_of_lt i.isLt)

theorem ahead_next (i : IctIndex) (k : Nat) : ahead (ictNext i) k = ahead i (k + 1) := by
  refine Fin.ext ?_
  show ((i.val + 1) % ictCount + k) % ictCount = (i.val + (k + 1)) % ictCount
  rw [Nat.mod_add_mod, Nat.add_assoc, Nat.add_comm 1]

/-- The table is not longer than one turn around. -/
theorem ahead_eq_self_iff {i : IctIndex} {k : Nat} (short : k ≤ ictCount) :
    ahead i k = i ↔ k = 0 ∨ k = ictCount := by
  have inside := i.isLt
  rw [Fin.ext_iff]
  unfold ahead ictCount at *
  dsimp only
  omega

theorem exists_ictRun (st : IctState) : ∃ k, IctRun st k := by
  have stops : ∃ k, k = ictCount ∨ st.table (ahead st.index k) = 0 := ⟨ictCount, .inl rfl⟩
  refine ⟨Nat.find stops, Nat.find_min' stops (.inl rfl), fun j before zero => ?_, fun short => ?_⟩
  · exact Nat.find_min stops before (.inr zero)
  · exact (Nat.find_spec stops).resolve_left (Nat.ne_of_lt short)

section Turn

variable {st : IctState} {k : Nat}

/-- The state after one entry. -/
def IctState.step (st : IctState) : IctState where
  table := Function.update st.table st.index 0
  index := ictNext st.index

theorem step_table (st : IctState) (j : Nat) : st.step.table (ahead st.step.index j) =
    Function.update st.table st.index 0 (ahead st.index (j + 1)) := by
  unfold IctState.step
  dsimp only
  rw [ahead_next]

/-- One entry is zeroed, and the others of the run are left. Coming round, its own entry ends it. -/
theorem IctRun.step (ran : IctRun st (k + 1)) : IctRun st.step k := by
  have le := ran.le
  refine ⟨by omega, fun j before => ?_, fun _ => ?_⟩
  · have apart : ahead st.index (j + 1) ≠ st.index := fun same =>
      absurd ((ahead_eq_self_iff (by omega)).mp same) (by omega)
    rw [step_table, Function.update_of_ne apart]
    exact ran.causes (j + 1) (by omega)
  · rw [step_table]
    by_cases round : k + 1 = ictCount
    · rw [(ahead_eq_self_iff le).mpr (.inr round), Function.update_self]
    · have apart : ahead st.index (k + 1) ≠ st.index := fun same =>
        absurd ((ahead_eq_self_iff le).mp same) (by omega)
      rw [Function.update_of_ne apart]
      exact ran.ends (by omega)

/-- The entries of a run are the first and those of the run behind it. -/
theorem collected_succ (ran : IctRun st (k + 1)) :
    st.collected (k + 1) = st.table st.index :: st.step.collected k := by
  have le := ran.le
  unfold IctState.collected
  rw [List.range_succ_eq_map, List.map_cons, ahead_zero, List.map_map]
  refine congrArg (_ :: ·) (List.map_congr_left fun j member => ?_)
  have before := List.mem_range.mp member
  have apart : ahead st.index (j + 1) ≠ st.index := fun same =>
    absurd ((ahead_eq_self_iff (by omega)).mp same) (by omega)
  rw [Function.comp_apply, step_table, Function.update_of_ne apart]

theorem consumed_succ : st.step.consumed k = st.consumed (k + 1) := by
  unfold IctState.consumed
  congr 1
  · funext slot
    have either : (∃ j < k + 1, ahead st.index j = slot) ↔
        st.index = slot ∨ ∃ j < k, ahead st.step.index j = slot := by
      constructor
      · rintro ⟨j, before, here⟩
        cases j with
        | zero => exact .inl ((ahead_zero _).symm.trans here)
        | succ j => exact .inr ⟨j, by omega, (ahead_next st.index j).trans here⟩
      · rintro (here | ⟨j, before, here⟩)
        · exact ⟨0, by omega, (ahead_zero _).trans here⟩
        · exact ⟨j + 1, by omega, (ahead_next st.index j).symm.trans here⟩
    by_cases behind : ∃ j < k, ahead st.step.index j = slot
    · rw [if_pos behind, if_pos (either.mpr (.inr behind))]
    · rw [if_neg behind]
      by_cases here : st.index = slot
      · rw [if_pos (either.mpr (.inl here)), ← here]
        exact Function.update_self ..
      · rw [if_neg fun any => (either.mp any).elim here behind]
        exact Function.update_of_ne (Ne.symm here) ..
  · exact ahead_next st.index k

theorem consumed_zero : st.consumed 0 = st := by
  unfold IctState.consumed
  obtain ⟨table, index⟩ := st
  simp [ahead_zero]

/-- **The loop consumes the run.** -/
theorem run_ictTurn (ran : IctRun st (k + 1)) (val : BitVec 32) (more : Nat) :
    run ictTurn (k + 1 + more) (st, val) =
      some (st.consumed (k + 1), val ||| orAll (st.collected (k + 1))) := by
  rw [Nat.add_right_comm, collected_succ ran, ← consumed_succ]
  have rest := ran.step
  induction k generalizing st val with
  | zero =>
    have stop : st.step.table st.step.index = 0 := by
      have := rest.ends (by decide)
      rwa [ahead_zero] at this
    have turn : ictTurn (st, val) = .leave (st.step, val ||| st.table st.index) := if_pos stop
    rw [run_leave turn, consumed_zero]
    simp [orAll, IctState.collected]
  | succ k ih =>
    have on : st.step.table st.step.index ≠ 0 := by
      have := rest.causes 0 (by omega)
      rwa [ahead_zero] at this
    have turn : ictTurn (st, val) = .again (st.step, val ||| st.table st.index) := if_neg on
    rw [run_again turn, Nat.add_right_comm, ih rest _ rest.step, ← consumed_succ, collected_succ rest]
    simp [orAll, BitVec.or_assoc]

end Turn

/-! ### What the causes are -/

/-- Bit `b` of the collected words, after the two workarounds: all ones count as nothing, and bit 15 is
set with bit 18 or 19. -/
def causeBit (val : BitVec 32) (b : Nat) : Bool :=
  val != 0xffffffff#32 && (val.getLsbD b || (b == 15 && (val.getLsbD 18 || val.getLsbD 19)))

/-- Bit `b` of the causes: the low byte is in place, the next one is the high byte. -/
def expandedBit (val : BitVec 32) (b : Nat) : Bool :=
  (decide (b < 8) && causeBit val b) || (decide (24 ≤ b ∧ b < 32) && causeBit val (b - 16))

/-- The bits of the masks. -/
theorem mask_bits : ∀ b < 32,
    (0xff#32).getLsbD b = decide (b < 8) ∧ (0xff00#32).getLsbD b = decide (8 ≤ b ∧ b < 16) ∧
      (0xC0000#32).getLsbD b = (b == 18 || b == 19) ∧ (0x8000#32).getLsbD b = (b == 15) := by
  decide

theorem rxBits_eq_zero_iff (val : BitVec 32) :
    val &&& 0xC0000#32 = 0#32 ↔ (val.getLsbD 18 || val.getLsbD 19) = false := by
  constructor
  · intro zero
    have bit (b : Nat) : (val &&& 0xC0000#32).getLsbD b = false := by rw [zero, BitVec.getLsbD_zero]
    have first := bit 18
    have second := bit 19
    rw [BitVec.getLsbD_and] at first second
    simpa using And.intro first second
  · intro clear
    refine BitVec.eq_of_getLsbD_eq fun b inside => ?_
    rw [BitVec.getLsbD_and, (mask_bits b inside).2.2.1, BitVec.getLsbD_zero]
    rw [Bool.or_eq_false_iff] at clear
    by_cases first : b = 18
    · rw [first, clear.1, Bool.false_and]
    · by_cases second : b = 19
      · rw [second, clear.2, Bool.false_and]
      · simp [first, second]

theorem ictWorkarounds_bit (val : BitVec 32) {b : Nat} (inside : b < 32) :
    (ictWorkarounds val).getLsbD b = causeBit val b := by
  unfold ictWorkarounds causeBit
  by_cases ones : val = 0xffffffff#32
  · rw [ones]
    revert inside b
    decide
  · have differ : (val != 0xffffffff#32) = true := bne_iff_ne.mpr ones
    dsimp only
    rw [if_neg ones, differ, Bool.true_and]
    by_cases clear : val &&& 0xC0000#32 = 0#32
    · rw [if_pos clear, (rxBits_eq_zero_iff val).mp clear, Bool.and_false, Bool.or_false]
    · have set : (val.getLsbD 18 || val.getLsbD 19) = true := by
        rw [← Bool.not_eq_false]
        exact mt (rxBits_eq_zero_iff val).mpr clear
      rw [if_neg clear, BitVec.getLsbD_or, set, Bool.and_true, (mask_bits b inside).2.2.2]

theorem ictCauses_bit (val : BitVec 32) (b : Nat) : (ictCauses val).getLsbD b = expandedBit val b := by
  unfold ictCauses expandedBit
  dsimp only
  by_cases inside : b < 32
  · rw [BitVec.getLsbD_or, BitVec.getLsbD_and, BitVec.getLsbD_shiftLeft, BitVec.getLsbD_and,
      (mask_bits b inside).1, (mask_bits (b - 16) (by omega)).2.1, ictWorkarounds_bit val inside,
      ictWorkarounds_bit val (show b - 16 < 32 by omega)]
    have high : (decide (b < 32) && !decide (b < 16) && decide (8 ≤ b - 16 ∧ b - 16 < 16)) =
        decide (24 ≤ b ∧ b < 32) := by
      simp only [← decide_not, ← Bool.decide_and, decide_eq_decide]
      omega
    rw [← high, Bool.and_assoc, Bool.and_assoc, Bool.and_assoc]
  · rw [BitVec.getLsbD_of_ge _ _ (Nat.le_of_not_lt inside), decide_eq_false (by omega),
      decide_eq_false (by omega)]
    rfl

/-- **The cause table.** A call ends. It collects the run of entries at `ict_index` that are not 0, zeroes these
and no other, and leaves `ict_index` behind them, where the table has its first 0; the result is
the expansion of all their causes. -/
theorem iwlPcieIntCauseIct_collects (st : IctState) :
    ∃ k, IctRun st k ∧ ∃ inta, iwlPcieIntCauseIct st = some (inta, st.consumed k) ∧
      ∀ b, inta.getLsbD b = expandedBit (orAll (st.collected k)) b := by
  obtain ⟨k, ran⟩ := exists_ictRun st
  refine ⟨k, ran, ictCauses (orAll (st.collected k)), ?_, ictCauses_bit _⟩
  unfold iwlPcieIntCauseIct
  cases k with
  | zero =>
    have none := ran.ends (by decide)
    rw [ahead_zero] at none
    have nothing : ictCauses (orAll (st.collected 0)) = 0 := (by decide : ictCauses (orAll []) = 0)
    rw [if_pos none, consumed_zero, nothing]
  | succ k =>
    have some := ran.causes 0 (by omega)
    rw [ahead_zero] at some
    obtain ⟨more, enough⟩ := Nat.exists_eq_add_of_le ran.le
    rw [if_neg some, enough, run_ictTurn ran, Option.map_some]
    dsimp only
    rw [show (0 : BitVec 32) = 0#32 from rfl, BitVec.zero_or]

end IntelWifi.Pcie
