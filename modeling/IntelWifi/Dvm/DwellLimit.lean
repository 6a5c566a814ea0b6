/-
**How a scan's dwell time is limited.**

`iwl_limit_dwell` allows 98 of each 100 time units of a beacon interval, less twice the time to tune, and half of
that with two contexts. The difference is an `int` and goes into a `u16`: for a beacon interval up to 10 it is
negative, and what is stored is close to 65536.

* `dwellLimit_exact_iff`: when the `u16` holds the difference.
* `dwellRight_iff`: when nothing wraps and the dwell time keeps to every context's limit.
-/

import IntelWifi.Dvm.ScanFits

namespace IntelWifi.Dvm.ScanCommand

/-- A `u16`. -/
def IsU16 (value : Int) : Prop := 0 ≤ value ∧ value < 2 ^ 16

/-- The contexts' beacon intervals are `u16`. -/
structure ScanPriv.U16Intervals (priv : ScanPriv) : Prop where
  bss : IsU16 priv.bss.beaconInt
  pan : IsU16 priv.pan.beaconInt

/-- The beacon intervals of the contexts with a timing constraint, 100 where none is set: `limits`. -/
def limits (priv : ScanPriv) : List Int := [priv.bss, priv.pan].filterMap RxonContext.limit

/-- What a context leaves for the dwell time, in integers. -/
def allowance (beaconInt : Int) : Int := 98 * beaconInt / 100 - 10

/-- **What the limited dwell time should be.** -/
structure DwellRight (priv : ScanPriv) (dwellTime : Nat) : Prop where
  requested : iwlLimitDwell priv dwellTime ≤ dwellTime
  limited : ∀ beaconInt ∈ limits priv,
    (iwlLimitDwell priv dwellTime : Int) ≤ max 0 (allowance beaconInt) / (limits priv).length
  /-- The product fits in an `int`. -/
  product : ∀ beaconInt ∈ limits priv, beaconInt * 98 < 2 ^ 31
  /-- The `u16` holds the difference. -/
  exact : ∀ beaconInt ∈ limits priv, (dwellLimit beaconInt : Int) = allowance beaconInt

/-- The beacon interval is not set, or leaves room for the tuning. -/
def RxonContext.roomy (ctx : RxonContext) : Prop := ctx.limit.isSome → ctx.beaconInt = 0 ∨ 11 ≤ ctx.beaconInt

variable {priv : ScanPriv} {ctx : RxonContext} {beaconInt : Int} {dwellTime : Nat}

/-! ### One limit -/

theorem dwellLimit_eq (u16 : IsU16 beaconInt) : (dwellLimit beaconInt : Int) = allowance beaconInt % 2 ^ 16 := by
  unfold dwellLimit allowance
  rw [Int.toNat_of_nonneg (Int.emod_nonneg _ (by decide)), Int.tdiv_eq_ediv_of_nonneg (by have := u16.1; omega),
    Int.mul_comm]
  rfl

/-- **The `u16` holds the difference** from a beacon interval of 11 on. -/
theorem dwellLimit_exact_iff (u16 : IsU16 beaconInt) :
    (dwellLimit beaconInt : Int) = allowance beaconInt ↔ 11 ≤ beaconInt := by
  obtain ⟨nonneg, small⟩ := u16
  rw [dwellLimit_eq ⟨nonneg, small⟩]
  unfold allowance
  omega

/-! ### The contexts -/

/-- A context has no limit, or that of its beacon interval. -/
theorem limit_cases (ctx : RxonContext) :
    ctx.limit = none ∨ ctx.limit = some (if ctx.beaconInt = 0 then 100 else ctx.beaconInt) := by
  unfold RxonContext.limit
  dsimp only
  exact (ite_eq_or_eq _ _ _).symm

theorem limit_u16 (u16 : IsU16 ctx.beaconInt) (is : ctx.limit = some beaconInt) : IsU16 beaconInt := by
  rcases limit_cases ctx with none | some
  · rw [none] at is
    cases is
  · rw [some] at is
    obtain rfl := Option.some.inj is
    split
    · exact ⟨by decide, by decide⟩
    · exact u16

theorem limits_u16 (u16 : priv.U16Intervals) (member : beaconInt ∈ limits priv) : IsU16 beaconInt := by
  obtain ⟨ctx, among, is⟩ := List.mem_filterMap.mp member
  simp only [List.mem_cons, List.not_mem_nil, or_false] at among
  rcases among with rfl | rfl
  · exact limit_u16 u16.bss is
  · exact limit_u16 u16.pan is

/-- A context's limit, and its beacon interval. -/
theorem roomy_iff : ctx.roomy ↔ ∀ beaconInt, ctx.limit = some beaconInt → 11 ≤ beaconInt := by
  unfold RxonContext.roomy
  rcases limit_cases ctx with none | some
  · simp [none]
  · by_cases unset : ctx.beaconInt = 0
    · simp [some, unset]
    · simp [some, unset]

theorem limits_roomy : (∀ beaconInt ∈ limits priv, 11 ≤ beaconInt) ↔ priv.bss.roomy ∧ priv.pan.roomy := by
  rw [roomy_iff, roomy_iff]
  unfold limits
  simp only [List.mem_filterMap, List.mem_cons, List.not_mem_nil, or_false]
  constructor
  · intro all
    exact ⟨fun b is => all b ⟨_, .inl rfl, is⟩, fun b is => all b ⟨_, .inr rfl, is⟩⟩
  · rintro ⟨bss, pan⟩ b ⟨ctx, rfl | rfl, is⟩
    · exact bss b is
    · exact pan b is

/-- **Two contexts at most, each in its place.** -/
theorem iwlLimitDwell_le_limit (member : beaconInt ∈ limits priv) :
    iwlLimitDwell priv dwellTime ≤ dwellLimit beaconInt / (limits priv).length := by
  unfold iwlLimitDwell limits at *
  cases bss : priv.bss.limit with
  | none =>
    cases pan : priv.pan.limit with
    | none => simp [bss, pan] at member
    | some second =>
      simp only [List.filterMap_cons, bss, pan, List.filterMap_nil, List.mem_singleton] at member ⊢
      rw [member, List.length_singleton, Nat.div_one]
      exact Nat.min_le_left _ _
  | some first =>
    cases pan : priv.pan.limit with
    | none =>
      simp only [List.filterMap_cons, bss, pan, List.filterMap_nil, List.mem_singleton] at member ⊢
      rw [member, List.length_singleton, Nat.div_one]
      exact Nat.min_le_left _ _
    | some second =>
      simp only [List.filterMap_cons, bss, pan, List.filterMap_nil, List.mem_cons, List.not_mem_nil,
        or_false] at member ⊢
      rcases member with rfl | rfl
      · exact Nat.min_le_left _ _
      · exact Nat.le_trans (Nat.min_le_right _ _) (Nat.min_le_left _ _)

/-! ### The main result -/

/-- **When the dwell time is limited as it should be**: no context with a timing constraint has a beacon interval
from 1 to 10. -/
theorem dwellRight_iff (priv : ScanPriv) (dwellTime : Nat) (u16 : priv.U16Intervals) :
    DwellRight priv dwellTime ↔ priv.bss.roomy ∧ priv.pan.roomy := by
  rw [← limits_roomy]
  constructor
  · intro right beaconInt member
    exact (dwellLimit_exact_iff (limits_u16 u16 member)).mp (right.exact beaconInt member)
  · intro roomy
    have exact : ∀ beaconInt ∈ limits priv, (dwellLimit beaconInt : Int) = allowance beaconInt :=
      fun b member => (dwellLimit_exact_iff (limits_u16 u16 member)).mpr (roomy b member)
    refine ⟨iwlLimitDwell_le priv dwellTime, fun b member => ?_, fun b member => ?_, exact⟩
    · have nonneg : 0 ≤ allowance b := by rw [← exact b member]; exact Int.natCast_nonneg _
      rw [Int.max_eq_right nonneg, ← exact b member, ← Int.natCast_ediv]
      exact Int.ofNat_le.mpr (iwlLimitDwell_le_limit member)
    · have := (limits_u16 u16 member).2
      omega

/-- An associated BSS context with this beacon interval. -/
def associatedWith (beaconInt : Int) : ScanPriv := { scanPriv with bss := ⟨.ess, true, beaconInt⟩ }

theorem dwellRight_iff_100 : DwellRight (associatedWith 100) 120 ↔
    (associatedWith 100).bss.roomy ∧ (associatedWith 100).pan.roomy :=
  dwellRight_iff (associatedWith 100) 120 ⟨⟨by decide, by decide⟩, ⟨by decide, by decide⟩⟩

/-- A beacon interval of 5: the limit is stored as 65530, and the dwell time stays at 120. -/
theorem shortInterval_unlimited : dwellLimit 5 = 65530 ∧ iwlLimitDwell (associatedWith 5) 120 = 120 ∧
    ¬ DwellRight (associatedWith 5) 120 := by
  refine ⟨by decide, by decide, fun right => ?_⟩
  have limited := right.limited 5 (by decide)
  revert limited
  decide

end IntelWifi.Dvm.ScanCommand
