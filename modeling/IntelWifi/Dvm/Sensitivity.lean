/-
**The cached sensitivity table.**

`iwl_init_sensitivity` computes a table from the ranges of the device and sends it, unless it is the one that
`sensitivity_tbl` keeps (and `enhance_sensitivity_tbl`, for a firmware with the larger table). The copy is kept
before the command is sent, whatever becomes of it, and outlives the firmware.

* `computed_injective`: different ranges give different tables.
* `sensitivityCache_iff`: the firmware has the table just computed, after every call whose command did not fail,
  just when no call repeats the ranges of the one before while the firmware has others.
-/

import IntelWifi.Lib.Machine

namespace IntelWifi.Dvm.Sensitivity

/-- `struct iwl_sensitivity_ranges`: the limits that `iwl_init_sensitivity` reads. -/
structure IwlSensitivityRanges where
  nrgThCck : BitVec 16
  nrgThOfdm : BitVec 16
  autoCorrMinOfdm : BitVec 16
  autoCorrMinOfdmMrc : BitVec 16
  autoCorrMinOfdmX1 : BitVec 16
  autoCorrMinOfdmMrcX1 : BitVec 16
  autoCorrMinCckMrc : BitVec 16
  barkerCorrThMin : BitVec 16
  barkerCorrThMinMrc : BitVec 16
  nrgThCca : BitVec 16
  deriving DecidableEq

/-- `struct iwl_sensitivity_data`: what goes into the table. -/
structure IwlSensitivityData where
  autoCorrOfdm : BitVec 32
  autoCorrOfdmMrc : BitVec 32
  autoCorrOfdmX1 : BitVec 32
  autoCorrOfdmMrcX1 : BitVec 32
  autoCorrCck : BitVec 32
  autoCorrCckMrc : BitVec 32
  nrgThCck : BitVec 32
  nrgThOfdm : BitVec 32
  barkerCorrThMin : BitVec 16
  barkerCorrThMinMrc : BitVec 16
  nrgThCca : BitVec 16

def IwlSensitivityData.zero : IwlSensitivityData := ⟨0, 0, 0, 0, 0, 0, 0, 0, 0, 0, 0⟩

/-- A table of `__le16`. -/
abbrev Table := List (BitVec 16)

/-- `HD_TABLE_SIZE`. -/
def hdTableSize : Nat := 11

/-- `ENHANCE_HD_TABLE_SIZE`. -/
def enhanceHdTableSize : Nat := 23

/-- `ENHANCE_HD_TABLE_ENTRIES`. -/
def enhanceHdTableEntries : Nat := enhanceHdTableSize - hdTableSize

/-- `HD_INA_NON_SQUARE_DET_OFDM_INDEX`. -/
def hdInaNonSquareDetOfdmIndex : Nat := 11

/-- `AUTO_CORR_CCK_MIN_VAL_DEF`. -/
def autoCorrCckMinValDef : BitVec 32 := 125#32

/-- `iwl_prepare_legacy_sensitivity_tbl`, at the indices `HD_*_INDEX`. -/
def iwlPrepareLegacySensitivityTbl (data : IwlSensitivityData) (tbl : Table) : Table :=
  let tbl := tbl.set 5 (data.autoCorrOfdm.setWidth 16)
  let tbl := tbl.set 6 (data.autoCorrOfdmMrc.setWidth 16)
  let tbl := tbl.set 2 (data.autoCorrOfdmX1.setWidth 16)
  let tbl := tbl.set 3 (data.autoCorrOfdmMrcX1.setWidth 16)
  let tbl := tbl.set 9 (data.autoCorrCck.setWidth 16)
  let tbl := tbl.set 4 (data.autoCorrCckMrc.setWidth 16)
  let tbl := tbl.set 0 (data.nrgThCck.setWidth 16)
  let tbl := tbl.set 1 (data.nrgThOfdm.setWidth 16)
  let tbl := tbl.set 7 data.barkerCorrThMin
  let tbl := tbl.set 8 data.barkerCorrThMinMrc
  tbl.set 10 data.nrgThCca

/-- The entries from `HD_INA_NON_SQUARE_DET_OFDM_INDEX` to `HD_CCK_NON_SQUARE_DET_INTERCEPT_INDEX`: `HD_*_DATA_V2` or
`HD_*_DATA_V1`. -/
def hdData (hdV2 : Bool) : List (Nat × BitVec 16) :=
  if hdV2 then
    [(11, 1), (12, 1), (13, 1), (14, 600), (15, 40), (16, 486), (17, 45), (18, 853), (19, 60), (20, 476), (21, 99)]
  else
    [(11, 0), (12, 0), (13, 0), (14, 668), (15, 4), (16, 486), (17, 37), (18, 853), (19, 4), (20, 476), (21, 99)]

/-- `priv->fw->enhance_sensitivity_table` and `priv->lib->hd_v2`. -/
structure SensConfig where
  enhanceSensitivityTable : Bool
  hdV2 : Bool

/-- What `struct iwl_priv` keeps of the tables. -/
structure SensPriv where
  sensitivityData : IwlSensitivityData
  sensitivityTbl : Table
  enhanceSensitivityTbl : Table

/-- As it is allocated. -/
def SensPriv.zero : SensPriv := ⟨.zero, List.replicate hdTableSize 0, List.replicate enhanceHdTableEntries 0⟩

/-- What a call did: the table it computed, whether it sent that, and what it returned. -/
structure Written where
  table : Table
  sent : Bool
  ret : Int
  priv : SensPriv

/-- `iwl_sensitivity_write`. `answer` is what `iwl_dvm_send_cmd` returns. -/
def iwlSensitivityWrite (priv : SensPriv) (answer : Int) : Written :=
  let table := iwlPrepareLegacySensitivityTbl priv.sensitivityData (List.replicate hdTableSize 0)
  if table = priv.sensitivityTbl then ⟨table, false, 0, priv⟩
  else ⟨table, true, answer, { priv with sensitivityTbl := table }⟩

/-- `iwl_enhance_sensitivity_write`. -/
def iwlEnhanceSensitivityWrite (config : SensConfig) (priv : SensPriv) (answer : Int) : Written :=
  let table := iwlPrepareLegacySensitivityTbl priv.sensitivityData (List.replicate enhanceHdTableSize 0)
  let table := (hdData config.hdV2).foldl (fun tbl entry => tbl.set entry.1 entry.2) table
  let legacy := table.take hdTableSize
  let enhanced := (table.drop hdInaNonSquareDetOfdmIndex).take enhanceHdTableEntries
  if legacy = priv.sensitivityTbl ∧ enhanced = priv.enhanceSensitivityTbl then ⟨table, false, 0, priv⟩
  else ⟨table, true, answer, { priv with sensitivityTbl := legacy, enhanceSensitivityTbl := enhanced }⟩

/-- `sensitivity_data` as `iwl_init_sensitivity` fills it in. -/
def initialData (ranges : IwlSensitivityRanges) : IwlSensitivityData where
  autoCorrOfdm := ranges.autoCorrMinOfdm.setWidth 32
  autoCorrOfdmMrc := ranges.autoCorrMinOfdmMrc.setWidth 32
  autoCorrOfdmX1 := ranges.autoCorrMinOfdmX1.setWidth 32
  autoCorrOfdmMrcX1 := ranges.autoCorrMinOfdmMrcX1.setWidth 32
  autoCorrCck := autoCorrCckMinValDef
  autoCorrCckMrc := ranges.autoCorrMinCckMrc.setWidth 32
  nrgThCck := ranges.nrgThCck.setWidth 32
  nrgThOfdm := ranges.nrgThOfdm.setWidth 32
  barkerCorrThMin := ranges.barkerCorrThMin
  barkerCorrThMinMrc := ranges.barkerCorrThMinMrc
  nrgThCca := ranges.nrgThCca

/-- `iwl_init_sensitivity`; `none` where it returns before it computes a table. `disabled` is
`IWL_SENSITIVITY_CALIB_DISABLED`, and `ranges` is `hw_params.sens`. -/
def iwlInitSensitivity (config : SensConfig) (priv : SensPriv) (disabled : Bool) (ranges : Option IwlSensitivityRanges)
    (answer : Int) : Option Written :=
  if disabled then none
  else
    match ranges with
    | none => none
    | some ranges =>
      let priv := { priv with sensitivityData := initialData ranges }
      if config.enhanceSensitivityTable then some (iwlEnhanceSensitivityWrite config priv answer)
      else some (iwlSensitivityWrite priv answer)

/-! ### Runs -/

/-- What happens: a call of `iwl_init_sensitivity`, or the firmware is stopped and loaded again, which ends in
`iwl_reset_run_time_calib`. -/
inductive SensAct where
  | init (disabled : Bool) (ranges : Option IwlSensitivityRanges) (answer : Int)
  | reload

/-- The driver, and the table that the running firmware accepted last. -/
structure SensState where
  priv : SensPriv
  firmware : Option Table

def SensState.start : SensState := ⟨.zero, none⟩

/-- What a call did, and what the firmware has then. -/
def SensState.written (state : SensState) (written : Written) : SensState where
  priv := written.priv
  firmware := if written.sent ∧ written.ret = 0 then some written.table else state.firmware

variable (config : SensConfig)

def sensStep (state : SensState) : SensAct → Option SensState
  | .init disabled ranges answer =>
    match iwlInitSensitivity config state.priv disabled ranges answer with
    | none => some state
    | some written => some (state.written written)
  | .reload => some ⟨{ state.priv with sensitivityData := .zero }, none⟩

/-- The firmware has the table that the call computed, unless the command of the call failed; and where none was
sent, it had it before. -/
def SensRight (state : SensState) (act : SensAct) (next : SensState) : Prop :=
  match act with
  | .init disabled ranges answer => ∀ written, iwlInitSensitivity config state.priv disabled ranges answer = some written →
      (¬ (written.sent ∧ written.ret ≠ 0) → next.firmware = some written.table) ∧
      (written.sent = false → state.firmware = some written.table)
  | .reload => True

/-! ### The tables -/

/-- The table of a firmware without the larger one. -/
def legacyTable (ranges : IwlSensitivityRanges) : Table :=
  [ranges.nrgThCck, ranges.nrgThOfdm, ranges.autoCorrMinOfdmX1, ranges.autoCorrMinOfdmMrcX1, ranges.autoCorrMinCckMrc,
    ranges.autoCorrMinOfdm, ranges.autoCorrMinOfdmMrc, ranges.barkerCorrThMin, ranges.barkerCorrThMinMrc, 125#16,
    ranges.nrgThCca]

/-- The entries of the larger one after them, of which the last is not set. -/
def enhancedPart : Table := (hdData config.hdV2).map (·.2) ++ [0]

/-- The table for some ranges. -/
def computed (ranges : IwlSensitivityRanges) : Table :=
  if config.enhanceSensitivityTable then legacyTable ranges ++ enhancedPart config else legacyTable ranges

/-- The driver keeps what it compares a table with. -/
def Caches (priv : SensPriv) (ranges : IwlSensitivityRanges) : Prop :=
  priv.sensitivityTbl = legacyTable ranges ∧
    (config.enhanceSensitivityTable = true → priv.enhanceSensitivityTbl = enhancedPart config)

instance (priv : SensPriv) (ranges : IwlSensitivityRanges) : Decidable (Caches config priv ranges) :=
  inferInstanceAs (Decidable (_ ∧ _))

variable {config} {priv : SensPriv} {ranges other : IwlSensitivityRanges} {answer : Int}

theorem prepare_eq (ranges : IwlSensitivityRanges) (rest : Table) :
    iwlPrepareLegacySensitivityTbl (initialData ranges) (List.replicate hdTableSize 0 ++ rest) =
      legacyTable ranges ++ rest := by
  simp [iwlPrepareLegacySensitivityTbl, initialData, legacyTable, hdTableSize, autoCorrCckMinValDef,
    List.replicate_succ, BitVec.setWidth_setWidth_of_le]

theorem enhanced_eq (ranges : IwlSensitivityRanges) :
    (hdData config.hdV2).foldl (fun tbl entry => tbl.set entry.1 entry.2)
      (legacyTable ranges ++ List.replicate enhanceHdTableEntries 0) = legacyTable ranges ++ enhancedPart config := by
  cases hdV2 : config.hdV2 <;> simp [hdData, enhancedPart, hdV2, legacyTable, enhanceHdTableEntries, enhanceHdTableSize,
    hdTableSize, List.replicate_succ]

/-- **Different ranges give different tables.** -/
theorem legacyTable_injective : Function.Injective legacyTable := by
  intro ranges other same
  cases ranges
  cases other
  simp only [legacyTable, List.cons.injEq] at same
  simp [same]

theorem computed_injective : Function.Injective (computed config) := by
  intro ranges other same
  refine legacyTable_injective ?_
  unfold computed at same
  split at same
  · exact List.append_cancel_right same
  · exact same

/-- The driver compares with the table of no other ranges. -/
theorem Caches.unique (cached : Caches config priv ranges) (also : Caches config priv other) : ranges = other :=
  legacyTable_injective (cached.1.symm.trans also.1)

/-- No table is all zero. -/
theorem not_caches_zero (data : IwlSensitivityData) (ranges : IwlSensitivityRanges) :
    ¬ Caches config { SensPriv.zero with sensitivityData := data } ranges := by
  rintro ⟨same, _⟩
  have entry := congrArg (fun tbl : Table => tbl[9]?) same
  simp [SensPriv.zero, hdTableSize, legacyTable, List.replicate_succ] at entry

/-- The parts of the larger table that are compared. -/
theorem enhanced_parts (ranges : IwlSensitivityRanges) :
    (legacyTable ranges ++ enhancedPart config).take hdTableSize = legacyTable ranges ∧
      ((legacyTable ranges ++ enhancedPart config).drop hdInaNonSquareDetOfdmIndex).take enhanceHdTableEntries =
        enhancedPart config := by
  have entries : (enhancedPart config).length = enhanceHdTableEntries := by
    cases hdV2 : config.hdV2 <;> simp [enhancedPart, hdV2, hdData, enhanceHdTableEntries, enhanceHdTableSize, hdTableSize]
  constructor
  · exact List.take_left' rfl
  · show ((legacyTable ranges ++ enhancedPart config).drop (legacyTable ranges).length).take _ = _
    rw [List.drop_left, ← entries, List.take_length]

/-- A call computes the table of the ranges, sends it unless it is cached, and caches it. -/
structure Writes (config : SensConfig) (priv : SensPriv) (ranges : IwlSensitivityRanges) (answer : Int)
    (written : Written) : Prop where
  table : written.table = computed config ranges
  sent : written.sent = !decide (Caches config priv ranges)
  ret : written.ret = if Caches config priv ranges then 0 else answer
  caches : Caches config written.priv ranges

theorem sensitivityWrite_writes (legacy : config.enhanceSensitivityTable = false)
    (data : priv.sensitivityData = initialData ranges) :
    Writes config priv ranges answer (iwlSensitivityWrite priv answer) := by
  have table : iwlPrepareLegacySensitivityTbl priv.sensitivityData (List.replicate hdTableSize 0) =
      legacyTable ranges := by simpa [data] using prepare_eq ranges []
  have iff : Caches config priv ranges ↔ legacyTable ranges = priv.sensitivityTbl := by
    simp [Caches, legacy, eq_comm]
  unfold iwlSensitivityWrite
  rw [table]
  by_cases cached : legacyTable ranges = priv.sensitivityTbl
  · have holds := iff.mpr cached
    rw [if_pos cached]
    exact ⟨by simp [computed, legacy], by simp [holds], by simp [holds], holds⟩
  · have fails := mt iff.mp cached
    rw [if_neg cached]
    exact ⟨by simp [computed, legacy], by simp [fails], by simp [fails], by simp [Caches, legacy]⟩

theorem enhanceSensitivityWrite_writes (enhanced : config.enhanceSensitivityTable = true)
    (data : priv.sensitivityData = initialData ranges) :
    Writes config priv ranges answer (iwlEnhanceSensitivityWrite config priv answer) := by
  have table : iwlPrepareLegacySensitivityTbl priv.sensitivityData (List.replicate enhanceHdTableSize 0) =
      legacyTable ranges ++ List.replicate enhanceHdTableEntries 0 :=
    data ▸ prepare_eq ranges (List.replicate enhanceHdTableEntries 0)
  have iff : Caches config priv ranges ↔
      legacyTable ranges = priv.sensitivityTbl ∧ enhancedPart config = priv.enhanceSensitivityTbl := by
    simp [Caches, enhanced, eq_comm]
  unfold iwlEnhanceSensitivityWrite
  dsimp only
  rw [table, enhanced_eq, (enhanced_parts ranges).1, (enhanced_parts ranges).2]
  by_cases cached : legacyTable ranges = priv.sensitivityTbl ∧ enhancedPart config = priv.enhanceSensitivityTbl
  · have holds := iff.mpr cached
    rw [if_pos cached]
    exact ⟨by simp [computed, enhanced], by simp [holds], by simp [holds], holds⟩
  · have fails := mt iff.mp cached
    rw [if_neg cached]
    exact ⟨by simp [computed, enhanced], by simp [fails], by simp [fails], by simp [Caches]⟩

/-- **What a call does**, where it is not disabled. -/
theorem init_writes (priv : SensPriv) (ranges : IwlSensitivityRanges) (answer : Int) :
    ∃ written, iwlInitSensitivity config priv false (some ranges) answer = some written ∧
      Writes config priv ranges answer written := by
  cases enhanced : config.enhanceSensitivityTable with
  | false =>
    have writes := @sensitivityWrite_writes _ { priv with sensitivityData := initialData ranges } ranges answer
      enhanced rfl
    exact ⟨_, by simp [iwlInitSensitivity, enhanced], writes.table, writes.sent, writes.ret, writes.caches⟩
  | true =>
    have writes := @enhanceSensitivityWrite_writes _ { priv with sensitivityData := initialData ranges } ranges answer
      enhanced rfl
    exact ⟨_, by simp [iwlInitSensitivity, enhanced], writes.table, writes.sent, writes.ret, writes.caches⟩

theorem init_none {disabled : Bool} {ranges : Option IwlSensitivityRanges} (idle : disabled = true ∨ ranges = none) :
    iwlInitSensitivity config priv disabled ranges answer = none := by
  rcases idle with rfl | rfl
  · rfl
  · cases disabled <;> rfl

/-! ### Which calls repeat -/

/-- What happened so far: the ranges of the last call, and the ranges whose table the running firmware accepted
last. -/
structure History where
  last : Option IwlSensitivityRanges
  held : Option IwlSensitivityRanges

def History.start : History := ⟨none, none⟩

/-- A repeated call changes nothing; another one is accepted or not. -/
def History.next (history : History) : SensAct → History
  | .init false (some ranges) answer =>
    if history.last = some ranges then history
    else ⟨some ranges, if answer = 0 then some ranges else history.held⟩
  | .init _ _ _ => history
  | .reload => { history with held := none }

/-- A call that repeats the ranges of the last one finds their table in the firmware. -/
def History.fine (history : History) : SensAct → Bool
  | .init false (some ranges) _ => history.last != some ranges || history.held == some ranges
  | .init _ _ _ | .reload => true

/-- All calls do. -/
def repeatsFine : History → List SensAct → Bool
  | _, [] => true
  | history, act :: later => history.fine act && repeatsFine (history.next act) later

/-- The driver caches the table of the last call, and the firmware has the one it accepted. -/
structure Tracks (config : SensConfig) (history : History) (state : SensState) : Prop where
  cached : ∀ ranges, Caches config state.priv ranges ↔ history.last = some ranges
  firmware : state.firmware = history.held.map (computed config)

variable {history : History} {state next : SensState} {act : SensAct}

theorem tracks_start : Tracks config .start .start where
  cached := fun ranges => iff_of_false (not_caches_zero .zero ranges) (nomatch ·)
  firmware := rfl

/-- A call that repeats the ranges of the last one. -/
theorem Tracks.repeated (tracks : Tracks config history state) {written : Written}
    (writes : Writes config state.priv ranges answer written) (again : history.last = some ranges) :
    Tracks config history (state.written written) ∧ written.sent = false ∧
      (state.firmware = some written.table ↔ history.held = some ranges) := by
  have cached := (tracks.cached ranges).mpr again
  have sent : written.sent = false := by simp [writes.sent, cached]
  refine ⟨⟨fun other => ?_, ?_⟩, sent, ?_⟩
  · rw [again, Option.some.injEq]
    constructor
    · exact fun also => writes.caches.unique also
    · rintro rfl
      exact writes.caches
  · simp [SensState.written, sent, tracks.firmware]
  · rw [tracks.firmware, writes.table]
    cases history.held with
    | none => simp
    | some held => simp [computed_injective.eq_iff]

/-- A call with other ranges. -/
theorem Tracks.changed (tracks : Tracks config history state) {written : Written}
    (writes : Writes config state.priv ranges answer written) (differs : history.last ≠ some ranges) :
    Tracks config ⟨some ranges, if answer = 0 then some ranges else history.held⟩ (state.written written) ∧
      written.sent = true ∧ written.ret = answer := by
  have fresh := mt (tracks.cached ranges).mp differs
  have sent : written.sent = true := by simp [writes.sent, fresh]
  have ret : written.ret = answer := by simp [writes.ret, fresh]
  refine ⟨⟨fun other => ?_, ?_⟩, sent, ret⟩
  · rw [Option.some.injEq]
    constructor
    · exact fun also => writes.caches.unique also
    · rintro rfl
      exact writes.caches
  · by_cases accepted : answer = 0
    · simp [SensState.written, sent, ret, accepted, writes.table]
    · simp [SensState.written, sent, ret, accepted, tracks.firmware]

/-- **One step**: the history says what is kept, and whether the step is right. -/
theorem Tracks.step (tracks : Tracks config history state) (stepped : sensStep config state act = some next) :
    Tracks config (history.next act) next ∧ (SensRight config state act next ↔ history.fine act = true) := by
  have idle : ∀ {disabled ranges answer}, disabled = true ∨ ranges = none →
      sensStep config state (.init disabled ranges answer) = some next →
      next = state ∧ SensRight config state (.init disabled ranges answer) next := by
    intro disabled ranges answer none ran
    rw [sensStep, init_none none] at ran
    refine ⟨(Option.some.inj ran).symm, fun written made => ?_⟩
    rw [init_none none] at made
    cases made
  match act with
  | .reload =>
    obtain rfl := Option.some.inj stepped
    exact ⟨⟨tracks.cached, rfl⟩, iff_of_true trivial rfl⟩
  | .init true ranges answer =>
    obtain ⟨rfl, right⟩ := idle (.inl rfl) stepped
    exact ⟨tracks, iff_of_true right rfl⟩
  | .init false none answer =>
    obtain ⟨rfl, right⟩ := idle (.inr rfl) stepped
    exact ⟨tracks, iff_of_true right rfl⟩
  | .init false (some ranges) answer =>
    obtain ⟨written, made, writes⟩ := @init_writes config state.priv ranges answer
    rw [sensStep, made] at stepped
    obtain rfl := Option.some.inj stepped
    have right : SensRight config state (.init false (some ranges) answer) (state.written written) ↔
        (¬ (written.sent ∧ written.ret ≠ 0) → (state.written written).firmware = some written.table) ∧
          (written.sent = false → state.firmware = some written.table) :=
      ⟨fun all => all written made, fun holds other also => Option.some.inj (made.symm.trans also) ▸ holds⟩
    rw [right, History.next, History.fine]
    by_cases again : history.last = some ranges
    · obtain ⟨kept, sent, held⟩ := tracks.repeated writes again
      rw [if_pos again]
      refine ⟨kept, ?_⟩
      simp [SensState.written, sent, again, held]
    · obtain ⟨kept, sent, ret⟩ := tracks.changed writes again
      rw [if_neg again]
      refine ⟨kept, ?_⟩
      simp only [SensState.written, sent, ret, again, bne_iff_ne, ne_eq, not_false_eq_true, Bool.or_eq_true, true_or]
      by_cases accepted : answer = 0 <;> simp [accepted]

variable (config) in
theorem sensStep_total (state : SensState) (act : SensAct) : ∃ next, sensStep config state act = some next := by
  cases act with
  | init disabled ranges answer =>
    rw [sensStep]
    split
    · exact ⟨_, rfl⟩
    · exact ⟨_, rfl⟩
  | reload => exact ⟨_, rfl⟩

/-- Runs from any state that the history is right about. -/
theorem Tracks.run (tracks : Tracks config history state) (acts : List SensAct) :
    Machine.Throughout (sensStep config) (SensRight config) state acts ↔ repeatsFine history acts = true := by
  induction acts generalizing state history with
  | nil => exact ⟨fun _ => rfl, fun _ => trivial⟩
  | cons act later ih =>
    obtain ⟨next, stepped⟩ := sensStep_total config state act
    obtain ⟨kept, right⟩ := tracks.step stepped
    rw [repeatsFine, Bool.and_eq_true, ← right, ← ih kept, Machine.Throughout]
    constructor
    · exact fun all => all next stepped
    · intro both other also
      rw [stepped] at also
      obtain rfl := Option.some.inj also
      exact both

/-- **The firmware has the table just computed**, in every run of calls and reloads and for both kinds of table, just
when every call with the ranges of the call before finds that the running firmware accepted their table last. -/
theorem sensitivityCache_iff (config : SensConfig) (acts : List SensAct) :
    Machine.Throughout (sensStep config) (SensRight config) .start acts ↔ repeatsFine .start acts = true :=
  tracks_start.run acts

/-- Ranges of a device. -/
def someRanges : IwlSensitivityRanges := ⟨95, 95, 120, 240, 120, 240, 200, 190, 390, 62⟩

/-- The same call after the firmware was loaded again, or after its command failed, sends nothing. -/
theorem sensitivityCache_stale :
    ¬ Machine.Throughout (sensStep ⟨false, false⟩) (SensRight ⟨false, false⟩) .start
      [.init false (some someRanges) 0, .reload, .init false (some someRanges) 0] ∧
    ¬ Machine.Throughout (sensStep ⟨true, true⟩) (SensRight ⟨true, true⟩) .start
      [.init false (some someRanges) (-5), .init false (some someRanges) 0] := by
  constructor
  · rw [tracks_start.run]
    decide
  · rw [tracks_start.run]
    decide

end IntelWifi.Dvm.Sensitivity
