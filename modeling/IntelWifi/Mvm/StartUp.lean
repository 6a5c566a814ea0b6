/-
**Starting the firmware of mvm.**

`iwl_run_init_mvm_ucode`, `iwl_run_unified_mvm_ucode` and `iwl_mvm_load_rt_fw` start the firmware, send it the
first commands and wait for it. Where the first two were to be called with `mvm->mutex` held, they take it, and
nothing gives it back. The calls of `iwl_init_notification_wait` for `alive_wait` and `calib_wait` are commented
out: these entries of the stack are slept on and removed as they are.

A program of `MvmM` stops where it waits for a mutex that is held, where the first entry of an empty list is
removed, or where the version of an NVM that was never read is looked at. What the steps come to is given. Only
statements read `inited`, `slept` and `failures`: the entries that `iwl_init_notification_wait` has put into the
list since their function began, those that were slept on, and the ends of `iwl_mvm_load_ucode_wait_alive` with an
error.

* `startUp_tidy`: what does hold when one of the three returns.
* `startUp_iff`: no call that takes the mutex meets its discipline.
-/

import IntelWifi.Fw.WaitRemoval
import IntelWifi.Lib.Triples

namespace IntelWifi.Mvm.StartUp

open IntelWifi.NotifWait IntelWifi.Triples

/-! ### The driver -/

/-- An end of `iwl_mvm_load_ucode_wait_alive` with an error: the image before and after it, and
`IWL_FWRT_STATUS_WAIT_ALIVE`. -/
structure AliveFailure where
  before : Nat
  after : Nat
  waitAlive : Bool
  deriving DecidableEq

/-- The part of `struct iwl_mvm` that is used. `nvmData` says whether there is any. -/
structure IwlMvm (Entry : Type) where
  mutex : Bool
  notifWait : NotifWaitData Entry
  calibrating : Bool
  curFwImg : Nat
  waitAlive : Bool
  firmwareRunning : Bool
  nvmData : Bool
  inited : List Entry
  slept : List (Entry × Bool)
  failures : List AliveFailure

/-- What is known of the device and the firmware, and the module parameter `init_dbg`. -/
structure MvmCfg where
  unified : Bool
  confUsniffer : Bool
  usnifferUnified : Bool
  before8000 : Bool
  initDbg : Bool

/-- Why a call does not return. -/
inductive Stop where
  /-- It waits for `mvm->mutex`, which its own thread holds. -/
  | blocked
  /-- It follows a null pointer: the first entry of an empty list, or `mvm->nvm_data`. -/
  | faulted
  deriving DecidableEq

abbrev MvmM (Entry α : Type) := StateT (IwlMvm Entry) (Except Stop) α

/-- The entries on the stack. -/
structure Frames (Entry : Type) where
  initWait : Entry
  aliveWait : Entry
  calibWait : Entry

/-- `IWL_UCODE_REGULAR` and `IWL_UCODE_REGULAR_USNIFFER`. -/
def iwlUcodeRegular : Nat := 0
def iwlUcodeRegularUsniffer : Nat := 3

/-- `INIT_COMPLETE_NOTIF`. -/
def initCompleteNotif : Nat := 0x4

/-- `IWL_MVM_PARSE_NVM`. -/
def iwlMvmParseNvm : Bool := false

/-- `-ENOMEM`. -/
def enomem : UcodeError := .code (-12)

/-- `iwl_get_ucode_image`. -/
def iwlGetUcodeImage (ucodeType : Nat) : Option Nat := if iwlUcodeTypeMax ≤ ucodeType then none else some ucodeType

section Calls

variable {Entry : Type} [DecidableEq Entry]

/-! ### Steps -/

/-- `IOLockLock(mvm->mutex)`. -/
def ioLockLock : MvmM Entry Unit := fun mvm =>
  if mvm.mutex then .error .blocked else .ok ((), { mvm with mutex := true })

/-- A function begins that has this entry on its stack. -/
def enter (w : Entry) : MvmM Entry Unit :=
  modify fun mvm => { mvm with inited := mvm.inited.filter (· ≠ w) }

/-- `iwl_init_notification_wait`. -/
def initNotificationWait (w : Entry) (cmds : List Nat) : MvmM Entry Unit :=
  modify fun mvm => { mvm with
    notifWait := iwlInitNotificationWait mvm.notifWait w cmds true
    inited := w :: mvm.inited }

/-- `iwl_remove_notification`. -/
def removeNotification : MvmM Entry Unit := fun mvm =>
  match iwlRemoveNotification mvm.notifWait with
  | some notifWait => .ok ((), { mvm with notifWait := notifWait })
  | none => .error .faulted

/-- `iwl_wait_notification`. -/
def waitNotification (w : Entry) (slept : Slept Entry) : MvmM Entry (Option UcodeError) := fun mvm =>
  match iwlWaitNotification mvm.notifWait w slept with
  | some (result, notifWait) =>
    .ok (result.error, { mvm with
      notifWait := notifWait
      slept := mvm.slept ++ [(w, decide (w ∈ mvm.inited))] })
  | none => .error .faulted

/-- `iwl_fw_set_current_image`. -/
def setCurrentImage (ucodeType : Nat) : MvmM Entry Unit := modify ({ · with curFwImg := ucodeType })

/-- `iwl_mvm_load_ucode_wait_alive` ends with an error. -/
def failed (oldType : Nat) (error : UcodeError) : MvmM Entry (Option UcodeError) := do
  modify fun mvm => { mvm with failures := mvm.failures ++ [⟨oldType, mvm.curFwImg, mvm.waitAlive⟩] }
  return some error

/-! ### Loading -/

/-- What happens while the alive notification is waited for; `valid` is `alive_data.valid`. -/
structure LoadOutcome (Entry : Type) where
  startFw : Option UcodeError
  slept : Slept Entry
  valid : Bool

/-- The image that `iwl_mvm_load_ucode_wait_alive` starts. -/
def ucodeImage (cfg : MvmCfg) (ucodeType : Nat) : Option Nat :=
  if ucodeType = iwlUcodeRegular ∧ cfg.confUsniffer = true ∧ cfg.usnifferUnified = false then
    iwlGetUcodeImage iwlUcodeRegularUsniffer
  else iwlGetUcodeImage ucodeType

/-- `iwl_mvm_load_ucode_wait_alive`. -/
def iwlMvmLoadUcodeWaitAlive (cfg : MvmCfg) (frames : Frames Entry) (ucodeType : Nat)
    (outcome : LoadOutcome Entry) : MvmM Entry (Option UcodeError) := do
  enter frames.aliveWait
  let oldType := (← get).curFwImg
  modify ({ · with waitAlive := true })
  match ucodeImage cfg ucodeType with
  | none => failed oldType .einval
  | some _ => do
    setCurrentImage ucodeType
    modify ({ · with firmwareRunning := false })
    match outcome.startFw with
    | some error => do
      setCurrentImage oldType
      removeNotification
      failed oldType error
    | none => do
      match ← waitNotification frames.aliveWait outcome.slept with
      | some error => do
        setCurrentImage oldType
        failed oldType error
      | none =>
        if outcome.valid then do
          modify ({ · with firmwareRunning := true, waitAlive := false })
          return none
        else do
          setCurrentImage oldType
          failed oldType .eio

/-! ### The unified image -/

/-- What the steps of `iwl_run_unified_mvm_ucode` come to. -/
structure UnifiedOutcome (Entry : Type) where
  load : LoadOutcome Entry
  initCfg : Option UcodeError
  nvmInit : Option UcodeError
  nvmComplete : Option UcodeError
  slept : Slept Entry
  getNvm : Option UcodeError

/-- The first error of the commands and of `iwl_nvm_init`, which has `goto error`. -/
def UnifiedOutcome.sent (outcome : UnifiedOutcome Entry) (readNvm : Bool) : Option UcodeError :=
  outcome.initCfg.or ((if iwlMvmParseNvm && readNvm then outcome.nvmInit else none).or outcome.nvmComplete)

/-- `iwl_run_unified_mvm_ucode`. -/
def iwlRunUnifiedMvmUcode (cfg : MvmCfg) (frames : Frames Entry) (readNvm : Bool)
    (outcome : UnifiedOutcome Entry) : MvmM Entry (Option UcodeError) := do
  enter frames.initWait
  ioLockLock
  initNotificationWait frames.initWait [initCompleteNotif]
  let ret ← iwlMvmLoadUcodeWaitAlive cfg frames iwlUcodeRegular outcome.load
  match ret.or (outcome.sent readNvm) with
  | some error => do
    removeNotification
    return some error
  | none => do
    match ← waitNotification frames.initWait outcome.slept with
    | some error => return some error
    | none =>
      if !iwlMvmParseNvm && readNvm then do
        modify ({ · with nvmData := outcome.getNvm.isNone })
        return outcome.getNvm
      else return none

/-! ### The init image -/

/-- What the steps of `iwl_run_init_mvm_ucode` come to; `killed` and `killedLater` are the two answers of
`iwl_mvm_is_radio_hw_killed`, and `zalloc` that of the allocation. -/
structure InitOutcome (Entry : Type) where
  unified : UnifiedOutcome Entry
  load : LoadOutcome Entry
  btInit : Option UcodeError
  nvmInit : Option UcodeError
  killed : Bool
  txAnt : Option UcodeError
  phyCfg : Option UcodeError
  slept : Slept Entry
  killedLater : Bool
  zalloc : Bool

/-- The two labels of `iwl_run_init_mvm_ucode`, with `ret`. -/
inductive InitExit where
  | removeNotif (ret : Option UcodeError)
  | out (ret : Option UcodeError)

/-- The calibration, from `mvm->calibrating = true`. -/
def calibrate (frames : Frames Entry) (outcome : InitOutcome Entry) : MvmM Entry InitExit := do
  modify ({ · with calibrating := true })
  match outcome.txAnt.or outcome.phyCfg with
  | some error => return .removeNotif (some error)
  | none => do
    match ← waitNotification frames.calibWait outcome.slept with
    | none => return .out none
    | some error => return .out (if outcome.killedLater then none else some error)

/-- `iwl_nvm_check_version`, which only a warning looks at. It reads `mvm->nvm_data`. -/
def iwlNvmCheckVersion : MvmM Entry Unit := fun mvm =>
  if mvm.nvmData then .ok ((), mvm) else .error .faulted

/-- `iwl_run_init_mvm_ucode`, up to its labels. -/
def initSteps (cfg : MvmCfg) (frames : Frames Entry) (readNvm : Bool) (outcome : InitOutcome Entry) :
    MvmM Entry InitExit := do
  let ret ← iwlMvmLoadUcodeWaitAlive cfg frames iwlUcodeInit outcome.load
  match ret.or (if cfg.before8000 then outcome.btInit else none) with
  | some error => return .removeNotif (some error)
  | none =>
    match if readNvm then outcome.nvmInit else none with
    | some error => return .removeNotif (some error)
    | none => do
      modify fun mvm => { mvm with nvmData := mvm.nvmData || readNvm }
      iwlNvmCheckVersion
      if outcome.killed then return .removeNotif none else calibrate frames outcome

/-- `iwl_run_init_mvm_ucode`, from `out`. -/
def initOut (cfg : MvmCfg) (zalloc : Bool) (ret : Option UcodeError) : MvmM Entry (Option UcodeError) := do
  modify ({ · with calibrating := false })
  if cfg.initDbg && !(← get).nvmData then do
    modify ({ · with nvmData := zalloc })
    return if zalloc then ret else some enomem
  else return ret

/-- `iwl_run_init_mvm_ucode`. -/
def iwlRunInitMvmUcode (cfg : MvmCfg) (frames : Frames Entry) (readNvm : Bool) (outcome : InitOutcome Entry) :
    MvmM Entry (Option UcodeError) :=
  if cfg.unified then iwlRunUnifiedMvmUcode cfg frames true outcome.unified
  else do
    enter frames.calibWait
    ioLockLock
    if (← get).calibrating then return none
    else do
      match ← initSteps cfg frames readNvm outcome with
      | .removeNotif ret => do
        removeNotification
        initOut cfg outcome.zalloc ret
      | .out ret => initOut cfg outcome.zalloc ret

/-! ### The runtime image -/

/-- What the steps of `iwl_mvm_load_rt_fw` come to. -/
structure RtOutcome (Entry : Type) where
  unified : UnifiedOutcome Entry
  init : InitOutcome Entry
  startHw : Option UcodeError
  load : LoadOutcome Entry
  initPaging : Option UcodeError

/-- `iwl_mvm_load_rt_fw`. -/
def iwlMvmLoadRtFw (cfg : MvmCfg) (frames : Frames Entry) (outcome : RtOutcome Entry) :
    MvmM Entry (Option UcodeError) :=
  if cfg.unified then iwlRunUnifiedMvmUcode cfg frames false outcome.unified
  else do
    match ← iwlRunInitMvmUcode cfg frames false outcome.init with
    | some error => return if cfg.initDbg then none else some error
    | none =>
      match outcome.startHw with
      | some error => return some error
      | none => do
        match ← iwlMvmLoadUcodeWaitAlive cfg frames iwlUcodeRegular outcome.load with
        | some error => return some error
        | none => return outcome.initPaging

/-- A call of one of the three. -/
inductive Call (Entry : Type) where
  | runInit (readNvm : Bool) (outcome : InitOutcome Entry)
  | runUnified (readNvm : Bool) (outcome : UnifiedOutcome Entry)
  | loadRt (outcome : RtOutcome Entry)

def Call.program (cfg : MvmCfg) (frames : Frames Entry) : Call Entry → MvmM Entry (Option UcodeError)
  | .runInit readNvm outcome => iwlRunInitMvmUcode cfg frames readNvm outcome
  | .runUnified readNvm outcome => iwlRunUnifiedMvmUcode cfg frames readNvm outcome
  | .loadRt outcome => iwlMvmLoadRtFw cfg frames outcome

/-! ### The property -/

/-- Nothing is recorded yet. -/
def IwlMvm.fresh (mvm : IwlMvm Entry) : IwlMvm Entry := { mvm with inited := [], slept := [], failures := [] }

/-- **The discipline** of a call that returns. -/
structure Disciplined (before after : IwlMvm Entry) : Prop where
  mutex : after.mutex = before.mutex
  waits : after.notifWait.notifWaits = before.notifWait.notifWaits
  slept : ∀ wait ∈ after.slept, wait.2 = true
  calibrating : after.calibrating = false
  image : ∀ failure ∈ after.failures, failure.after = failure.before
  flag : ∀ failure ∈ after.failures, failure.waitAlive = false

/-- The call does not fault, and when it returns it was disciplined. -/
def Meets (cfg : MvmCfg) (frames : Frames Entry) (call : Call Entry) (mvm : IwlMvm Entry) : Prop :=
  Ends (fun _ after => Disciplined mvm after) (· = .blocked) ((call.program cfg frames).run mvm.fresh)

end Calls

/-! ### What the steps keep -/

section Steps

variable {Entry : Type} {frames : Frames Entry} {calibrating : Bool} {mvm : IwlMvm Entry}

/-- Behind `IOLockLock`: the mutex is held, nothing but `init_wait` was put into the list or slept on after it was,
and each failure has restored the image and left the flag. -/
structure Tidy (frames : Frames Entry) (calibrating : Bool) (mvm : IwlMvm Entry) : Prop where
  mutex : mvm.mutex = true
  calibrates : mvm.calibrating = calibrating
  inited : ∀ w ∈ mvm.inited, w = frames.initWait
  slept : ∀ wait ∈ mvm.slept, wait.2 = true → wait.1 = frames.initWait
  failures : ∀ failure ∈ mvm.failures, failure.after = failure.before ∧ failure.waitAlive = true

/-- Only the list of waits is changed. -/
theorem removeNotification_keeps {P : IwlMvm Entry → Prop}
    (keeps : ∀ mvm notifWait, P mvm → P { mvm with notifWait := notifWait }) :
    Triple P removeNotification (fun _ => P) (· = .faulted) := by
  intro mvm holds
  show Ends _ _ (removeNotification mvm)
  unfold removeNotification
  cases iwlRemoveNotification mvm.notifWait with
  | some notifWait => exact keeps mvm notifWait holds
  | none => rfl

theorem Tidy.removed (tidy : Tidy frames calibrating mvm) (notifWait : NotifWaitData Entry) :
    Tidy frames calibrating { mvm with notifWait := notifWait } :=
  { tidy with }

theorem removeNotification_tidy :
    Triple (Tidy frames calibrating) removeNotification (fun _ => Tidy frames calibrating) (· = .faulted) :=
  removeNotification_keeps fun _ notifWait tidy => tidy.removed notifWait

/-- A failure with the image restored. -/
theorem failed_tidy (oldType : Nat) (error : UcodeError) :
    Triple (fun mvm => Tidy frames calibrating mvm ∧ mvm.waitAlive = true ∧ mvm.curFwImg = oldType)
      (failed oldType error) (fun _ => Tidy frames calibrating) (· = .faulted) := by
  refine .bind (fun _ => Tidy frames calibrating) (.modify ?_) fun _ => .pure _ fun _ tidy => tidy
  rintro mvm ⟨tidy, flag, image⟩
  refine ⟨tidy.mutex, tidy.calibrates, tidy.inited, tidy.slept, fun failure member => ?_⟩
  rcases List.mem_append.mp member with before | last
  · exact tidy.failures failure before
  · obtain rfl := List.mem_singleton.mp last
    exact ⟨image, flag⟩

/-- The image is restored, and this is a failure. -/
theorem restored_tidy (oldType : Nat) (error : UcodeError) :
    Triple (fun mvm => Tidy frames calibrating mvm ∧ mvm.waitAlive = true)
      (setCurrentImage oldType >>= fun _ => failed oldType error) (fun _ => Tidy frames calibrating)
      (· = .faulted) := by
  refine .bind (fun _ mvm => Tidy frames calibrating mvm ∧ mvm.waitAlive = true ∧ mvm.curFwImg = oldType)
    (.modify ?_) fun _ => failed_tidy oldType error
  rintro mvm ⟨tidy, flag⟩
  exact ⟨{ tidy with }, flag, rfl⟩

variable [DecidableEq Entry]

/-- Only the list of waits and the record of sleeps are changed. -/
theorem waitNotification_keeps {P : IwlMvm Entry → Prop} (w : Entry) (slept : Slept Entry)
    (keeps : ∀ mvm notifWait, P mvm → P { mvm with
      notifWait := notifWait, slept := mvm.slept ++ [(w, decide (w ∈ mvm.inited))] }) :
    Triple P (waitNotification w slept) (fun _ => P) (· = .faulted) := by
  intro mvm holds
  show Ends _ _ (waitNotification w slept mvm)
  unfold waitNotification
  cases iwlWaitNotification mvm.notifWait w slept with
  | some waited => exact keeps mvm waited.2 holds
  | none => rfl

/-- A sleep is recorded as one on an initialised entry only where this is `init_wait`. -/
theorem Tidy.waited (tidy : Tidy frames calibrating mvm) (notifWait : NotifWaitData Entry) (w : Entry) :
    Tidy frames calibrating { mvm with
      notifWait := notifWait, slept := mvm.slept ++ [(w, decide (w ∈ mvm.inited))] } := by
  refine ⟨tidy.mutex, tidy.calibrates, tidy.inited, fun wait member ready => ?_, tidy.failures⟩
  rcases List.mem_append.mp member with before | last
  · exact tidy.slept wait before ready
  · obtain rfl := List.mem_singleton.mp last
    exact tidy.inited w (of_decide_eq_true ready)

theorem waitNotification_tidy (w : Entry) (slept : Slept Entry) :
    Triple (Tidy frames calibrating) (waitNotification w slept) (fun _ => Tidy frames calibrating) (· = .faulted) :=
  waitNotification_keeps w slept fun _ notifWait tidy => tidy.waited notifWait w

theorem enter_tidy (w : Entry) :
    Triple (Tidy frames calibrating) (enter w) (fun _ => Tidy frames calibrating) (· = Stop.faulted) :=
  .modify fun _ tidy => ⟨tidy.mutex, tidy.calibrates, fun w member => tidy.inited w (List.mem_of_mem_filter member),
    tidy.slept, tidy.failures⟩

/-- **Loading**: each way out with an error has restored the image, and the flag is left. -/
theorem load_tidy (cfg : MvmCfg) (ucodeType : Nat) (outcome : LoadOutcome Entry) :
    Triple (Tidy frames calibrating) (iwlMvmLoadUcodeWaitAlive cfg frames ucodeType outcome)
      (fun _ => Tidy frames calibrating) (· = .faulted) := by
  unfold iwlMvmLoadUcodeWaitAlive
  refine .bind _ (enter_tidy frames.aliveWait) fun _ => ?_
  refine .bind (fun old mvm => Tidy frames calibrating mvm ∧ mvm.curFwImg = old.curFwImg)
    (.get fun mvm tidy => ⟨tidy, rfl⟩) fun old => ?_
  refine .bind (fun _ mvm => Tidy frames calibrating mvm ∧ mvm.waitAlive = true ∧ mvm.curFwImg = old.curFwImg)
    (.modify ?_) fun _ => ?_
  · rintro mvm ⟨tidy, image⟩
    exact ⟨{ tidy with }, rfl, image⟩
  cases ucodeImage cfg ucodeType with
  | none => exact failed_tidy _ _
  | some _ =>
    -- from here on the image is the new one
    refine .bind (fun _ mvm => Tidy frames calibrating mvm ∧ mvm.waitAlive = true) (.modify ?_) fun _ => ?_
    · rintro mvm ⟨tidy, flag, -⟩
      exact ⟨{ tidy with }, flag⟩
    refine .bind (fun _ mvm => Tidy frames calibrating mvm ∧ mvm.waitAlive = true) (.modify ?_) fun _ => ?_
    · rintro mvm ⟨tidy, flag⟩
      exact ⟨{ tidy with }, flag⟩
    cases outcome.startFw with
    | some error =>
      refine .bind (fun _ mvm => Tidy frames calibrating mvm ∧ mvm.waitAlive = true ∧ mvm.curFwImg = old.curFwImg)
        (.modify ?_) fun _ => .bind _ (removeNotification_keeps ?_) fun _ => failed_tidy _ _
      · rintro mvm ⟨tidy, flag⟩
        exact ⟨{ tidy with }, flag, rfl⟩
      · rintro mvm notifWait ⟨tidy, same⟩
        exact ⟨tidy.removed notifWait, same⟩
    | none =>
      refine .bind (fun _ mvm => Tidy frames calibrating mvm ∧ mvm.waitAlive = true)
        (waitNotification_keeps _ _ ?_) fun ret => ?_
      · rintro mvm notifWait ⟨tidy, flag⟩
        exact ⟨tidy.waited notifWait _, flag⟩
      cases ret with
      | some error => exact restored_tidy _ error
      | none =>
        refine .ite (fun _ => ?_) fun _ => restored_tidy _ .eio
        refine .bind (fun _ => Tidy frames calibrating) (.modify ?_) fun _ => .pure _ fun _ tidy => tidy
        rintro mvm ⟨tidy, -⟩
        exact { tidy with }

/-! ### The three functions -/

/-- Before the mutex is taken. -/
structure Fresh (calibrating : Bool) (mvm : IwlMvm Entry) : Prop where
  mutex : mvm.mutex = false
  calibrates : mvm.calibrating = calibrating
  inited : mvm.inited = []
  slept : mvm.slept = []
  failures : mvm.failures = []

theorem enter_fresh (w : Entry) :
    Triple (Fresh calibrating) (enter w) (fun _ => Fresh calibrating) (· = Stop.faulted) :=
  .modify fun _ fresh => ⟨fresh.mutex, fresh.calibrates, by dsimp only; rw [fresh.inited, List.filter_nil],
    fresh.slept, fresh.failures⟩

omit [DecidableEq Entry] in
theorem ioLockLock_tidy :
    Triple (Fresh calibrating) (ioLockLock : MvmM Entry Unit) (fun _ => Tidy frames calibrating) (· = .faulted) := by
  intro mvm fresh
  show Ends _ _ (ioLockLock mvm)
  unfold ioLockLock
  rw [fresh.mutex, if_neg Bool.false_ne_true]
  refine ⟨rfl, fresh.calibrates, ?_, ?_, ?_⟩
  · simp [fresh.inited]
  · simp [fresh.slept]
  · simp [fresh.failures]

theorem runUnified_tidy (cfg : MvmCfg) (readNvm : Bool) (outcome : UnifiedOutcome Entry) :
    Triple (Fresh calibrating) (iwlRunUnifiedMvmUcode cfg frames readNvm outcome)
      (fun _ => Tidy frames calibrating) (· = .faulted) := by
  unfold iwlRunUnifiedMvmUcode
  refine .bind _ (enter_fresh frames.initWait) fun _ =>
    .bind (fun _ => Tidy frames calibrating) ioLockLock_tidy fun _ => ?_
  refine .bind (fun _ => Tidy frames calibrating) (.modify ?_) fun _ => ?_
  · intro mvm tidy
    refine ⟨tidy.mutex, tidy.calibrates, fun w member => ?_, tidy.slept, tidy.failures⟩
    exact (List.mem_cons.mp member).elim id (tidy.inited w)
  refine .bind _ (load_tidy cfg _ _) fun ret => ?_
  cases ret.or (outcome.sent readNvm) with
  | some error => exact .bind _ removeNotification_tidy fun _ => .pure _ fun _ tidy => tidy
  | none =>
    refine .bind _ (waitNotification_tidy _ _) fun waited => ?_
    cases waited with
    | some error => exact .pure _ fun _ tidy => tidy
    | none =>
      refine .ite (fun _ => ?_) fun _ => .pure _ fun _ tidy => tidy
      exact .bind _ (.modify fun _ tidy => { tidy with }) fun _ => .pure _ fun _ tidy => tidy

omit [DecidableEq Entry] in
theorem iwlNvmCheckVersion_tidy :
    Triple (Tidy frames calibrating) (iwlNvmCheckVersion : MvmM Entry Unit) (fun _ => Tidy frames calibrating)
      (· = .faulted) := by
  intro mvm tidy
  show Ends _ _ (iwlNvmCheckVersion mvm)
  unfold iwlNvmCheckVersion
  cases mvm.nvmData with
  | false => rfl
  | true => exact tidy

/-- The steps up to the labels: `mvm->calibrating` may be set. -/
theorem initSteps_tidy (cfg : MvmCfg) (readNvm : Bool) (outcome : InitOutcome Entry) :
    Triple (Tidy frames false) (initSteps cfg frames readNvm outcome)
      (fun _ mvm => ∃ calibrating, Tidy frames calibrating mvm) (· = .faulted) := by
  unfold initSteps
  refine .bind _ (load_tidy cfg _ _) fun ret => ?_
  cases ret.or (if cfg.before8000 then outcome.btInit else none) with
  | some error => exact .pure _ fun _ tidy => ⟨_, tidy⟩
  | none =>
    dsimp only
    cases if readNvm then outcome.nvmInit else none with
    | some error => exact .pure _ fun _ tidy => ⟨_, tidy⟩
    | none =>
      refine .bind (fun _ => Tidy frames false) (.modify fun _ tidy => { tidy with }) fun _ =>
        .bind (fun _ => Tidy frames false) iwlNvmCheckVersion_tidy fun _ => ?_
      refine .ite (fun _ => .pure _ fun _ tidy => ⟨_, tidy⟩) fun _ => ?_
      unfold calibrate
      refine .bind (fun _ => Tidy frames true)
        (.modify fun _ tidy => ⟨tidy.mutex, rfl, tidy.inited, tidy.slept, tidy.failures⟩) fun _ => ?_
      cases outcome.txAnt.or outcome.phyCfg with
      | some error => exact .pure _ fun _ tidy => ⟨_, tidy⟩
      | none =>
        refine .bind _ (waitNotification_tidy _ _) fun waited => ?_
        cases waited with
        | none => exact .pure _ fun _ tidy => ⟨_, tidy⟩
        | some error => exact .pure _ fun _ tidy => ⟨_, tidy⟩

omit [DecidableEq Entry] in
/-- From `out` on `mvm->calibrating` is clear. -/
theorem initOut_tidy (cfg : MvmCfg) (zalloc : Bool) (ret : Option UcodeError) :
    Triple (fun mvm => ∃ calibrating, Tidy frames calibrating mvm)
      (initOut cfg zalloc ret : MvmM Entry (Option UcodeError)) (fun _ => Tidy frames false) (· = .faulted) := by
  unfold initOut
  refine .bind (fun _ => Tidy frames false) (.modify ?_) fun _ => ?_
  · rintro mvm ⟨_, tidy⟩
    exact ⟨tidy.mutex, rfl, tidy.inited, tidy.slept, tidy.failures⟩
  refine .bind (fun _ => Tidy frames false) (.get fun _ tidy => tidy) fun _ => ?_
  refine .ite (fun _ => ?_) fun _ => .pure _ fun _ tidy => tidy
  exact .bind _ (.modify fun _ tidy => { tidy with }) fun _ => .pure _ fun _ tidy => tidy

theorem runInit_tidy (cfg : MvmCfg) (readNvm : Bool) (outcome : InitOutcome Entry) :
    Triple (Fresh calibrating) (iwlRunInitMvmUcode cfg frames readNvm outcome) (fun _ => Tidy frames calibrating)
      (· = .faulted) := by
  unfold iwlRunInitMvmUcode
  refine .ite (fun _ => runUnified_tidy cfg true _) fun _ => ?_
  refine .bind _ (enter_fresh frames.calibWait) fun _ =>
    .bind (fun _ => Tidy frames calibrating) ioLockLock_tidy fun _ => ?_
  refine .bind (fun now mvm => Tidy frames calibrating mvm ∧ now.calibrating = calibrating)
    (.get fun _ tidy => ⟨tidy, tidy.calibrates⟩) fun now => ?_
  refine .ite (fun _ => .pure _ fun _ tidy => tidy.1) fun idle => .given (fun _ known => known.2) fun same => ?_
  -- the guard has let the call through
  rw [same, Bool.not_eq_true] at idle
  subst idle
  refine .bind _ ((initSteps_tidy cfg readNvm outcome).strengthen fun _ known => known.1) fun exit => ?_
  cases exit with
  | removeNotif ret =>
    refine .bind _ (removeNotification_keeps ?_) fun _ => initOut_tidy cfg _ ret
    rintro mvm notifWait ⟨calibrating, tidy⟩
    exact ⟨calibrating, tidy.removed notifWait⟩
  | out ret => exact initOut_tidy cfg _ ret

theorem loadRt_tidy (cfg : MvmCfg) (outcome : RtOutcome Entry) :
    Triple (Fresh calibrating) (iwlMvmLoadRtFw cfg frames outcome) (fun _ => Tidy frames calibrating)
      (· = .faulted) := by
  unfold iwlMvmLoadRtFw
  refine .ite (fun _ => runUnified_tidy cfg false _) fun _ => .bind _ (runInit_tidy cfg false _) fun ret => ?_
  cases ret with
  | some error => exact .pure _ fun _ tidy => tidy
  | none =>
    dsimp only
    cases outcome.startHw with
    | some error => exact .pure _ fun _ tidy => tidy
    | none =>
      refine .bind _ (load_tidy cfg _ _) fun loaded => ?_
      cases loaded with
      | some error => exact .pure _ fun _ tidy => tidy
      | none => exact .pure _ fun _ tidy => tidy

/-- **What does hold when one of the three returns**: each failure to load has restored the image (and left the
flag), `mvm->calibrating` is as it was, and the mutex is held. -/
theorem startUp_tidy (cfg : MvmCfg) (frames : Frames Entry) (call : Call Entry) :
    Triple (Fresh calibrating) (call.program cfg frames) (fun _ => Tidy frames calibrating) (· = .faulted) := by
  cases call with
  | runInit readNvm outcome => exact runInit_tidy cfg readNvm outcome
  | runUnified readNvm outcome => exact runUnified_tidy cfg readNvm outcome
  | loadRt outcome => exact loadRt_tidy cfg outcome

/-! ### With the mutex held -/

omit [DecidableEq Entry] in
theorem ioLockLock_blocked :
    Triple (fun mvm : IwlMvm Entry => mvm.mutex = true) ioLockLock (fun _ _ => False) (· = .blocked) := by
  intro mvm held
  show Ends _ _ (ioLockLock mvm)
  unfold ioLockLock
  rw [if_pos held]
  rfl

/-- Both functions that take the mutex begin like this. -/
theorem enter_blocked {α : Type} (w : Entry) (next : Unit → MvmM Entry α) :
    Triple (fun mvm : IwlMvm Entry => mvm.mutex = true) (enter w >>= fun _ => ioLockLock >>= next)
      (fun _ _ => False) (· = .blocked) :=
  .bind (fun _ mvm => mvm.mutex = true) (.modify fun _ held => held) fun _ =>
    .bind _ ioLockLock_blocked fun _ => .unreached

theorem runInit_blocked (cfg : MvmCfg) (readNvm : Bool) (outcome : InitOutcome Entry) :
    Triple (fun mvm => mvm.mutex = true) (iwlRunInitMvmUcode cfg frames readNvm outcome) (fun _ _ => False)
      (· = .blocked) := by
  unfold iwlRunInitMvmUcode
  exact .ite (fun _ => enter_blocked _ _) fun _ => enter_blocked _ _

/-- **With the mutex held on entry no call returns.** -/
theorem startUp_blocked (cfg : MvmCfg) (frames : Frames Entry) (call : Call Entry) :
    Triple (fun mvm => mvm.mutex = true) (call.program cfg frames) (fun _ _ => False) (· = .blocked) := by
  cases call with
  | runInit readNvm outcome => exact runInit_blocked cfg readNvm outcome
  | runUnified readNvm outcome => exact enter_blocked _ _
  | loadRt outcome =>
    refine .ite (fun _ => enter_blocked _ _) fun _ => ?_
    exact .bind _ (runInit_blocked cfg false _) fun _ => .unreached

/-! ### The discipline -/

/-- **A call that takes the mutex is not disciplined.** -/
theorem not_meets_of_free (cfg : MvmCfg) (frames : Frames Entry) (call : Call Entry) (free : mvm.mutex = false) :
    ¬ Meets cfg frames call mvm := by
  intro meets
  have ends := startUp_tidy cfg frames call mvm.fresh ⟨free, rfl, rfl, rfl, rfl⟩
  unfold Meets at meets
  cases ran : (call.program cfg frames).run mvm.fresh with
  | ok result =>
    rw [ran] at meets ends
    have mutex : true = false := ends.mutex.symm.trans (meets.mutex.trans free)
    cases mutex
  | error stop =>
    rw [ran] at meets ends
    cases meets.symm.trans ends

/-- **The calls that meet the discipline**: only those that wait for the mutex forever. -/
theorem startUp_iff (cfg : MvmCfg) (frames : Frames Entry) (call : Call Entry) (mvm : IwlMvm Entry) :
    Meets cfg frames call mvm ↔ mvm.mutex = true := by
  constructor
  · intro meets
    by_contra free
    exact not_meets_of_free cfg frames call (Bool.not_eq_true _ ▸ free) meets
  · intro held
    have ends := startUp_blocked cfg frames call mvm.fresh held
    unfold Meets
    cases ran : (call.program cfg frames).run mvm.fresh with
    | ok result =>
      rw [ran] at ends
      exact ends.elim
    | error stop =>
      rw [ran] at ends
      exact ends

end Steps

/-- A device with a unified image, and one wait of another caller in the list. -/
def unifiedCfg : MvmCfg := ⟨true, false, false, false, false⟩

def otherWaits : IwlMvm Nat where
  mutex := false
  notifWait := iwlInitNotificationWait .start 9 [0x88] false
  calibrating := false
  curFwImg := iwlUcodeRegular
  waitAlive := false
  firmwareRunning := false
  nvmData := false
  inited := []
  slept := []
  failures := []

/-- A sleep that runs out. -/
def sleepsOut : Slept Nat := ⟨fun _ => .unused, false⟩

/-- `iwl_run_unified_mvm_ucode`, where `iwl_trans_start_fw` fails. -/
def startFails : Call Nat := .runUnified true ⟨⟨some .eio, sleepsOut, false⟩, none, none, none, sleepsOut, none⟩

/-- **A firmware that is not started**: the mutex stays held, the wait of the other caller is off the list, and
the flag is left. -/
theorem startFails_undisciplined : (∃ after, (startFails.program unifiedCfg ⟨0, 1, 2⟩).run otherWaits =
      .ok (some .eio, after) ∧ after.mutex = true ∧ after.notifWait.notifWaits = [] ∧ after.waitAlive = true) ∧
    otherWaits.notifWait.notifWaits = [9] ∧ ¬ Meets unifiedCfg ⟨0, 1, 2⟩ startFails otherWaits :=
  ⟨⟨_, rfl, rfl, rfl, rfl⟩, rfl, not_meets_of_free _ _ _ rfl⟩

end IntelWifi.Mvm.StartUp
