/-
**The scan state machine.**

`iwl_scan_initiate`, `iwl_scan_cancel_timeout` and `iwl_force_scan_end` run under `priv->mutex`, one at a
time; the scan-complete notification and its completion action run on the receive thread, which does not
take the mutex. Both threads work on the same status bits, and each access of a bit is a step of its own:
the porting layer's operations on a bit count as atomic here (`Porting.StatusWord` says when they are). What
becomes of a command, of `attemptAction` and of a deadline is an input of the step.

Beside the bits the model counts the scans: which one started last, which one `STATUS_SCAN_COMPLETE` and
`STATUS_SCAN_ABORTING` were set for, which were accepted, and what `iwl_complete_scan` was called for. Only
statements read this.

* `turn_owed`: while `STATUS_SCANNING` is set without `STATUS_SCAN_HW`, a thread is about to clear the one
  or to set the other.
* `scanState_consistent`: the runs that keep this never leave `STATUS_SCANNING` behind.
-/

import IntelWifi.Lib.Machine
import Mathlib.Data.Fintype.Basic
import Mathlib.Logic.Function.Basic

namespace IntelWifi.Dvm.Scan

/-- `enum iwl_scan_type`. -/
inductive ScanType where
  | normal
  | radioReset
  deriving DecidableEq, Repr

/-- What `iwl_process_scan_complete` has found out: the scan that it completes, the scan whose notification
set `STATUS_SCAN_COMPLETE`, and the scan that `STATUS_SCAN_ABORTING` was set for, if it was. -/
structure Completion where
  scan : Nat
  source : Nat
  flag : Option Nat
  deriving DecidableEq, Repr

/-- A scan is over: `iwl_complete_scan` was called, or a pending scan took its place. `source` is the scan
whose notification was taken, if there was one, and `flag` the scan that an abort was meant for. -/
structure Report where
  scan : Nat
  source : Option Nat
  flag : Option Nat
  aborted : Bool
  replaced : Bool
  deriving DecidableEq, Repr

/-- Where `iwl_scan_initiate` and `iwlagn_request_scan` are. -/
inductive InitPc where
  | ready
  | testHw
  | testAborting
  | setScanning
  | setType
  | prepare
  | setHw
  | panParams
  | panClear
  | sendScan
  | sendClear
  | clearScanning
  | resetType
  deriving DecidableEq, Repr

/-- Where `iwl_force_scan_end` is, after its test. -/
inductive EndPc where
  | scanning
  | hw
  | aborting
  | complete
  | report
  deriving DecidableEq, Repr

/-- Where a thread is. -/
inductive Phase where
  | idle
  /-- `old`: the scan that is to be replaced, where `iwl_process_scan_complete` is the caller. -/
  | initiate (pc : InitPc) (type : ScanType) (old : Option Completion) (own : Nat)
  -- `iwl_do_scan_abort`, in `iwl_scan_cancel_timeout`
  | abortTest
  | abortSet
  | abortSend (target : Nat)
  | abortReply (target : Nat)
  | wait
  -- `iwl_force_scan_end`; `target`: the scan whose abort has failed, in `iwl_do_scan_abort`
  | endTest (target : Option Nat)
  | ending (pc : EndPc) (target : Option Nat) (scan : Nat)
  -- `iwl_rx_scan_complete_notif`
  | notifComplete (scan : Nat)
  | notifHw (scan : Nat)
  | notifAction
  -- `iwl_process_scan_complete`
  | takeComplete
  | takeAborting (source : Nat)
  | takeScanning (source : Nat) (flag : Option Nat)
  | decide (completion : Completion)
  | report (completion : Completion) (aborted : Bool)
  deriving DecidableEq, Repr

/-- The status bits and what goes with them; from `current` on, what only statements read. -/
structure Shared where
  scanning : Bool
  aborting : Bool
  hw : Bool
  complete : Bool
  scanType : ScanType
  scanRequest : Bool
  current : Nat
  completeOf : Nat
  abortOf : Nat
  /-- The scans whose command the firmware has accepted. -/
  sent : List Nat
  /-- The scans that `iwl_scan_initiate` has returned 0 for. -/
  accepted : List Nat
  reports : List Report
  deriving DecidableEq, Repr

variable (s : Shared) (ok : Bool)

/-! ### Starting -/

/-- `iwl_scan_initiate` returns an error. -/
def refuses : Option Completion → Phase
  | none => .idle
  | some old => .report old true

/-- `iwl_scan_initiate` returns 0. -/
def accepts (own : Nat) : Option Completion → Shared
  | none => { s with accepted := own :: s.accepted }
  | some old => { s with
    accepted := own :: s.accepted
    reports := ⟨old.scan, some old.source, old.flag, false, true⟩ :: s.reports }

/-- A step of `iwl_scan_initiate`. `ok` stands for `iwl_is_ready_rf`, for what `iwlagn_request_scan` prepares,
and for the two commands. -/
def initTurn (type : ScanType) (old : Option Completion) (own : Nat) : InitPc → Shared × Phase
  | .ready => if ok then (s, .initiate .testHw type old own) else (s, refuses old)
  | .testHw => if s.hw then (s, refuses old) else (s, .initiate .testAborting type old own)
  | .testAborting => if s.aborting then (s, refuses old) else (s, .initiate .setScanning type old own)
  | .setScanning =>
    ({ s with scanning := true, current := s.current + 1 }, .initiate .setType type old (s.current + 1))
  | .setType => ({ s with scanType := type }, .initiate .prepare type old own)
  | .prepare => (s, .initiate (if ok then .setHw else .clearScanning) type old own)
  | .setHw => ({ s with hw := true }, .initiate .panParams type old own)
  | .panParams => (s, .initiate (if ok then .sendScan else .panClear) type old own)
  | .panClear => ({ s with hw := false }, .initiate .clearScanning type old own)
  | .sendScan =>
    if ok then (accepts { s with sent := own :: s.sent } own old, .idle)
    else (s, .initiate .sendClear type old own)
  -- The error of the command is not returned.
  | .sendClear => (accepts { s with hw := false } own old, .idle)
  | .clearScanning => ({ s with scanning := false }, .initiate .resetType type old own)
  | .resetType => ({ s with scanType := .normal }, refuses old)

/-! ### Ending -/

/-- `iwl_complete_scan`. -/
def completeScan (report : Report) : Shared :=
  { s with scanType := .normal, scanRequest := false, reports := report :: s.reports }

/-- Where `iwl_force_scan_end` returns to. -/
def endsTo : Option Nat → Phase
  | none => .idle
  | some _ => .wait

/-- A step of `iwl_force_scan_end`. -/
def endTurn (target : Option Nat) (scan : Nat) : EndPc → Shared × Phase
  | .scanning => ({ s with scanning := false }, .ending .hw target scan)
  | .hw => ({ s with hw := false }, .ending .aborting target scan)
  | .aborting => ({ s with aborting := false }, .ending .complete target scan)
  | .complete => ({ s with complete := false }, .ending .report target scan)
  | .report => (completeScan s ⟨scan, none, target, true, false⟩, endsTo target)

/-- A step of a thread. `ok` also stands for the abort command, for `attemptAction`, and for the deadline of
`iwl_scan_cancel_timeout` not having passed. -/
def turn : Phase → Shared × Phase
  | .idle => (s, .idle)
  | .initiate pc type old own => initTurn s ok type old own pc
  | .abortTest => (s, if s.scanning then .abortSet else .wait)
  | .abortSet =>
    if s.aborting then (s, .wait)
    else ({ s with aborting := true, abortOf := s.current }, .abortSend s.current)
  | .abortSend target => (s, if s.hw && ok then .abortReply target else .endTest (some target))
  | .abortReply target => (s, if ok then .wait else .endTest (some target))
  | .wait => (s, if !ok then .idle else if s.hw then .wait else .takeComplete)
  | .endTest target => (s, if s.scanning then .ending .scanning target s.current else endsTo target)
  | .ending pc target scan => endTurn s target scan pc
  | .notifComplete scan => ({ s with complete := true, completeOf := scan }, .notifHw scan)
  | .notifHw _ => ({ s with hw := false }, .notifAction)
  | .notifAction => (s, if ok then .takeComplete else .idle)
  | .takeComplete =>
    if s.complete then ({ s with complete := false }, .takeAborting s.completeOf) else (s, .idle)
  | .takeAborting source =>
    ({ s with aborting := false }, .takeScanning source (if s.aborting then some s.abortOf else none))
  | .takeScanning source flag =>
    if s.scanning then ({ s with scanning := false }, .decide ⟨s.current, source, flag⟩) else (s, .idle)
  | .decide completion =>
    (s, if s.scanType ≠ .normal ∧ completion.flag = none ∧ s.scanRequest = true then
        .initiate .ready .normal (some completion) 0
      else .report completion completion.flag.isSome)
  | .report completion aborted =>
    (completeScan s ⟨completion.scan, some completion.source, completion.flag, aborted, false⟩, .idle)

/-! ### Runs -/

/-- The thread that holds the mutex, and the receive thread. -/
inductive Who where
  | caller
  | rx
  deriving DecidableEq, Repr

instance : Fintype Who := ⟨{.caller, .rx}, fun who => by cases who <;> decide⟩

def Who.other : Who → Who
  | .caller => .rx
  | .rx => .caller

structure ScanState where
  shared : Shared
  phase : Who → Phase

/-- What a caller begins. -/
inductive ScanOp where
  | initiate (type : ScanType)
  | cancelTimeout
  | forceEnd
  deriving DecidableEq, Repr

def ScanOp.enters : ScanOp → Phase
  | .initiate type => .initiate .ready type none 0
  | .cancelTimeout => .abortTest
  | .forceEnd => .endTest none

/-- A caller begins; a scan is requested while another is under way; the firmware notifies of a scan it was
given; or a thread moves on. -/
inductive ScanAct where
  | enter (op : ScanOp)
  | request
  | notify (scan : Nat)
  | move (who : Who) (ok : Bool)
  deriving DecidableEq, Repr

/-- A thread is somewhere else. -/
def ScanState.goes (st : ScanState) (who : Who) (phase : Phase) : ScanState :=
  { st with phase := Function.update st.phase who phase }

def scanStep (st : ScanState) : ScanAct → Option ScanState
  | .enter op => if st.phase .caller = .idle then some (st.goes .caller op.enters) else none
  | .request => some { st with shared := { st.shared with scanRequest := true } }
  | .notify scan =>
    if st.phase .rx = .idle ∧ scan ∈ st.shared.sent then some (st.goes .rx (.notifComplete scan)) else none
  | .move who ok =>
    if st.phase who = .idle then none
    else
      let (shared, phase) := turn st.shared ok (st.phase who)
      some ({ st with shared := shared }.goes who phase)

/-- Nothing is under way. -/
def ScanState.start : ScanState where
  shared := ⟨false, false, false, false, .normal, false, 0, 0, 0, [], [], []⟩
  phase := fun _ => .idle

/-- No operation is executing. -/
def ScanState.Quiet (st : ScanState) : Prop := ∀ who, st.phase who = .idle

instance (st : ScanState) : Decidable st.Quiet := inferInstanceAs (Decidable (∀ who, st.phase who = .idle))

/-! ### Who clears `STATUS_SCANNING` -/

/-- The thread is about to clear `STATUS_SCANNING`, or to set `STATUS_SCAN_HW`; `complete` is the bit that it
may still have to take. -/
def owes (complete : Bool) : Phase → Bool
  | .initiate pc _ _ _ =>
    match pc with
    | .setType | .prepare | .setHw | .panClear | .clearScanning => true
    | _ => false
  | .ending .scanning _ _ | .takeAborting _ | .takeScanning _ _ => true
  | .notifHw _ | .notifAction | .takeComplete => complete
  | _ => false

/-- **While `STATUS_SCANNING` is set without `STATUS_SCAN_HW`**, one of two threads owes. -/
def Owed (s : Shared) (phase phase' : Phase) : Prop :=
  s.scanning = true → s.hw = false → owes s.complete phase = true ∨ owes s.complete phase' = true

/-- **When a step keeps it.** Where `STATUS_SCAN_HW` is cleared for a scan that is not over, after a command
that failed, by a notification whose completion was taken already, or by a forced end: no scan is under way,
or the other thread ends it. Where a completion is given up, by `attemptAction` or by a forced end: the same,
or the scan goes on. -/
def keepsOwed (s : Shared) (ok : Bool) (others : Phase) : Phase → Bool
  | .initiate .sendClear _ _ _ | .ending .hw _ _ => !s.scanning || owes s.complete others
  | .notifHw _ => !s.scanning || s.complete || owes s.complete others
  | .notifAction => ok || !s.scanning || s.hw || owes s.complete others
  | .ending .complete _ _ => !s.scanning || s.hw || owes false others
  | _ => true

/-- The condition on a step of a run. -/
def keepsScan (st : ScanState) : ScanAct → Bool
  | .move who ok => keepsOwed st.shared ok (st.phase who.other) (st.phase who)
  | _ => true

section Turns

variable {s : Shared} {ok : Bool} {phase others : Phase}

theorem Owed.symm (owed : Owed s phase others) : Owed s others phase :=
  fun scanning off => (owed scanning off).symm

/-- A thread that owes nothing moves on without touching the bits. -/
theorem Owed.passes {phase' : Phase} {s' : Shared} (owed : Owed s phase others)
    (free : owes s.complete phase = true → owes s.complete phase' = true)
    (scanning : s'.scanning = s.scanning) (hw : s'.hw = s.hw) (complete : s'.complete = s.complete) :
    Owed s' phase' others := by
  unfold Owed
  rw [scanning, hw, complete]
  exact fun on off => (owed on off).imp_left free

/-- Nothing is owed once `STATUS_SCANNING` is clear. -/
theorem Owed.cleared {s' : Shared} {phase' : Phase} (clear : s'.scanning = false) : Owed s' phase' others := by
  intro scanning
  rw [clear] at scanning
  cases scanning

theorem accepts_bits (s : Shared) (own : Nat) (old : Option Completion) :
    (accepts s own old).scanning = s.scanning ∧ (accepts s own old).hw = s.hw ∧
      (accepts s own old).complete = s.complete ∧ (accepts s own old).aborting = s.aborting := by
  cases old <;> exact ⟨rfl, rfl, rfl, rfl⟩

/-- **A step of `iwl_scan_initiate`.** -/
theorem initTurn_owed {type : ScanType} {old : Option Completion} {own : Nat} (pc : InitPc)
    (owed : Owed s (.initiate pc type old own) others)
    (keeps : keepsOwed s ok others (.initiate pc type old own) = true) :
    Owed (initTurn s ok type old own pc).1 (initTurn s ok type old own pc).2 others := by
  cases pc with
  | ready =>
    cases ok <;> exact owed.passes (fun set => Bool.noConfusion set) rfl rfl rfl
  | testHw =>
    dsimp only [initTurn]
    split <;> exact owed.passes (fun set => Bool.noConfusion set) rfl rfl rfl
  | testAborting =>
    dsimp only [initTurn]
    split <;> exact owed.passes (fun set => Bool.noConfusion set) rfl rfl rfl
  | setScanning => exact fun _ _ => .inl rfl
  | setType => exact owed.passes (fun _ => rfl) rfl rfl rfl
  | prepare =>
    refine owed.passes (fun _ => ?_) rfl rfl rfl
    cases ok <;> rfl
  | setHw => exact fun _ off => Bool.noConfusion off
  | panParams => exact owed.passes (fun set => Bool.noConfusion set) rfl rfl rfl
  | panClear => exact fun _ _ => .inl rfl
  | sendScan =>
    cases ok with
    | false => exact owed.passes (fun set => Bool.noConfusion set) rfl rfl rfl
    | true =>
      obtain ⟨scanning, hw, complete, _⟩ := accepts_bits { s with sent := own :: s.sent } own old
      exact owed.passes (fun set => Bool.noConfusion set) scanning hw complete
  | sendClear =>
    obtain ⟨scanning, _, complete, _⟩ := accepts_bits { s with hw := false } own old
    intro on _
    dsimp only [initTurn] at on ⊢
    rw [complete]
    rw [scanning] at on
    have settled : (!s.scanning || owes s.complete others) = true := keeps
    rw [show s.scanning = true from on, Bool.not_true, Bool.false_or] at settled
    exact .inr settled
  | clearScanning => exact .cleared rfl
  | resetType => exact owed.passes (fun set => Bool.noConfusion set) rfl rfl rfl

/-- **A step of `iwl_force_scan_end`.** -/
theorem endTurn_owed {target : Option Nat} {scan : Nat} (pc : EndPc)
    (owed : Owed s (.ending pc target scan) others)
    (keeps : keepsOwed s ok others (.ending pc target scan) = true) :
    Owed (endTurn s target scan pc).1 (endTurn s target scan pc).2 others := by
  cases pc with
  | scanning => exact .cleared rfl
  | hw =>
    intro on _
    have settled : (!s.scanning || owes s.complete others) = true := keeps
    rw [show s.scanning = true from on, Bool.not_true, Bool.false_or] at settled
    exact .inr settled
  | aborting => exact owed.passes (fun set => Bool.noConfusion set) rfl rfl rfl
  | complete =>
    intro on off
    have settled : (!s.scanning || s.hw || owes false others) = true := keeps
    rw [show s.scanning = true from on, show s.hw = false from off, Bool.not_true, Bool.false_or,
      Bool.false_or] at settled
    exact .inr settled
  | report =>
    refine owed.passes (fun set => Bool.noConfusion set) rfl rfl rfl

/-- A completion that is there is owed more, not less. -/
theorem owes_mono (phase : Phase) (set : owes s.complete phase = true) : owes true phase = true := by
  cases complete : s.complete with
  | true => rwa [complete] at set
  | false =>
    rw [complete] at set
    cases phase with
    | notifHw | notifAction | takeComplete => rfl
    | ending pc => cases pc <;> exact set
    | _ => exact set

/-- **A step of a thread** that meets the condition keeps what is owed. -/
theorem turn_owed (owed : Owed s phase others) (keeps : keepsOwed s ok others phase = true) :
    Owed (turn s ok phase).1 (turn s ok phase).2 others := by
  cases phase with
  | idle => exact owed
  | initiate pc type old own => exact initTurn_owed pc owed keeps
  | abortTest => exact owed.passes (fun set => Bool.noConfusion set) rfl rfl rfl
  | abortSet =>
    dsimp only [turn]
    split <;> exact owed.passes (fun set => Bool.noConfusion set) rfl rfl rfl
  | abortSend target => exact owed.passes (fun set => Bool.noConfusion set) rfl rfl rfl
  | abortReply target => exact owed.passes (fun set => Bool.noConfusion set) rfl rfl rfl
  | wait => exact owed.passes (fun set => Bool.noConfusion set) rfl rfl rfl
  | endTest target => exact owed.passes (fun set => Bool.noConfusion set) rfl rfl rfl
  | ending pc target scan => exact endTurn_owed pc owed keeps
  | notifComplete scan =>
    intro on off
    exact (owed on off).elim (fun set => Bool.noConfusion set) fun set => .inr (owes_mono others set)
  | notifHw scan =>
    intro on _
    have settled : (!s.scanning || s.complete || owes s.complete others) = true := keeps
    rw [show s.scanning = true from on, Bool.not_true, Bool.false_or, Bool.or_eq_true] at settled
    exact settled
  | notifAction =>
    cases ok with
    | true => exact owed.passes (fun set => set) rfl rfl rfl
    | false =>
      intro on off
      have settled : (false || !s.scanning || s.hw || owes s.complete others) = true := keeps
      rw [show s.scanning = true from on, show s.hw = false from off, Bool.not_true, Bool.or_false,
        Bool.false_or] at settled
      exact .inr settled
  | takeComplete =>
    dsimp only [turn]
    split
    · exact fun _ _ => .inl rfl
    · rename_i clear
      refine owed.passes (fun set => absurd set clear) rfl rfl rfl
  | takeAborting source => exact owed.passes (fun _ => rfl) rfl rfl rfl
  | takeScanning source flag =>
    dsimp only [turn]
    split
    · exact .cleared rfl
    · rename_i clear
      exact .cleared (Bool.eq_false_of_not_eq_true clear)
  | decide completion => exact owed.passes (fun set => Bool.noConfusion set) rfl rfl rfl
  | report completion aborted => exact owed.passes (fun set => Bool.noConfusion set) rfl rfl rfl

end Turns

/-! ### Runs that keep it -/

/-- One of the two threads owes. -/
def ScanState.Owed (st : ScanState) : Prop := Scan.Owed st.shared (st.phase .caller) (st.phase .rx)

section Steps

variable {st next : ScanState}

theorem owed_iff (who : Who) : st.Owed ↔ Scan.Owed st.shared (st.phase who) (st.phase who.other) := by
  cases who with
  | caller => exact Iff.rfl
  | rx => exact ⟨fun owed => owed.symm, fun owed => owed.symm⟩

theorem goes_same (st : ScanState) (who : Who) (phase : Phase) : (st.goes who phase).phase who = phase :=
  Function.update_self ..

theorem goes_other (st : ScanState) (who : Who) (phase : Phase) :
    (st.goes who phase).phase who.other = st.phase who.other := by
  unfold ScanState.goes
  exact Function.update_of_ne (by cases who <;> decide) ..

/-- An idle thread that begins something owes nothing by it, nor did it before. -/
theorem goes_owed (owed : st.Owed) {who : Who} {phase : Phase} (idle : st.phase who = .idle) :
    (st.goes who phase).Owed := by
  rw [owed_iff who, goes_same, goes_other]
  rw [owed_iff who, idle] at owed
  exact fun on off => .inr ((owed on off).resolve_left Bool.false_ne_true)

theorem scanStep_owed {act : ScanAct} (owed : st.Owed) (keeps : keepsScan st act = true)
    (stepped : scanStep st act = some next) : next.Owed := by
  cases act with
  | enter op =>
    obtain ⟨idle, began⟩ := Option.ite_none_right_eq_some.mp stepped
    obtain rfl := Option.some.inj began
    exact goes_owed owed idle
  | request =>
    obtain rfl := Option.some.inj stepped
    exact owed
  | notify scan =>
    obtain ⟨⟨idle, _⟩, began⟩ := Option.ite_none_right_eq_some.mp stepped
    obtain rfl := Option.some.inj began
    exact goes_owed owed idle
  | move who ok =>
    obtain ⟨_, moved⟩ := Option.ite_none_left_eq_some.mp stepped
    obtain rfl := Option.some.inj moved
    rw [owed_iff who, goes_same, goes_other]
    exact turn_owed ((owed_iff who).mp owed) keeps

/-- **Scan state consistency.** In every state of a run whose steps meet the condition, when no operation is
executing, `STATUS_SCANNING` is set only if `STATUS_SCAN_HW` is. -/
theorem scanState_consistent (acts : List ScanAct) (st : ScanState)
    (allow : Machine.allowed scanStep keepsScan .start acts = true)
    (ran : Machine.run scanStep .start acts = some st) (quiet : st.Quiet) :
    st.shared.scanning = true → st.shared.hw = true := by
  have owed : st.Owed := Machine.run_invariant_of_allowed ScanState.Owed
    (fun _ _ _ owed keeps stepped => scanStep_owed owed keeps stepped) (fun on => Bool.noConfusion on) allow ran
  intro on
  by_contra off
  have owes := owed on (Bool.eq_false_of_not_eq_true off)
  rw [quiet .caller, quiet .rx] at owes
  exact owes.elim Bool.false_ne_true Bool.false_ne_true

end Steps

/-- A thread goes on, and everything succeeds. -/
def moves (who : Who) (steps : Nat) : List ScanAct := List.replicate steps (.move who true)

/-- A scan is started, and is completed by its notification. -/
def scanned : List ScanAct :=
  .enter (.initiate .normal) :: moves .caller 9 ++ .notify 1 :: moves .rx 8

theorem scanState_consistent_scanned : ∃ st, Machine.run scanStep .start scanned = some st ∧ st.Quiet ∧
    (st.shared.scanning = true → st.shared.hw = true) := by
  have ends : (Machine.run scanStep .start scanned).isSome = true := by decide +kernel
  have quiet : ((Machine.run scanStep .start scanned).get ends).Quiet := by
    decide +kernel +revert
  exact ⟨_, (Option.some_get ends).symm, quiet,
    scanState_consistent scanned _ (by decide +kernel) (Option.some_get ends).symm quiet⟩

/-- `REPLY_SCAN_CMD` fails. -/
def unsent : List ScanAct :=
  .enter (.initiate .normal) :: moves .caller 8 ++ [.move .caller false, .move .caller true]

/-- The notification arrives, and `attemptAction` fails. -/
def undelivered : List ScanAct :=
  .enter (.initiate .normal) :: moves .caller 9 ++ .notify 1 :: moves .rx 2 ++ [.move .rx false]

/-- A forced end clears the bits while the notification is between its two: the next scan loses
`STATUS_SCAN_HW`. -/
def overtaken : List ScanAct :=
  .enter (.initiate .normal) :: moves .caller 9 ++ .notify 1 :: moves .rx 1 ++
    .enter .forceEnd :: moves .caller 6 ++ .enter (.initiate .normal) :: moves .caller 9 ++ moves .rx 3

/-- **`STATUS_SCANNING` is left behind**, with `iwl_scan_initiate` having returned 0. -/
theorem scanState_broken : ([unsent, undelivered, overtaken].all fun acts =>
    (Machine.run scanStep .start acts).any fun st => decide st.Quiet && st.shared.scanning &&
      !st.shared.hw && st.shared.accepted.contains st.shared.current) = true := by
  decide +kernel

end IntelWifi.Dvm.Scan
