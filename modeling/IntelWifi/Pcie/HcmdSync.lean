/-
**A synchronous command and the interrupt that completes it.**

Two threads: the sender, which goes through `iwl_pcie_send_hcmd_sync` one command at a time, and the
interrupt thread, which handles responses, firmware errors and rfkill changes one after the other.
They share the transport and the lock `wait_command_queue`, and the sender sleeps on that lock: a
wakeup reaches it only while it is asleep. A step of either thread is one access to the bits of
`trans->status`, to the lock or to the queue.

Of the state, `serial`, `processed` and `ran` are for stating what happened: they count the commands
enqueued, list the responses taken up since the last of them, and say whether
`iwl_pcie_hcmd_complete` has run for its response while the sender could still be woken.
-/

import IntelWifi.Lib.Machine
import IntelWifi.Pcie.Complete

namespace IntelWifi.Pcie

/-- A command in the queue. -/
structure Job where
  cmd : IwlHostCmd
  index : RingIndex

def Job.slot (job : Job) : Slot := iwlPcieGetCmdIndex job.index

/-- Why the interrupt thread wakes the sender. A response says which enqueued command it was taken up
for. -/
inductive Cause where
  | response (pkt : RxPacket) (serves : Option Nat)
  | fwError
  | rfkill
  deriving DecidableEq

/-- What `iwl_pcie_send_hcmd_sync` returns. -/
inductive HcmdResult where
  | ok
  | eio
  | etimedout
  | erfkill
  | enqueue (e : HcmdError)
  deriving DecidableEq, Repr

/-- Where the sender is. -/
inductive SenderPc where
  | idle
  /-- Before `test_and_set_bit(STATUS_SYNC_HCMD_ACTIVE)`. -/
  | entered (cmd : IwlHostCmd)
  /-- Before `iwl_pcie_enqueue_hcmd`. -/
  | active (cmd : IwlHostCmd)
  /-- That failed; before the bit is cleared. -/
  | failed (e : HcmdError)
  /-- Before `IOLockLock`. -/
  | queued (job : Job)
  /-- Before `IOLockSleepDeadline`. -/
  | locked (job : Job)
  /-- In `IOLockSleepDeadline`. -/
  | asleep (job : Job)
  /-- Awakened, or past the deadline; before the lock is taken again. -/
  | woken (job : Job) (cause : Option Cause)
  /-- Before `IOLockUnlock`. -/
  | relocked (job : Job) (cause : Option Cause)
  /-- Not `THREAD_AWAKENED`; before the bit is cleared. -/
  | timedOut (job : Job)
  /-- Before `STATUS_FW_ERROR` is tested. -/
  | testFwError (job : Job) (cause : Cause)
  /-- Before `STATUS_RFKILL_OPMODE` is tested. -/
  | testRfkill (job : Job) (cause : Cause)
  /-- Before `resp_pkt` is tested. -/
  | testResponse (job : Job)
  /-- At the label `cancel`. -/
  | cancel (job : Job) (result : HcmdResult)
  | returned (job : Option Job) (result : HcmdResult)

/-- Where the interrupt thread is. -/
inductive IrqPc where
  | idle
  /-- In `iwl_pcie_hcmd_complete`, before `CMD_ASYNC` is tested. -/
  | responded (pkt : RxPacket) (serves : Option Nat)
  /-- In `iwl_pcie_handle_rfkill_irq`, before `STATUS_SYNC_HCMD_ACTIVE` is cleared. -/
  | rfkilled
  /-- Before `IOLockLock`. -/
  | toLock (cause : Cause)
  /-- Before `IOLockWakeup`. -/
  | holding (cause : Cause)
  /-- Before `IOLockUnlock`. -/
  | woke (cause : Cause)
  /-- In `iwl_pcie_hcmd_complete`, after `IOLockUnlock`. -/
  | finishing (pkt : RxPacket)

inductive Party where
  | sender
  | irq
  deriving DecidableEq

structure SyncState where
  trans : IwlTrans
  sender : SenderPc
  irq : IrqPc
  lockOwner : Option Party
  serial : Nat
  processed : List Nat
  ran : Bool

/-- Nothing is going on. -/
def SyncState.start (trans : IwlTrans) : SyncState := ⟨trans, .idle, .idle, none, 0, [], false⟩

/-- The command under way, once it is in the queue. -/
def SenderPc.job : SenderPc → Option Job
  | .queued job | .locked job | .asleep job | .woken job _ | .relocked job _ | .timedOut job
  | .testFwError job _ | .testRfkill job _ | .testResponse job | .cancel job _ => some job
  | _ => none

/-- The command is in the queue and the deadline has not passed. -/
def SenderPc.beforeDeadline : SenderPc → Bool
  | .queued _ | .locked _ | .asleep _ => true
  | _ => false

/-- What was returned. -/
def SenderPc.result : SenderPc → Option HcmdResult
  | .returned _ result => some result
  | _ => none

/-- The next command may be sent. -/
def SenderPc.ready : SenderPc → Bool
  | .idle | .returned .. => true
  | _ => false

/-- The host command's `resp_pkt` is `NULL`. -/
def IwlTrans.dropResponse (trans : IwlTrans) (ptr : Nat) : IwlTrans :=
  { trans with respPkt := fun p => if p = ptr then none else trans.respPkt p }

/-- The entry without `CMD_WANT_SKB`. -/
def IwlPcieTxqEntry.dropWantSkb (entry : IwlPcieTxqEntry) : IwlPcieTxqEntry :=
  { entry with
    cmdMeta := { entry.cmdMeta with flags := { entry.cmdMeta.flags with wantSkb := false } } }

/-- The label `cancel` of `iwl_pcie_send_hcmd_sync`. -/
def cancelHcmd (trans : IwlTrans) (job : Job) : IwlTrans :=
  let trans := if job.cmd.flags.wantSkb then
    { trans with txq := trans.txq.setEntry job.slot (trans.txq.entries job.slot).dropWantSkb }
  else trans
  trans.dropResponse job.cmd.ptr

/-- The response is for the command under way: it has the command's sequence, and is taken up after
the command was enqueued. -/
def SyncState.serves (s : SyncState) (pkt : RxPacket) : Option Nat :=
  match s.sender.job with
  | some job => if job.index = seqToIndex pkt.sequence then some s.serial else none
  | none => none

/-- `ran` after `iwl_pcie_hcmd_complete` has woken whom it wakes. -/
def SyncState.ranFor (s : SyncState) (serves : Option Nat) : Bool :=
  s.ran || (serves == some s.serial && s.sender.beforeDeadline)

/-- `iwl_trans_pcie_send_hcmd`, called for a synchronous command whose `resp_pkt` is `NULL`. -/
def sendHcmd (s : SyncState) (cmd : IwlHostCmd) : Option SyncState :=
  if s.sender.ready && !cmd.flags.async then
    let trans := s.trans.dropResponse cmd.ptr
    if !cmd.flags.sendInRfkill && trans.status.rfkillOpmode then
      some { s with trans := trans, sender := .returned none .erfkill }
    else some { s with trans := trans, sender := .entered cmd }
  else none

/-- The next step of the sender; `env` is for `iwl_pcie_enqueue_hcmd`. -/
def senderStep (env : EnqueueEnv) (s : SyncState) : Option SyncState :=
  match s.sender with
  | .idle | .returned .. | .asleep _ => none
  | .entered cmd =>
    if s.trans.status.syncHcmdActive then some { s with sender := .returned none .eio }
    else some { s with trans := s.trans.setActive true, sender := .active cmd }
  | .active cmd =>
    match iwlPcieEnqueueHcmd env cmd s.trans with
    | (.error e, after) => some { s with trans := after, sender := .failed e }
    | (.ok _, after) => some { s with
        trans := after
        sender := .queued ⟨cmd, s.trans.txq.writePtr⟩
        serial := s.serial + 1
        processed := []
        ran := false }
  | .failed e =>
    some { s with trans := s.trans.setActive false, sender := .returned none (.enqueue e) }
  | .queued job =>
    if s.lockOwner = none then some { s with lockOwner := some .sender, sender := .locked job }
    else none
  | .locked job => some { s with lockOwner := none, sender := .asleep job }
  | .woken job cause =>
    if s.lockOwner = none then
      some { s with lockOwner := some .sender, sender := .relocked job cause }
    else none
  | .relocked job none => some { s with lockOwner := none, sender := .timedOut job }
  | .relocked job (some cause) => some { s with lockOwner := none, sender := .testFwError job cause }
  | .timedOut job =>
    some { s with trans := s.trans.setActive false, sender := .cancel job .etimedout }
  | .testFwError job cause =>
    if s.trans.status.fwError then some { s with sender := .cancel job .eio }
    else some { s with sender := .testRfkill job cause }
  | .testRfkill job _ =>
    if !job.cmd.flags.sendInRfkill && s.trans.status.rfkillOpmode then
      some { s with sender := .cancel job .erfkill }
    else some { s with sender := .testResponse job }
  | .testResponse job =>
    if job.cmd.flags.wantSkb && (s.trans.respPkt job.cmd.ptr).isNone then
      some { s with sender := .cancel job .eio }
    else some { s with sender := .returned (some job) .ok }
  | .cancel job result =>
    some { s with trans := cancelHcmd s.trans job, sender := .returned (some job) result }

/-- The deadline of the sleep passes. -/
def deadlineStep (s : SyncState) : Option SyncState :=
  match s.sender with
  | .asleep job => some { s with sender := .woken job none }
  | _ => none

/-- The thread that sleeps on the lock, awakened. -/
def SenderPc.wake (cause : Cause) : SenderPc → SenderPc
  | .asleep job => .woken job (some cause)
  | other => other

/-- The next step of the interrupt thread. -/
def irqStep (s : SyncState) : Option SyncState :=
  match s.irq with
  | .idle => none
  | .responded pkt serves =>
    if (s.trans.txq.entries (iwlPcieGetCmdIndex (seqToIndex pkt.sequence))).cmdMeta.flags.async then
      some { s with irq := .finishing pkt, ran := s.ranFor serves }
    else some { s with trans := s.trans.setActive false, irq := .toLock (.response pkt serves) }
  | .rfkilled => some { s with trans := s.trans.setActive false, irq := .toLock .rfkill }
  | .toLock cause =>
    if s.lockOwner = none then some { s with lockOwner := some .irq, irq := .holding cause } else none
  | .holding cause =>
    let ran := match cause with
      | .response _ serves => s.ranFor serves
      | _ => s.ran
    some { s with sender := s.sender.wake cause, irq := .woke cause, ran := ran }
  | .woke (.response pkt _) => some { s with lockOwner := none, irq := .finishing pkt }
  | .woke .fwError | .woke .rfkill => some { s with lockOwner := none, irq := .idle }
  | .finishing pkt =>
    some { s with
      trans := finishComplete s.trans (iwlPcieGetCmdIndex (seqToIndex pkt.sequence))
      irq := .idle }

/-- `iwl_pcie_hcmd_complete` begins. -/
def responseIrq (s : SyncState) (pkt : RxPacket) : Option SyncState :=
  match s.irq with
  | .idle =>
    if seqToQueue pkt.sequence ≠ s.trans.cmdQueue.val then some s
    else some { s with
      trans := respond s.trans pkt
      irq := .responded pkt (s.serves pkt)
      processed := pkt.sequence :: s.processed }
  | _ => none

/-- `iwl_pcie_irq_handle_error`. Its call of `iwl_trans_fw_error` is commented out. -/
def fwErrorIrq (s : SyncState) : Option SyncState :=
  match s.irq with
  | .idle => some { s with trans := s.trans.setActive false, irq := .toLock .fwError }
  | _ => none

/-- `iwl_pcie_handle_rfkill_irq`, as `iwl_is_rfkill_set` and `opmode_down` say. -/
def rfkillIrq (s : SyncState) (hwRfkill opmodeDown : Bool) : Option SyncState :=
  let status := s.trans.status
  match s.irq with
  | .idle =>
    if hwRfkill then
      some { s with
        trans := { s.trans with status := { status with rfkillOpmode := true, rfkillHw := true } }
        irq := .rfkilled }
    else
      let opmode := if opmodeDown then false else status.rfkillOpmode
      some { s with
        trans := { s.trans with status := { status with rfkillHw := false, rfkillOpmode := opmode } } }
  | _ => none

/-- What happens next. -/
inductive SyncAct where
  | send (cmd : IwlHostCmd)
  | sender (env : EnqueueEnv)
  | deadline
  | response (pkt : RxPacket)
  | fwError
  | rfkill (hwRfkill opmodeDown : Bool)
  | irq

def syncStep (s : SyncState) : SyncAct → Option SyncState
  | .send cmd => sendHcmd s cmd
  | .sender env => senderStep env s
  | .deadline => deadlineStep s
  | .response pkt => responseIrq s pkt
  | .fwError => fwErrorIrq s
  | .rfkill hwRfkill opmodeDown => rfkillIrq s hwRfkill opmodeDown
  | .irq => irqStep s

/-! ### What holds in every state -/

/-- The sender has the lock. -/
def SenderPc.holdsLock : SenderPc → Bool
  | .locked _ | .relocked .. => true
  | _ => false

/-- The interrupt thread has the lock. -/
def IrqPc.holdsLock : IrqPc → Bool
  | .holding _ | .woke _ => true
  | _ => false

/-- The response being handled, and the command it was taken up for, up to the wakeup. -/
def IrqPc.serving : IrqPc → Option (RxPacket × Option Nat)
  | .responded pkt serves | .toLock (.response pkt serves) | .holding (.response pkt serves) =>
    some (pkt, serves)
  | _ => none

/-- The list of responses taken up has one with the sequence of the command. -/
def Answered (s : SyncState) (job : Job) : Prop :=
  ∃ sequence ∈ s.processed, seqToQueue sequence = s.trans.cmdQueue.val ∧
    seqToIndex sequence = job.index

/-- Whoever should have the lock has it, and a response taken up for the command under way has its
sequence. -/
structure Coherent (s : SyncState) : Prop where
  senderLock : s.sender.holdsLock = true → s.lockOwner = some .sender
  irqLock : s.irq.holdsLock = true → s.lockOwner = some .irq
  past : ∀ pkt n, s.irq.serving = some (pkt, some n) → n ≤ s.serial
  served : ∀ pkt, s.irq.serving = some (pkt, some s.serial) → ∀ job, s.sender.job = some job →
    job.index = seqToIndex pkt.sequence ∧ Answered s job

theorem coherent_start (trans : IwlTrans) : Coherent (.start trans) := by
  constructor <;> simp [SyncState.start, SenderPc.holdsLock, IrqPc.holdsLock, IrqPc.serving]

@[simp] theorem wake_holdsLock (cause : Cause) (pc : SenderPc) :
    (pc.wake cause).holdsLock = pc.holdsLock := by
  cases pc <;> rfl

@[simp] theorem wake_job (cause : Cause) (pc : SenderPc) : (pc.wake cause).job = pc.job := by
  cases pc <;> rfl

@[simp] theorem cancelHcmd_cmdQueue (trans : IwlTrans) (job : Job) :
    (cancelHcmd trans job).cmdQueue = trans.cmdQueue := by
  unfold cancelHcmd IwlTrans.dropResponse
  dsimp only
  split <;> rfl

/-- A step of the sender that stays with its command, or leaves it. -/
theorem Coherent.sender_keeps {s s' : SyncState} (coherent : Coherent s) (irq : s'.irq = s.irq)
    (serial : s'.serial = s.serial) (processed : s'.processed = s.processed)
    (queue : s'.trans.cmdQueue = s.trans.cmdQueue)
    (job : ∀ job, s'.sender.job = some job → s.sender.job = some job)
    (senderLock : s'.sender.holdsLock = true → s'.lockOwner = some .sender)
    (irqLock : s.irq.holdsLock = true → s'.lockOwner = some .irq) : Coherent s' := by
  refine ⟨senderLock, irq ▸ irqLock, ?_, ?_⟩
  · rw [irq, serial]
    exact coherent.past
  · rw [irq, serial]
    intro pkt serving job' current
    unfold Answered
    rw [processed, queue]
    exact coherent.served pkt serving job' (job job' current)

/-- **A call of the op-mode** is refused under RF-kill, or begins. -/
theorem sendHcmd_ok {s s' : SyncState} {cmd : IwlHostCmd} (stepped : sendHcmd s cmd = some s') :
    s.sender.ready = true ∧ cmd.flags.async = false ∧ ∃ sender,
      (sender = .entered cmd ∨ sender = .returned none .erfkill ∧ s.trans.status.rfkillOpmode = true) ∧
        s' = { s with trans := s.trans.dropResponse cmd.ptr, sender := sender } := by
  unfold sendHcmd at stepped
  dsimp only at stepped
  split at stepped
  · next allowed =>
    rw [Bool.and_eq_true, Bool.not_eq_true'] at allowed
    refine ⟨allowed.1, allowed.2, ?_⟩
    split at stepped
    · next refused =>
      cases stepped
      exact ⟨_, .inr ⟨rfl, (Bool.and_eq_true_iff.mp refused).2⟩, rfl⟩
    · cases stepped
      exact ⟨_, .inl rfl, rfl⟩
  · cases stepped

/-- The call of the op-mode. -/
theorem Coherent.send {s s' : SyncState} {cmd : IwlHostCmd} (coherent : Coherent s)
    (stepped : sendHcmd s cmd = some s') : Coherent s' := by
  obtain ⟨_, _, sender, begins, rfl⟩ := sendHcmd_ok stepped
  refine coherent.sender_keeps rfl rfl rfl rfl ?_ ?_ coherent.irqLock
  · rcases begins with rfl | ⟨rfl, _⟩ <;> simp [SenderPc.job]
  · rcases begins with rfl | ⟨rfl, _⟩ <;> simp [SenderPc.holdsLock]

/-- The command is enqueued: responses before are for others. -/
theorem Coherent.enqueue {env : EnqueueEnv} {s s' : SyncState} {cmd : IwlHostCmd}
    (coherent : Coherent s) (here : s.sender = .active cmd)
    (stepped : senderStep env s = some s') : Coherent s' := by
  have same := enqueue_same env cmd s.trans
  unfold senderStep at stepped
  rw [here] at stepped
  dsimp only at stepped
  split at stepped
  · rename_i e after failed
    rw [failed] at same
    cases stepped
    refine coherent.sender_keeps rfl rfl rfl same.1 ?_ ?_ coherent.irqLock
    · simp [SenderPc.job]
    · simp [SenderPc.holdsLock]
  · cases stepped
    refine ⟨by simp [SenderPc.holdsLock], coherent.irqLock, ?_, ?_⟩
    · intro pkt n serving
      exact Nat.le_succ_of_le (coherent.past pkt n serving)
    · intro pkt serving
      exact absurd (coherent.past pkt _ serving) (Nat.not_succ_le_self _)

theorem Coherent.sender {env : EnqueueEnv} {s s' : SyncState} (coherent : Coherent s)
    (stepped : senderStep env s = some s') : Coherent s' := by
  obtain ⟨trans, sender, irq, lockOwner, serial, processed, ran⟩ := s
  cases sender
  case active cmd => exact coherent.enqueue rfl stepped
  case relocked job cause =>
    have mine : lockOwner = some .sender := coherent.senderLock rfl
    have irqLock : irq.holdsLock = true → lockOwner = some .irq := coherent.irqLock
    have others : irq.holdsLock = true → none = some Party.irq := by simp_all
    cases cause
    all_goals
      cases stepped
      exact coherent.sender_keeps rfl rfl rfl rfl (fun _ => id) (by simp [SenderPc.holdsLock]) others
  all_goals
    simp only [senderStep] at stepped
    try split at stepped
    all_goals cases stepped
    all_goals
      have senderLock := coherent.senderLock
      have irqLock := coherent.irqLock
      refine coherent.sender_keeps rfl rfl rfl (by simp [IwlTrans.setActive]) ?_ ?_ ?_
      · simp [SenderPc.job]
      · simp [SenderPc.holdsLock]
      · simp_all [SenderPc.holdsLock]

theorem Coherent.deadline {s s' : SyncState} (coherent : Coherent s)
    (stepped : deadlineStep s = some s') : Coherent s' := by
  obtain ⟨trans, sender, irq, lockOwner, serial, processed, ran⟩ := s
  cases sender
  case asleep job =>
    cases stepped
    exact coherent.sender_keeps rfl rfl rfl rfl (fun _ => id) (by simp [SenderPc.holdsLock])
      coherent.irqLock
  all_goals cases stepped

/-- A step of the interrupt thread that takes up no response. -/
theorem Coherent.irq_keeps {s s' : SyncState} (coherent : Coherent s)
    (senderJob : s'.sender.job = s.sender.job) (serial : s'.serial = s.serial)
    (processed : s'.processed = s.processed) (queue : s'.trans.cmdQueue = s.trans.cmdQueue)
    (serving : ∀ pkt serves, s'.irq.serving = some (pkt, serves) → s.irq.serving = some (pkt, serves))
    (senderLock : s'.sender.holdsLock = true → s'.lockOwner = some .sender)
    (irqLock : s'.irq.holdsLock = true → s'.lockOwner = some .irq) : Coherent s' := by
  refine ⟨senderLock, irqLock, ?_, ?_⟩
  · rw [serial]
    exact fun pkt n later => coherent.past pkt n (serving pkt _ later)
  · rw [serial, senderJob]
    intro pkt later job current
    unfold Answered
    rw [processed, queue]
    exact coherent.served pkt (serving pkt _ later) job current

theorem Coherent.irq {s s' : SyncState} (coherent : Coherent s) (stepped : irqStep s = some s') :
    Coherent s' := by
  obtain ⟨trans, sender, irq, lockOwner, serial, processed, ran⟩ := s
  have senderLock : sender.holdsLock = true → lockOwner = some .sender := coherent.senderLock
  have irqLock : irq.holdsLock = true → lockOwner = some .irq := coherent.irqLock
  cases irq
  case woke cause =>
    have mine : lockOwner = some .irq := irqLock rfl
    have others : sender.holdsLock = true → none = some Party.sender := by simp_all
    cases cause
    all_goals
      cases stepped
      exact coherent.irq_keeps rfl rfl rfl rfl (by simp [IrqPc.serving]) others
        (by simp [IrqPc.holdsLock])
  case holding cause =>
    cases stepped
    exact coherent.irq_keeps (wake_job _ _) rfl rfl rfl (by simp [IrqPc.serving])
      (by simpa using senderLock) (fun _ => irqLock rfl)
  case toLock cause =>
    simp only [irqStep] at stepped
    split at stepped
    · rename_i free
      cases stepped
      refine coherent.irq_keeps rfl rfl rfl rfl ?_ ?_ (fun _ => rfl)
      · cases cause <;> exact fun _ _ => id
      · simp_all
    · cases stepped
  all_goals
    simp only [irqStep] at stepped
    try split at stepped
    all_goals cases stepped
    all_goals
      exact coherent.irq_keeps rfl rfl rfl rfl (by simp [IrqPc.serving]) senderLock
        (by simp [IrqPc.holdsLock])

/-- **A response taken up for the command under way has its sequence.** -/
theorem Coherent.response {s s' : SyncState} {pkt : RxPacket} (coherent : Coherent s)
    (stepped : responseIrq s pkt = some s') : Coherent s' := by
  obtain ⟨trans, sender, irq, lockOwner, serial, processed, ran⟩ := s
  cases irq
  case idle =>
    simp only [responseIrq] at stepped
    split at stepped
    · cases stepped
      exact coherent
    · rename_i own
      have own := not_not.mp own
      have queue : (respond trans pkt).cmdQueue = trans.cmdQueue := (respond_txq trans pkt).2.2
      cases stepped
      refine ⟨coherent.senderLock, by simp [IrqPc.holdsLock], ?_, ?_⟩
      · intro other n serving
        simp only [IrqPc.serving, SyncState.serves, Option.some.injEq, Prod.mk.injEq] at serving
        have is := serving.2
        split at is
        · split at is <;> cases is
          exact Nat.le_refl _
        · cases is
      · intro other serving job current
        simp only [IrqPc.serving, SyncState.serves, Option.some.injEq, Prod.mk.injEq] at serving
        obtain ⟨rfl, is⟩ := serving
        have here : sender.job = some job := current
        rw [here] at is
        dsimp only at is
        split at is
        · rename_i index
          exact ⟨index, pkt.sequence, .head _, by rw [queue]; exact own, index.symm⟩
        · cases is
  all_goals cases stepped

/-- An interrupt that is no response. -/
theorem Coherent.other {s s' : SyncState} (coherent : Coherent s)
    (stepped : fwErrorIrq s = some s' ∨ ∃ hw down, rfkillIrq s hw down = some s') : Coherent s' := by
  obtain ⟨trans, sender, irq, lockOwner, serial, processed, ran⟩ := s
  cases irq
  case idle =>
    rcases stepped with stepped | ⟨hw, down, stepped⟩
    · cases stepped
      exact coherent.irq_keeps rfl rfl rfl rfl (by simp [IrqPc.serving]) coherent.senderLock
        (by simp [IrqPc.holdsLock])
    · simp only [rfkillIrq] at stepped
      split at stepped
      all_goals
        cases stepped
        exact coherent.irq_keeps rfl rfl rfl rfl (by simp [IrqPc.serving]) coherent.senderLock
          (by simp [IrqPc.holdsLock])
  all_goals rcases stepped with stepped | ⟨hw, down, stepped⟩ <;> cases stepped

/-- **Every step keeps the state coherent.** -/
theorem Coherent.step {s s' : SyncState} (act : SyncAct) (coherent : Coherent s)
    (stepped : syncStep s act = some s') : Coherent s' := by
  cases act with
  | send cmd => exact coherent.send stepped
  | sender env => exact coherent.sender stepped
  | deadline => exact coherent.deadline stepped
  | response pkt => exact coherent.response stepped
  | fwError => exact coherent.other (.inl stepped)
  | rfkill hw down => exact coherent.other (.inr ⟨hw, down, stepped⟩)
  | irq => exact coherent.irq stepped

/-! ### The interrupt thread alone -/

/-- `iwl_pcie_hcmd_complete` is the steps of the interrupt thread, when nothing happens between
them. -/
theorem hcmdComplete_uninterrupted (s : SyncState) (pkt : RxPacket) (idle : s.irq = .idle)
    (free : s.lockOwner = none) :
    ∃ steps, (Machine.run syncStep s (.response pkt :: List.replicate steps .irq)).map
      SyncState.trans = some (iwlPcieHcmdComplete s.trans pkt) := by
  obtain ⟨trans, sender, irq, lockOwner, serial, processed, ran⟩ := s
  obtain rfl : irq = .idle := idle
  obtain rfl : lockOwner = none := free
  by_cases other : seqToQueue pkt.sequence ≠ trans.cmdQueue.val
  · refine ⟨0, ?_⟩
    simp [Machine.run, syncStep, responseIrq, iwlPcieHcmdComplete, other]
  · by_cases async : ((respond trans pkt).txq.entries
        (iwlPcieGetCmdIndex (seqToIndex pkt.sequence))).cmdMeta.flags.async = true
    · refine ⟨2, ?_⟩
      simp [Machine.run, List.replicate, syncStep, responseIrq, irqStep, iwlPcieHcmdComplete, other,
        async]
    · refine ⟨5, ?_⟩
      simp [Machine.run, List.replicate, syncStep, responseIrq, irqStep, iwlPcieHcmdComplete, other,
        async]

/-! ### Pieces of runs -/

/-- A command of 4 plain bytes. -/
def shortCmd : IwlHostCmd where
  ptr := 0x9000
  id := 0x08
  flags := .none
  first := ⟨[1, 2, 3, 4], by decide, false, false⟩
  second := ⟨[], nil_short, false, false⟩

/-- The sender goes on by `n` steps. -/
def senderGoes (n : Nat) : List SyncAct := List.replicate n (.sender fixedBuffers)

/-- A command is sent, up to the lock. -/
def enqueued : List SyncAct := .send shortCmd :: senderGoes 2

/-- `iwl_pcie_hcmd_complete` for a response with this sequence number, from beginning to end. -/
def completes (sequence : Nat) : List SyncAct :=
  .response ⟨0, 8, 0x08, 0, sequence⟩ :: List.replicate 5 .irq

end IntelWifi.Pcie
