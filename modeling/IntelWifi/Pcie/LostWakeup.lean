/-
**The wakeup a synchronous command can lose.**

`iwl_pcie_send_hcmd_sync` does not look at `STATUS_SYNC_HCMD_ACTIVE` again between taking the lock and
going to sleep. A response that is completed before the lock is taken wakes nobody, and the sender
sleeps until the deadline.

* `noLostWakeup`: in the runs where the response's wakeup is not issued between the enqueue and the
  lock, no wakeup is lost.
* `fastResponse_timesOut`: a run where it is.
-/

import IntelWifi.Pcie.HcmdSync

namespace IntelWifi.Pcie

/-- The sender is about to sleep, asleep, or past the deadline. -/
def SenderPc.unwoken : SenderPc → Bool
  | .queued _ | .locked _ | .asleep _ | .woken _ none | .relocked _ none | .timedOut _
  | .cancel _ .etimedout | .returned _ .etimedout => true
  | _ => false

/-- **No wakeup is lost**: once `iwl_pcie_hcmd_complete` has run for the response of the command
before its deadline, the sender neither sleeps nor returns `-ETIMEDOUT`. -/
def NoLostWakeup (s : SyncState) : Prop := s.ran = true → s.sender.unwoken = false

/-- The step is not the wakeup of the command's own response while the sender is between the enqueue
and the lock. -/
def wakesInTime (s : SyncState) : SyncAct → Bool
  | .irq =>
    match s.irq, s.sender with
    | .holding (.response _ serves), .queued _ => serves != some s.serial
    | _, _ => true
  | _ => true

/-- A synchronous command's slot does not say ASYNC, so its completion wakes. -/
structure Awaited (s : SyncState) : Prop where
  coherent : Coherent s
  entered : ∀ cmd, s.sender = .entered cmd ∨ s.sender = .active cmd → cmd.flags.async = false
  sync : ∀ job, s.sender.job = some job → (s.trans.txq.entries job.slot).cmdMeta.flags.async = false
  woken : NoLostWakeup s

theorem awaited_start (trans : IwlTrans) : Awaited (.start trans) where
  coherent := coherent_start trans
  entered := by simp [SyncState.start]
  sync := by simp [SyncState.start, SenderPc.job]
  woken := by simp [NoLostWakeup, SyncState.start]

/-- The sender moves on without touching a slot. -/
theorem Awaited.moves {s s' : SyncState} (awaited : Awaited s) (coherent : Coherent s')
    (entries : s'.trans.txq.entries = s.trans.txq.entries) (ran : s'.ran = s.ran)
    (entered : ∀ cmd, s'.sender = .entered cmd ∨ s'.sender = .active cmd → cmd.flags.async = false)
    (job : ∀ job, s'.sender.job = some job → s.sender.job = some job)
    (unwoken : s'.sender.unwoken = true → s.sender.unwoken = true) : Awaited s' where
  coherent := coherent
  entered := entered
  sync := by
    rw [entries]
    exact fun job' current => awaited.sync job' (job job' current)
  woken := by
    unfold NoLostWakeup
    rw [ran]
    intro before
    have awake := awaited.woken before
    exact Bool.eq_false_iff.mpr fun late => absurd (unwoken late) (Bool.eq_false_iff.mp awake)

theorem Awaited.send {s s' : SyncState} {cmd : IwlHostCmd} (awaited : Awaited s)
    (stepped : sendHcmd s cmd = some s') : Awaited s' := by
  have coherent := awaited.coherent.send stepped
  obtain ⟨_, sync, sender, begins, rfl⟩ := sendHcmd_ok stepped
  refine awaited.moves coherent rfl rfl ?_ ?_ ?_
  · rcases begins with rfl | ⟨rfl, _⟩ <;> simp [sync]
  · rcases begins with rfl | ⟨rfl, _⟩ <;> simp [SenderPc.job]
  · rcases begins with rfl | ⟨rfl, _⟩ <;> simp [SenderPc.unwoken]

/-- The slot of a new command has its flags. -/
theorem Awaited.enqueue {env : EnqueueEnv} {s s' : SyncState} {cmd : IwlHostCmd} (awaited : Awaited s)
    (here : s.sender = .active cmd) (stepped : senderStep env s = some s') : Awaited s' := by
  have coherent := awaited.coherent.sender stepped
  have sync := awaited.entered cmd (.inr here)
  have outcome := enqueue_outcome env cmd s.trans
  unfold senderStep at stepped
  rw [here] at stepped
  dsimp only at stepped
  split at stepped
  · cases stepped
    refine ⟨coherent, by simp, by simp [SenderPc.job], fun _ => rfl⟩
  · rename_i idx after accepted
    rw [accepted] at outcome
    cases stepped
    refine ⟨coherent, by simp, ?_, by simp [NoLostWakeup]⟩
    intro job current
    obtain rfl := Option.some.inj current
    show (after.txq.entries (iwlPcieGetCmdIndex s.trans.txq.writePtr)).cmdMeta.flags.async = false
    rw [outcome.2.flags]
    exact sync

theorem Awaited.sender {env : EnqueueEnv} {s s' : SyncState} (awaited : Awaited s)
    (stepped : senderStep env s = some s') : Awaited s' := by
  have coherent := awaited.coherent.sender stepped
  obtain ⟨trans, sender, irq, lockOwner, serial, processed, ran⟩ := s
  cases sender
  case active cmd => exact awaited.enqueue rfl stepped
  case cancel job result =>
    cases stepped
    refine ⟨coherent, by simp, by simp [SenderPc.job], fun before => ?_⟩
    have awake := awaited.woken before
    cases result <;> first | rfl | exact awake
  case relocked job cause =>
    cases cause
    all_goals
      cases stepped
      exact awaited.moves coherent rfl rfl (by simp) (fun _ => id) (by simp [SenderPc.unwoken])
  case woken job cause =>
    simp only [senderStep] at stepped
    split at stepped
    · cases stepped
      refine awaited.moves coherent rfl rfl (by simp) (fun _ => id) ?_
      cases cause <;> exact id
    · cases stepped
  case entered cmd =>
    have sync := awaited.entered cmd (.inl rfl)
    simp only [senderStep] at stepped
    split at stepped
    all_goals
      cases stepped
      exact awaited.moves coherent rfl rfl (by simp [sync]) (by simp [SenderPc.job])
        (by simp [SenderPc.unwoken])
  all_goals
    simp only [senderStep] at stepped
    try split at stepped
    all_goals cases stepped
    all_goals
      exact awaited.moves coherent rfl rfl (by simp) (by simp [SenderPc.job])
        (by simp [SenderPc.unwoken])

theorem Awaited.deadline {s s' : SyncState} (awaited : Awaited s) (stepped : deadlineStep s = some s') :
    Awaited s' := by
  have coherent := awaited.coherent.deadline stepped
  obtain ⟨trans, sender, irq, lockOwner, serial, processed, ran⟩ := s
  cases sender
  case asleep job =>
    cases stepped
    exact awaited.moves coherent rfl rfl (by simp) (fun _ => id) (fun _ => rfl)
  all_goals cases stepped

/-- An interrupt begins. -/
theorem Awaited.begins {s s' : SyncState} (awaited : Awaited s) (coherent : Coherent s')
    (sender : s'.sender = s.sender) (ran : s'.ran = s.ran)
    (flags : ∀ slot, (s'.trans.txq.entries slot).cmdMeta.flags.async = true →
      (s.trans.txq.entries slot).cmdMeta.flags.async = true) : Awaited s' where
  coherent := coherent
  entered := by
    rw [sender]
    exact awaited.entered
  sync := by
    rw [sender]
    intro job current
    exact Bool.eq_false_iff.mpr fun async =>
      absurd (flags _ async) (Bool.eq_false_iff.mp (awaited.sync job current))
  woken := by
    unfold NoLostWakeup
    rw [sender, ran]
    exact awaited.woken

theorem Awaited.response {s s' : SyncState} {pkt : RxPacket} (awaited : Awaited s)
    (stepped : responseIrq s pkt = some s') : Awaited s' := by
  have coherent := awaited.coherent.response stepped
  unfold responseIrq at stepped
  split at stepped
  · split at stepped
    · cases stepped
      exact awaited
    · cases stepped
      refine awaited.begins coherent rfl rfl fun slot async => ?_
      rw [← (respond_entries s.trans pkt slot).1]
      exact async
  · cases stepped

theorem Awaited.other {s s' : SyncState} (awaited : Awaited s)
    (stepped : fwErrorIrq s = some s' ∨ ∃ hw down, rfkillIrq s hw down = some s') : Awaited s' := by
  have coherent := awaited.coherent.other stepped
  rcases stepped with stepped | ⟨hw, down, stepped⟩
  · unfold fwErrorIrq at stepped
    split at stepped <;> cases stepped
    exact awaited.begins coherent rfl rfl fun _ => id
  · unfold rfkillIrq at stepped
    dsimp only at stepped
    split at stepped
    · split at stepped <;> cases stepped <;> exact awaited.begins coherent rfl rfl fun _ => id
    · cases stepped

/-- **The wakeup**: the sender cannot be on its way to sleep, for want of the lock or by the
condition, so its own response finds it asleep. -/
theorem Awaited.wakeup {s s' : SyncState} {cause : Cause} (awaited : Awaited s)
    (here : s.irq = .holding cause) (inTime : wakesInTime s .irq = true)
    (stepped : irqStep s = some s') : Awaited s' := by
  have coherent := awaited.coherent.irq stepped
  have irqLock := awaited.coherent.irqLock
  have senderLock := awaited.coherent.senderLock
  obtain ⟨trans, sender, irq, lockOwner, serial, processed, ran⟩ := s
  obtain rfl : irq = .holding cause := here
  have notLocked : sender.holdsLock = false := by
    have mine : lockOwner = some .irq := irqLock rfl
    exact Bool.eq_false_iff.mpr fun holds => by
      have theirs : lockOwner = some .sender := senderLock holds
      simp_all
  have unwoken : (sender.wake cause).unwoken = true → sender.unwoken = true := by
    cases sender <;> simp [SenderPc.wake, SenderPc.unwoken]
  cases stepped
  refine ⟨coherent, ?_, ?_, ?_⟩
  · have entered := awaited.entered
    cases sender <;> simp_all [SenderPc.wake]
  · intro job current
    exact awaited.sync job ((wake_job cause sender).symm.trans current)
  · intro now
    by_cases before : ran = true
    · have awake : sender.unwoken = false := awaited.woken before
      exact Bool.eq_false_iff.mpr fun late => absurd (unwoken late) (Bool.eq_false_iff.mp awake)
    · -- It is the command's own response, so the sender is before its deadline and not `queued`.
      cases cause with
      | response pkt serves =>
        simp only [SyncState.ranFor, before, Bool.false_or, Bool.and_eq_true, beq_iff_eq] at now
        obtain ⟨own, waiting⟩ := now
        cases sender
        case queued job => simp [wakesInTime, own] at inTime
        case locked job => cases notLocked
        case asleep job => rfl
        all_goals cases waiting
      | fwError => exact absurd now before
      | rfkill => exact absurd now before

theorem Awaited.irq {s s' : SyncState} (awaited : Awaited s) (inTime : wakesInTime s .irq = true)
    (stepped : irqStep s = some s') : Awaited s' := by
  have coherent := awaited.coherent.irq stepped
  rcases here : s.irq with _ | ⟨pkt, serves⟩ | _ | cause | cause | cause | pkt
  case holding => exact awaited.wakeup here inTime stepped
  case responded =>
    unfold irqStep at stepped
    rw [here] at stepped
    dsimp only at stepped
    split at stepped
    · rename_i async
      cases stepped
      -- A slot that says ASYNC is not the one of the command under way.
      have other : s.ranFor serves = s.ran := by
        unfold SyncState.ranFor
        by_cases own : serves = some s.serial
        · subst own
          cases under : s.sender.job with
          | none =>
            have late : s.sender.beforeDeadline = false := by
              rcases s with ⟨_, sender, _, _, _, _, _⟩
              cases sender <;> first | rfl | cases under
            rw [late, Bool.and_false, Bool.or_false]
          | some job =>
            obtain ⟨index, _⟩ := awaited.coherent.served pkt (by rw [here]; rfl) job under
            have sync := awaited.sync job under
            rw [Job.slot, index, async] at sync
            cases sync
        · rw [beq_eq_false_iff_ne.mpr own, Bool.false_and, Bool.or_false]
      exact awaited.begins coherent rfl other fun _ => id
    · cases stepped
      exact awaited.begins coherent rfl rfl fun _ => id
  case finishing =>
    unfold irqStep at stepped
    rw [here] at stepped
    cases stepped
    refine awaited.begins coherent rfl rfl fun slot async => ?_
    dsimp only at async
    rw [finishComplete_flags] at async
    split at async
    · cases async
    · exact async
  case woke =>
    unfold irqStep at stepped
    rw [here] at stepped
    cases cause <;> cases stepped <;> exact awaited.begins coherent rfl rfl fun _ => id
  all_goals
    unfold irqStep at stepped
    rw [here] at stepped
    dsimp only at stepped
    try split at stepped
    all_goals cases stepped
    all_goals exact awaited.begins coherent rfl rfl fun _ => id

theorem Awaited.step (s : SyncState) (act : SyncAct) (s' : SyncState) (awaited : Awaited s)
    (inTime : wakesInTime s act = true) (stepped : syncStep s act = some s') : Awaited s' := by
  cases act with
  | send cmd => exact awaited.send stepped
  | sender env => exact awaited.sender stepped
  | deadline => exact awaited.deadline stepped
  | response pkt => exact awaited.response stepped
  | fwError => exact awaited.other (.inl stepped)
  | rfkill hw down => exact awaited.other (.inr ⟨hw, down, stepped⟩)
  | irq => exact awaited.irq inTime stepped

/-- **No wakeup is lost** in a run, from any state of the transport, in which the wakeup of a
command's own response never falls between the enqueue and the lock. -/
theorem noLostWakeup (trans : IwlTrans) (acts : List SyncAct) (s : SyncState)
    (inTime : Machine.allowed syncStep wakesInTime (.start trans) acts = true)
    (ran : Machine.run syncStep (.start trans) acts = some s) : NoLostWakeup s :=
  (Machine.run_invariant_of_allowed Awaited Awaited.step (awaited_start trans) inTime ran).woken

/-- The response comes while the sender sleeps. -/
def slowRun : List SyncAct := enqueued ++ senderGoes 2 ++ completes 0 ++ senderGoes 5

/-- Nothing is lost in that run. -/
theorem noLostWakeup_slowRun :
    NoLostWakeup ((Machine.run syncStep (.start (.init 0 false false 0x10000)) slowRun).get
      (by decide)) :=
  noLostWakeup (.init 0 false false 0x10000) slowRun _ (by decide) (Option.some_get _).symm

/-- The response comes before the sender takes the lock; then the deadline passes. -/
def fastRun : List SyncAct := enqueued ++ completes 0 ++ senderGoes 2 ++ .deadline :: senderGoes 4

/-- **A response that is too fast** is completed, and the command returns `-ETIMEDOUT`. -/
theorem fastResponse_timesOut :
    ∃ s, Machine.run syncStep (.start (.init 0 false false 0x10000)) fastRun = some s ∧
      s.ran = true ∧ s.sender.result = some .etimedout ∧ ¬ NoLostWakeup s :=
  ⟨(Machine.run syncStep (.start (.init 0 false false 0x10000)) fastRun).get (by decide),
    (Option.some_get _).symm, by decide, by decide, fun kept => absurd (kept (by decide)) (by decide)⟩

end IntelWifi.Pcie
