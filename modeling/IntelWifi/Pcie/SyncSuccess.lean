/-
**What it means that a synchronous command succeeds.**

`STATUS_SYNC_HCMD_ACTIVE` and the lock are shared by all commands, by the firmware-error interrupt and
by rfkill, and the sender takes any wakeup for its own. The error interrupt does not set
`STATUS_FW_ERROR` before it wakes, as `iwl_trans_fw_error` is commented out.

* `successAnswered`: in the runs where every wakeup can be told apart by what the sender tests, a
  command that succeeds has been answered.
* `fwError_succeeds`: a firmware error makes a command succeed.
-/

import IntelWifi.Pcie.HcmdSync

namespace IntelWifi.Pcie

/-- **Success is truthful**: a command that returned 0 is in the queue's history with a response
taken up after it was enqueued that carries its sequence. -/
def TruthfulSuccess (s : SyncState) : Prop :=
  ∀ job, s.sender = .returned job .ok → ∃ sent, job = some sent ∧ Answered s sent

theorem TruthfulSuccess.processed {s : SyncState} (truthful : TruthfulSuccess s)
    (ok : s.sender.result = some .ok) : s.processed ≠ [] := by
  intro none
  cases here : s.sender
  case returned job result =>
    rw [here] at ok
    obtain rfl := Option.some.inj ok
    obtain ⟨_, _, sequence, member, _⟩ := truthful job here
    rw [none] at member
    cases member
  all_goals
    rw [here] at ok
    cases ok

/-- The command under way. -/
def SenderPc.command : SenderPc → Option IwlHostCmd
  | .entered cmd | .active cmd => some cmd
  | .queued job | .locked job | .asleep job | .woken job _ | .relocked job _ | .timedOut job
  | .testFwError job _ | .testRfkill job _ | .testResponse job | .cancel job _ => some job.cmd
  | _ => none

/-- The command that was awakened and has not tested `STATUS_RFKILL_OPMODE` yet, and by what. -/
def SenderPc.wokenBy : SenderPc → Option (Job × Cause)
  | .woken job (some cause) | .relocked job (some cause) | .testFwError job cause
  | .testRfkill job cause => some (job, cause)
  | _ => none

/-- The interrupt thread handles rfkill, up to the wakeup. -/
def IrqPc.rfkilling : IrqPc → Bool
  | .rfkilled | .toLock .rfkill | .holding .rfkill => true
  | _ => false

/-- The sender can tell that it is not the command's own response that wakes it: the command tests
for its response packet, or it is rfkill and the command tests for that. -/
def tellsWakeup (s : SyncState) (job : Job) : Cause → Bool
  | .response _ serves => job.cmd.flags.wantSkb || serves == some s.serial
  | .fwError => job.cmd.flags.wantSkb
  | .rfkill => job.cmd.flags.wantSkb || !job.cmd.flags.sendInRfkill

/-- The response is not given to the command under way, or is for it. -/
def givesOwn (s : SyncState) (pkt : RxPacket) : Bool :=
  let info := (s.trans.txq.entries (iwlPcieGetCmdIndex (seqToIndex pkt.sequence))).cmdMeta
  match s.sender.command with
  | none => true
  | some cmd =>
    !(cmd.flags.wantSkb && info.flags.wantSkb && info.source == some cmd.ptr) ||
      (s.serves pkt).isSome

/-- The command awakened by rfkill still finds `STATUS_RFKILL_OPMODE` set. -/
def rfkillLasts (s : SyncState) : Bool :=
  match s.sender.wokenBy with
  | some (job, .rfkill) => job.cmd.flags.wantSkb
  | _ => true

/-- The condition on steps: each wakeup of the sleeping sender can be told, a response packet is given
to its own command, and rfkill is not lifted before the command it woke has seen it. -/
def attributable (s : SyncState) : SyncAct → Bool
  | .irq =>
    match s.irq, s.sender with
    | .holding cause, .asleep job => tellsWakeup s job cause
    | _, _ => true
  | .response pkt => seqToQueue pkt.sequence != s.trans.cmdQueue.val || givesOwn s pkt
  | .rfkill false true => rfkillLasts s
  | _ => true

/-- What the sender knows at each point. -/
structure Truthful (s : SyncState) : Prop where
  coherent : Coherent s
  fresh : ∀ cmd, s.sender = .entered cmd ∨ s.sender = .active cmd → cmd.flags.wantSkb = true →
    s.trans.respPkt cmd.ptr = none
  given : ∀ job, s.sender.job = some job → job.cmd.flags.wantSkb = true →
    s.trans.respPkt job.cmd.ptr ≠ none → Answered s job
  woken : ∀ job cause, s.sender.wokenBy = some (job, cause) → Answered s job ∨
    job.cmd.flags.wantSkb = true ∨ cause = .rfkill ∧ job.cmd.flags.sendInRfkill = false ∧
      s.trans.status.rfkillOpmode = true
  tested : ∀ job, s.sender = .testResponse job → Answered s job ∨ job.cmd.flags.wantSkb = true
  cancelled : ∀ job, s.sender ≠ .cancel job .ok
  success : TruthfulSuccess s
  rfkill : s.irq.rfkilling = true → s.trans.status.rfkillOpmode = true

theorem truthful_start (trans : IwlTrans) : Truthful (.start trans) where
  coherent := coherent_start trans
  fresh := by simp [SyncState.start]
  given := by simp [SyncState.start, SenderPc.job]
  woken := by simp [SyncState.start, SenderPc.wokenBy]
  tested := by simp [SyncState.start]
  cancelled := by simp [SyncState.start]
  success := by simp [TruthfulSuccess, SyncState.start]
  rfkill := by simp [SyncState.start, IrqPc.rfkilling]

theorem Answered.mono {s s' : SyncState} {job : Job} (answered : Answered s job)
    (processed : ∀ sequence ∈ s.processed, sequence ∈ s'.processed)
    (queue : s'.trans.cmdQueue = s.trans.cmdQueue) : Answered s' job := by
  obtain ⟨sequence, member, own, index⟩ := answered
  exact ⟨sequence, processed _ member, queue ▸ own, index⟩

/-! ### The sender -/

/-- A step of the sender that learns nothing new. -/
theorem Truthful.moves {s s' : SyncState} (truthful : Truthful s) (coherent : Coherent s')
    (irq : s'.irq = s.irq) (processed : s'.processed = s.processed)
    (queue : s'.trans.cmdQueue = s.trans.cmdQueue) (respPkt : s'.trans.respPkt = s.trans.respPkt)
    (opmode : s'.trans.status.rfkillOpmode = s.trans.status.rfkillOpmode)
    (entered : ∀ cmd, s'.sender = .entered cmd ∨ s'.sender = .active cmd →
      s.sender = .entered cmd ∨ s.sender = .active cmd)
    (job : ∀ job, s'.sender.job = some job → s.sender.job = some job)
    (woken : ∀ job cause, s'.sender.wokenBy = some (job, cause) →
      s.sender.wokenBy = some (job, cause))
    (tested : ∀ job, s'.sender = .testResponse job →
      Answered s job ∨ job.cmd.flags.wantSkb = true)
    (cancelled : ∀ job, s'.sender ≠ .cancel job .ok)
    (success : ∀ job, s'.sender = .returned job .ok → ∃ sent, job = some sent ∧ Answered s sent) :
    Truthful s' := by
  have answered (job : Job) (before : Answered s job) : Answered s' job :=
    before.mono (processed ▸ fun _ => id) queue
  refine ⟨coherent, ?_, ?_, ?_, ?_, cancelled, ?_, ?_⟩
  · rw [respPkt]
    exact fun cmd here => truthful.fresh cmd (entered cmd here)
  · rw [respPkt]
    exact fun job' current wants got => answered job' (truthful.given job' (job job' current) wants got)
  · rw [opmode]
    exact fun job' cause here => (truthful.woken job' cause (woken job' cause here)).imp_left
      (answered job')
  · exact fun job' here => (tested job' here).imp_left (answered job')
  · intro job' here
    obtain ⟨sent, is, before⟩ := success job' here
    exact ⟨sent, is, answered sent before⟩
  · rw [irq, opmode]
    exact truthful.rfkill

/-- The call of the op-mode: the command starts without a response. -/
theorem Truthful.send {s s' : SyncState} {cmd : IwlHostCmd} (truthful : Truthful s)
    (stepped : sendHcmd s cmd = some s') : Truthful s' := by
  have coherent := truthful.coherent.send stepped
  obtain ⟨_, _, sender, begins, rfl⟩ := sendHcmd_ok stepped
  rcases begins with rfl | ⟨rfl, _⟩
  all_goals
    refine ⟨coherent, ?_, by simp [SenderPc.job], by simp [SenderPc.wokenBy], by simp, by simp,
      by simp [TruthfulSuccess], truthful.rfkill⟩
    simp [IwlTrans.dropResponse]

/-- The command is enqueued: it has no response yet. -/
theorem Truthful.enqueue {env : EnqueueEnv} {s s' : SyncState} {cmd : IwlHostCmd}
    (truthful : Truthful s) (here : s.sender = .active cmd)
    (stepped : senderStep env s = some s') : Truthful s' := by
  have coherent := truthful.coherent.sender stepped
  have fresh := truthful.fresh cmd (.inr here)
  obtain ⟨_, status, respPkt⟩ := enqueue_same env cmd s.trans
  unfold senderStep at stepped
  rw [here] at stepped
  dsimp only at stepped
  have opmode : (iwlPcieEnqueueHcmd env cmd s.trans).2.status.rfkillOpmode =
      s.trans.status.rfkillOpmode := by rw [status]
  split at stepped
  · rename_i e after failed
    rw [failed] at opmode
    cases stepped
    exact ⟨coherent, by simp, by simp [SenderPc.job], by simp [SenderPc.wokenBy], by simp, by simp,
      by simp [TruthfulSuccess], fun handles => opmode.trans (truthful.rfkill handles)⟩
  · rename_i idx after accepted
    rw [accepted] at opmode respPkt
    cases stepped
    refine ⟨coherent, by simp, ?_, by simp [SenderPc.wokenBy], by simp, by simp,
      by simp [TruthfulSuccess], fun handles => opmode.trans (truthful.rfkill handles)⟩
    intro job current wants got
    obtain rfl := Option.some.inj current
    exact absurd ((congrFun respPkt cmd.ptr).trans (fresh wants)) got

theorem Truthful.sender {env : EnqueueEnv} {s s' : SyncState} (truthful : Truthful s)
    (stepped : senderStep env s = some s') : Truthful s' := by
  have coherent := truthful.coherent.sender stepped
  obtain ⟨trans, sender, irq, lockOwner, serial, processed, ran⟩ := s
  cases sender
  case active cmd => exact truthful.enqueue rfl stepped
  case cancel job result =>
    have failed := truthful.cancelled job
    cases stepped
    refine ⟨coherent, by simp, by simp [SenderPc.job], by simp [SenderPc.wokenBy], by simp, by simp,
      ?_, ?_⟩
    · intro job' here
      obtain ⟨_, rfl⟩ := SenderPc.returned.inj here
      exact absurd rfl failed
    · have opmode : (cancelHcmd trans job).status = trans.status := by
        unfold cancelHcmd IwlTrans.dropResponse
        dsimp only
        split <;> rfl
      rw [opmode]
      exact truthful.rfkill
  case testRfkill job cause =>
    have known := truthful.woken job cause rfl
    simp only [senderStep] at stepped
    split at stepped
    · cases stepped
      exact truthful.moves coherent rfl rfl rfl rfl rfl (by simp) (fun _ => id)
        (by simp [SenderPc.wokenBy]) (by simp) (by simp) (by simp)
    · rename_i clear
      cases stepped
      refine truthful.moves coherent rfl rfl rfl rfl rfl (by simp) (fun _ => id)
        (by simp [SenderPc.wokenBy]) ?_ (by simp) (by simp)
      intro job' here
      obtain rfl := SenderPc.testResponse.inj here
      -- Were it rfkill, the test would have found it.
      rcases known with answered | wants | ⟨_, tests, opmode⟩
      · exact .inl answered
      · exact .inr wants
      · exact absurd (by simp_all) clear
  case testResponse job =>
    have known := truthful.tested job rfl
    have given := truthful.given job rfl
    simp only [senderStep] at stepped
    split at stepped
    · cases stepped
      exact truthful.moves coherent rfl rfl rfl rfl rfl (by simp) (fun _ => id)
        (by simp [SenderPc.wokenBy]) (by simp) (by simp) (by simp)
    · rename_i got
      cases stepped
      refine truthful.moves coherent rfl rfl rfl rfl rfl (by simp) (by simp [SenderPc.job])
        (by simp [SenderPc.wokenBy]) (by simp) (by simp) ?_
      intro job' here
      obtain ⟨rfl, _⟩ := SenderPc.returned.inj here
      refine ⟨job, rfl, known.elim id fun wants => given wants fun none => ?_⟩
      exact got (by simp_all)
  case relocked job cause =>
    cases cause
    all_goals
      cases stepped
      exact truthful.moves coherent rfl rfl rfl rfl rfl (by simp) (fun _ => id)
        (by simp [SenderPc.wokenBy]) (by simp) (by simp) (by simp)
  case woken job cause =>
    simp only [senderStep] at stepped
    split at stepped
    · cases stepped
      refine truthful.moves coherent rfl rfl rfl rfl rfl (by simp) (fun _ => id) ?_ (by simp) (by simp)
        (by simp)
      cases cause <;> simp [SenderPc.wokenBy]
    · cases stepped
  all_goals
    simp only [senderStep] at stepped
    try split at stepped
    all_goals cases stepped
    all_goals
      exact truthful.moves coherent rfl rfl rfl rfl rfl (by simp) (by simp [SenderPc.job])
        (by simp [SenderPc.wokenBy]) (by simp) (by simp) (by simp)

theorem Truthful.deadline {s s' : SyncState} (truthful : Truthful s)
    (stepped : deadlineStep s = some s') : Truthful s' := by
  have coherent := truthful.coherent.deadline stepped
  obtain ⟨trans, sender, irq, lockOwner, serial, processed, ran⟩ := s
  cases sender
  case asleep job =>
    cases stepped
    exact truthful.moves coherent rfl rfl rfl rfl rfl (by simp) (fun _ => id)
      (by simp [SenderPc.wokenBy]) (by simp) (by simp) (by simp)
  all_goals cases stepped

/-! ### The interrupt thread -/

/-- A step of the interrupt thread that leaves the sender where it is. -/
theorem Truthful.stays {s s' : SyncState} (truthful : Truthful s) (coherent : Coherent s')
    (sender : s'.sender = s.sender) (queue : s'.trans.cmdQueue = s.trans.cmdQueue)
    (processed : ∀ sequence ∈ s.processed, sequence ∈ s'.processed)
    (respPkt : ∀ cmd, s.sender.command = some cmd → cmd.flags.wantSkb = true →
      s'.trans.respPkt cmd.ptr ≠ none → s.trans.respPkt cmd.ptr ≠ none ∨
        ∃ job, s.sender.job = some job ∧ job.cmd = cmd ∧ Answered s' job)
    (opmode : ∀ job, s.sender.wokenBy = some (job, .rfkill) → job.cmd.flags.wantSkb = false →
      s.trans.status.rfkillOpmode = true → s'.trans.status.rfkillOpmode = true)
    (rfkill : s'.irq.rfkilling = true → s'.trans.status.rfkillOpmode = true) : Truthful s' := by
  have answered (job : Job) (before : Answered s job) : Answered s' job := before.mono processed queue
  refine ⟨coherent, ?_, ?_, ?_, ?_, ?_, ?_, rfkill⟩
  · rw [sender]
    intro cmd here wants
    have under : s.sender.command = some cmd := by rcases here with here | here <;> rw [here] <;> rfl
    have none : s.sender.job = Option.none := by rcases here with here | here <;> rw [here] <;> rfl
    by_contra got
    rcases respPkt cmd under wants got with before | ⟨job, some, _⟩
    · exact before (truthful.fresh cmd here wants)
    · rw [none] at some
      cases some
  · rw [sender]
    intro job current wants got
    have under : s.sender.command = some job.cmd := by
      rcases s with ⟨_, pc, _, _, _, _, _⟩
      cases pc <;> cases current <;> rfl
    rcases respPkt job.cmd under wants got with before | ⟨job', current', _, after⟩
    · exact answered job (truthful.given job current wants before)
    · obtain rfl := Option.some.inj (current.symm.trans current')
      exact after
  · rw [sender]
    intro job cause here
    rcases truthful.woken job cause here with before | wants | ⟨rfl, tests, set⟩
    · exact .inl (answered job before)
    · exact .inr (.inl wants)
    · cases wants : job.cmd.flags.wantSkb with
      | true => exact .inr (.inl rfl)
      | false => exact .inr (.inr ⟨rfl, tests, opmode job here wants set⟩)
  · rw [sender]
    exact fun job here => (truthful.tested job here).imp_left (answered job)
  · rw [sender]
    exact truthful.cancelled
  · unfold TruthfulSuccess
    rw [sender]
    intro job here
    obtain ⟨sent, is, before⟩ := truthful.success job here
    exact ⟨sent, is, answered sent before⟩

/-- The same when neither the responses nor the rfkill bit change. -/
theorem Truthful.waits {s s' : SyncState} (truthful : Truthful s) (coherent : Coherent s')
    (sender : s'.sender = s.sender) (queue : s'.trans.cmdQueue = s.trans.cmdQueue)
    (processed : s'.processed = s.processed) (respPkt : s'.trans.respPkt = s.trans.respPkt)
    (opmode : s'.trans.status.rfkillOpmode = s.trans.status.rfkillOpmode)
    (rfkill : s'.irq.rfkilling = true → s.irq.rfkilling = true) : Truthful s' :=
  truthful.stays coherent sender queue (processed ▸ fun _ => id)
    (fun _ _ _ got => .inl (respPkt ▸ got)) (fun _ _ _ set => opmode.trans set)
    (fun handles => opmode.trans (truthful.rfkill (rfkill handles)))

/-- A response is taken up. -/
theorem Truthful.response {s s' : SyncState} {pkt : RxPacket} (truthful : Truthful s)
    (ok : attributable s (.response pkt) = true) (stepped : responseIrq s pkt = some s') :
    Truthful s' := by
  have coherent := truthful.coherent.response stepped
  unfold responseIrq at stepped
  split at stepped
  · split at stepped
    · cases stepped
      exact truthful
    · rename_i own
      have own := not_not.mp own
      obtain ⟨_, status, queue⟩ := respond_txq s.trans pkt
      cases stepped
      refine truthful.stays coherent rfl queue (fun _ => .tail _) ?_ ?_ (by simp [IrqPc.rfkilling])
      · intro cmd under wants got
        by_cases same : (respond s.trans pkt).respPkt cmd.ptr = s.trans.respPkt cmd.ptr
        · exact .inl (same ▸ got)
        · -- The packet is given to this command, so it has its sequence.
          obtain ⟨slotWants, source⟩ := respond_respPkt same
          have serves : (s.serves pkt).isSome = true := by
            simpa [attributable, givesOwn, own, under, wants, slotWants, source] using ok
          unfold SyncState.serves at serves
          split at serves
          · rename_i job current
            split at serves
            · rename_i index
              have is : job.cmd = cmd := by
                rcases s with ⟨_, pc, _, _, _, _, _⟩
                cases pc <;> cases current <;> exact Option.some.inj under
              exact .inr ⟨job, current, is, pkt.sequence, .head _, by rw [queue]; exact own,
                index.symm⟩
            · cases serves
          · cases serves
      · intro _ _ _ set
        dsimp only
        rw [status]
        exact set
  · cases stepped

theorem Truthful.fwError {s s' : SyncState} (truthful : Truthful s) (stepped : fwErrorIrq s = some s') :
    Truthful s' := by
  have coherent := truthful.coherent.other (.inl stepped)
  unfold fwErrorIrq at stepped
  split at stepped <;> cases stepped
  exact truthful.waits coherent rfl rfl rfl rfl rfl (by simp [IrqPc.rfkilling])

/-- The rfkill interrupt begins: the bit is set, or cleared for a sender it did not wake. -/
theorem Truthful.rfkillIrq {s s' : SyncState} {hw down : Bool} (truthful : Truthful s)
    (ok : attributable s (.rfkill hw down) = true) (stepped : rfkillIrq s hw down = some s') :
    Truthful s' := by
  have coherent := truthful.coherent.other (.inr ⟨hw, down, stepped⟩)
  unfold IntelWifi.Pcie.rfkillIrq at stepped
  dsimp only at stepped
  split at stepped
  · rename_i idle
    split at stepped
    · cases stepped
      exact truthful.stays coherent rfl rfl (fun _ => id) (fun _ _ _ got => .inl got)
        (fun _ _ _ _ => rfl) (fun _ => rfl)
    · rename_i off
      cases stepped
      refine truthful.stays coherent rfl rfl (fun _ => id) (fun _ _ _ got => .inl got) ?_ ?_
      · intro job here plain set
        cases down with
        | false => exact set
        | true =>
          rw [Bool.not_eq_true] at off
          subst off
          simp [attributable, rfkillLasts, here, plain] at ok
      · show s.irq.rfkilling = true → _
        rw [idle]
        exact fun handles => absurd handles (by decide)
  · cases stepped

/-- **The wakeup**: what wakes the sleeping sender can be told. -/
theorem Truthful.wakeup {s s' : SyncState} {cause : Cause} (truthful : Truthful s)
    (here : s.irq = .holding cause) (ok : attributable s .irq = true)
    (stepped : irqStep s = some s') : Truthful s' := by
  have coherent := truthful.coherent.irq stepped
  cases asleep : s.sender
  case asleep job =>
    have tells : tellsWakeup s job cause = true := by simpa [attributable, here, asleep] using ok
    have known : Answered s job ∨ job.cmd.flags.wantSkb = true ∨ cause = .rfkill ∧
        job.cmd.flags.sendInRfkill = false ∧ s.trans.status.rfkillOpmode = true := by
      cases cause with
      | response pkt serves =>
        rcases Bool.or_eq_true _ _ ▸ tells with wants | own
        · exact .inr (.inl wants)
        · rw [beq_iff_eq] at own
          subst own
          exact .inl (truthful.coherent.served pkt (by rw [here]; rfl) job
            (by rw [asleep]; rfl)).2
      | fwError => exact .inr (.inl tells)
      | rfkill =>
        rcases Bool.or_eq_true _ _ ▸ tells with wants | tests
        · exact .inr (.inl wants)
        · exact .inr (.inr ⟨rfl, Bool.not_eq_true' _ ▸ tests, truthful.rfkill (by rw [here]; rfl)⟩)
    have given := truthful.given job (by rw [asleep]; rfl)
    unfold irqStep at stepped
    rw [here] at stepped
    cases stepped
    rw [asleep] at coherent ⊢
    refine ⟨coherent, by simp [SenderPc.wake], ?_, ?_, by simp [SenderPc.wake],
      by simp [SenderPc.wake], by simp [TruthfulSuccess, SenderPc.wake], by simp [IrqPc.rfkilling]⟩
    · intro job' current
      obtain rfl := Option.some.inj current
      exact given
    · intro job' cause' woke
      obtain ⟨rfl, rfl⟩ := Prod.mk.inj (Option.some.inj woke)
      exact known
  all_goals
    unfold irqStep at stepped
    rw [here] at stepped
    cases stepped
    refine truthful.waits coherent ?_ rfl rfl rfl rfl (by simp [IrqPc.rfkilling])
    show s.sender.wake cause = s.sender
    rw [asleep]
    rfl

theorem Truthful.irq {s s' : SyncState} (truthful : Truthful s) (ok : attributable s .irq = true)
    (stepped : irqStep s = some s') : Truthful s' := by
  have coherent := truthful.coherent.irq stepped
  cases here : s.irq
  case holding cause => exact truthful.wakeup here ok stepped
  case woke cause =>
    unfold irqStep at stepped
    rw [here] at stepped
    cases cause <;> cases stepped <;>
      exact truthful.waits coherent rfl rfl rfl rfl rfl (by simp [IrqPc.rfkilling])
  case toLock cause =>
    unfold irqStep at stepped
    rw [here] at stepped
    dsimp only at stepped
    split at stepped
    · cases stepped
      refine truthful.waits coherent rfl rfl rfl rfl rfl ?_
      rw [here]
      cases cause <;> exact id
    · cases stepped
  case rfkilled =>
    unfold irqStep at stepped
    rw [here] at stepped
    cases stepped
    refine truthful.waits coherent rfl rfl rfl rfl rfl ?_
    rw [here]
    exact id
  all_goals
    unfold irqStep at stepped
    rw [here] at stepped
    dsimp only at stepped
    try split at stepped
    all_goals cases stepped
    all_goals exact truthful.waits coherent rfl rfl rfl rfl rfl (by simp [IrqPc.rfkilling])

theorem Truthful.step (s : SyncState) (act : SyncAct) (s' : SyncState) (truthful : Truthful s)
    (ok : attributable s act = true) (stepped : syncStep s act = some s') : Truthful s' := by
  cases act with
  | send cmd => exact truthful.send stepped
  | sender env => exact truthful.sender stepped
  | deadline => exact truthful.deadline stepped
  | response pkt => exact truthful.response ok stepped
  | fwError => exact truthful.fwError stepped
  | rfkill hw down => exact truthful.rfkillIrq ok stepped
  | irq => exact truthful.irq ok stepped

/-- **A command that succeeds was answered**, in every run, from any state of the transport, whose
wakeups can all be told. -/
theorem successAnswered (trans : IwlTrans) (acts : List SyncAct) (s : SyncState)
    (ok : Machine.allowed syncStep attributable (.start trans) acts = true)
    (ran : Machine.run syncStep (.start trans) acts = some s) : TruthfulSuccess s :=
  (Machine.run_invariant_of_allowed Truthful Truthful.step (truthful_start trans) ok ran).success

/-- A command is answered while it sleeps. -/
def answeredRun : List SyncAct := enqueued ++ senderGoes 2 ++ completes 0 ++ senderGoes 5

/-- That run ends in a success that is truthful. -/
theorem successAnswered_answeredRun :
    TruthfulSuccess ((Machine.run syncStep (.start (.init 0 false false 0x10000)) answeredRun).get
      (by decide)) :=
  successAnswered (.init 0 false false 0x10000) answeredRun _ (by decide) (Option.some_get _).symm

/-- The firmware fails while a command sleeps. -/
def fwErrorRun : List SyncAct :=
  enqueued ++ senderGoes 2 ++ .fwError :: List.replicate 3 .irq ++ senderGoes 5

/-- **A firmware error makes the command succeed** that it wakes, with no response at all. -/
theorem fwError_succeeds :
    ∃ s, Machine.run syncStep (.start (.init 0 false false 0x10000)) fwErrorRun = some s ∧
      s.sender.result = some .ok ∧ s.processed = [] ∧ ¬ TruthfulSuccess s := by
  refine ⟨(Machine.run syncStep (.start (.init 0 false false 0x10000)) fwErrorRun).get (by decide),
    (Option.some_get _).symm, by decide, by decide, fun truthful => ?_⟩
  exact absurd (truthful.processed (by decide)) (by decide)

end IntelWifi.Pcie
