/-
**Writes through `meta->source`.**

The host command of a synchronous call is on its caller's stack; the slot has its address as long as the
command wants a response. `iwl_pcie_hcmd_complete` tests `CMD_WANT_SKB` in the slot and then writes the
fields `resp_pkt`, `_rx_page_addr` and `_rx_page_order` of the command, reading `meta->source` each time;
`iwl_pcie_send_hcmd_sync` clears the bit before it returns without success. No lock is shared: that of the
queue is commented out on both sides.

Any number of threads call `iwl_pcie_send_hcmd_sync`, each with the steps of `IntelWifi.Pcie.HcmdSync`, and
asynchronous commands come from anywhere. Filling a slot is one step. `calls` and `owner` are for stating
what happened: they number the calls of a thread, and say whose address is in a slot.

* `OwnersLive`: a slot that wants a response belongs to a call that has not returned.
* `noDeadWrite`: the runs in which a completion writes into such calls only.
-/

import IntelWifi.Pcie.HcmdSync
import IntelWifi.Pcie.NicHold

namespace IntelWifi.Pcie

/-- A thread that sends synchronous commands. -/
structure Caller where
  pc : SenderPc
  /-- How many calls it has made. -/
  calls : Nat
  /-- The address of the last one's host command. -/
  ptr : Nat

/-- Where the interrupt thread is, with the accesses of `iwl_pcie_hcmd_complete` to a slot's `meta`. -/
inductive CompletePc where
  /-- Before `CMD_WANT_SKB` is tested. -/
  | reading (pkt : RxPacket)
  /-- It was set, and so many of the three fields are written. -/
  | giving (pkt : RxPacket) (done : Fin 3)
  /-- Before `iwl_pcie_cmdq_reclaim`. -/
  | reclaiming (pkt : RxPacket)
  /-- Before that, or after it. -/
  | around (pc : IrqPc)

structure HcmdState (n : Nat) where
  trans : IwlTrans
  callers : Fin n → Caller
  irq : CompletePc
  lockOwner : Option Party
  /-- The call whose command's address is in a slot. -/
  owner : Slot → Option (Fin n × Nat)
  /-- A completion has written through the address of no call, or of one that has returned. -/
  dead : Bool

variable {n : Nat}

/-- Nothing is going on. -/
def HcmdState.start (n : Nat) (trans : IwlTrans) : HcmdState n :=
  ⟨trans, fun _ => ⟨.idle, 0, 0⟩, .around .idle, none, fun _ => none, false⟩

/-- What one thread and the interrupt thread share. -/
def HcmdState.view (s : HcmdState n) (sender : SenderPc) (irq : IrqPc) : SyncState :=
  ⟨s.trans, sender, irq, s.lockOwner, 0, [], false⟩

/-- The thread has gone on. -/
def HcmdState.moved (s : HcmdState n) (t : Fin n) (next : SyncState) : HcmdState n :=
  { s with
    trans := next.trans
    callers := Function.update s.callers t { s.callers t with pc := next.sender }
    lockOwner := next.lockOwner }

/-- The response whose command is being written. -/
def CompletePc.given : CompletePc → Option Slot
  | .giving pkt _ => some (iwlPcieGetCmdIndex (seqToIndex pkt.sequence))
  | _ => none

/-- The owner of a slot has not returned. -/
def HcmdState.ownerLives (s : HcmdState n) (slot : Slot) : Bool :=
  match s.owner slot with
  | some (t, call) => call == (s.callers t).calls && !(s.callers t).pc.ready
  | none => false

/-- `iwl_trans_pcie_send_hcmd` for a synchronous command. Host commands in use are at different
addresses. -/
def HcmdState.send (s : HcmdState n) (t : Fin n) (cmd : IwlHostCmd) : Option (HcmdState n) :=
  if ∀ t', t' ≠ t → (s.callers t').pc.ready = false → (s.callers t').ptr ≠ cmd.ptr then
    (sendHcmd (s.view (s.callers t).pc .idle) cmd).map fun next =>
      { s with
        trans := next.trans
        callers := Function.update s.callers t ⟨next.sender, (s.callers t).calls + 1, cmd.ptr⟩ }
  else none

/-- `owner` after `iwl_pcie_enqueue_hcmd`: a command that passes the checks has its address in the slot. -/
def HcmdState.ownerAfter (s : HcmdState n) (env : EnqueueEnv) (cmd : IwlHostCmd)
    (call : Option (Fin n × Nat)) : Slot → Option (Fin n × Nat) :=
  if (admitted env cmd s.trans).isSome then
    Function.update s.owner (iwlPcieGetCmdIndex s.trans.txq.writePtr) (if cmd.flags.wantSkb then call else none)
  else s.owner

/-- The next step of a thread. -/
def HcmdState.thread (s : HcmdState n) (t : Fin n) (env : EnqueueEnv) : Option (HcmdState n) :=
  (senderStep env (s.view (s.callers t).pc .idle)).map fun next =>
    match (s.callers t).pc with
    | .active cmd => { s.moved t next with owner := s.ownerAfter env cmd (some (t, (s.callers t).calls)) }
    | _ => s.moved t next

/-- `iwl_trans_pcie_send_hcmd` for an asynchronous command, which cannot want a response. -/
def HcmdState.sendAsync (s : HcmdState n) (env : EnqueueEnv) (cmd : IwlHostCmd) : Option (HcmdState n) :=
  if !cmd.flags.async then none
  else if !cmd.flags.sendInRfkill && s.trans.status.rfkillOpmode then some s
  else if cmd.flags.wantSkb then some s
  else some { s with
    trans := (iwlPcieEnqueueHcmd env cmd s.trans).2
    owner := s.ownerAfter env cmd none }

/-- `iwl_pcie_hcmd_complete` begins: the slot's buffers are unmapped. -/
def HcmdState.response (s : HcmdState n) (pkt : RxPacket) : Option (HcmdState n) :=
  match s.irq with
  | .around .idle =>
    if seqToQueue pkt.sequence ≠ s.trans.cmdQueue.val then some s
    else some { s with
      trans := { s.trans with txq := iwlPcieTfdUnmap s.trans.txq (seqToIndex pkt.sequence) }
      irq := .reading pkt }
  | _ => none

/-- The next step of the interrupt thread; `t` is the thread that a wakeup reaches, if it sleeps. -/
def HcmdState.interrupt (s : HcmdState n) (t : Fin n) : Option (HcmdState n) :=
  match s.irq with
  | .reading pkt =>
    let info := (s.trans.txq.entries (iwlPcieGetCmdIndex (seqToIndex pkt.sequence))).cmdMeta
    some { s with irq := if info.flags.wantSkb then .giving pkt 0 else .reclaiming pkt }
  | .giving pkt done =>
    let slot := iwlPcieGetCmdIndex (seqToIndex pkt.sequence)
    some { s with
      -- the first of the fields is `resp_pkt`
      trans := if done = 0 then giveResponse s.trans (s.trans.txq.entries slot).cmdMeta.source pkt else s.trans
      irq := if done = 2 then .reclaiming pkt else .giving pkt (done + 1)
      dead := s.dead || !s.ownerLives slot }
  | .reclaiming pkt =>
    some { s with
      trans := iwlPcieCmdqReclaim s.trans (seqToIndex pkt.sequence)
      irq := .around (.responded pkt none) }
  | .around pc =>
    (irqStep (s.view (s.callers t).pc pc)).map fun next => { s.moved t next with irq := .around next.irq }

/-- An interrupt that is no response. -/
def HcmdState.other (s : HcmdState n) (irq : SyncState → Option SyncState) : Option (HcmdState n) :=
  match s.irq with
  | .around pc => (irq (s.view .idle pc)).map fun next => { s with trans := next.trans, irq := .around next.irq }
  | _ => none

inductive HcmdAct (n : Nat) where
  | send (t : Fin n) (cmd : IwlHostCmd)
  | thread (t : Fin n) (env : EnqueueEnv)
  /-- The deadline of a sleep passes. -/
  | deadline (t : Fin n)
  | sendAsync (env : EnqueueEnv) (cmd : IwlHostCmd)
  | response (pkt : RxPacket)
  | interrupt (t : Fin n)
  | fwError
  | rfkill (hwRfkill opmodeDown : Bool)

def hcmdStep (s : HcmdState n) : HcmdAct n → Option (HcmdState n)
  | .send t cmd => s.send t cmd
  | .thread t env => s.thread t env
  | .deadline t => (deadlineStep (s.view (s.callers t).pc .idle)).map (s.moved t)
  | .sendAsync env cmd => s.sendAsync env cmd
  | .response pkt => s.response pkt
  | .interrupt t => s.interrupt t
  | .fwError => s.other fwErrorIrq
  | .rfkill hwRfkill opmodeDown => s.other fun view => rfkillIrq view hwRfkill opmodeDown

/-! ### The condition on steps -/

/-- The step ends the thread's call. -/
def HcmdState.returns (s : HcmdState n) (t : Fin n) (env : EnqueueEnv) : Bool :=
  (senderStep env (s.view (s.callers t).pc .idle)).any fun next => next.sender.ready

/-- A completion is writing fields of the call's host command. -/
def HcmdState.beingGiven (s : HcmdState n) (t : Fin n) : Bool :=
  s.irq.given.any fun slot => s.owner slot == some (t, (s.callers t).calls)

/-- The command takes the slot that a completion is writing through, and has no address of its own. -/
def HcmdState.takesGiven (s : HcmdState n) (env : EnqueueEnv) (cmd : IwlHostCmd) : Bool :=
  (admitted env cmd s.trans).isSome && !cmd.flags.wantSkb &&
    s.irq.given == some (iwlPcieGetCmdIndex s.trans.txq.writePtr)

/-- The command fails with its address and its flags in the slot: `iwl_pcie_set_cmd_in_flight` fails. -/
def HcmdState.failsFilled (s : HcmdState n) (env : EnqueueEnv) (cmd : IwlHostCmd) : Bool :=
  cmd.flags.wantSkb &&
    match (iwlPcieEnqueueHcmd env cmd s.trans).1 with
    | .error .eio => true
    | _ => false

/-- **The condition on steps**: no call returns while a completion is writing its host command; no command
without an address takes the slot of such a completion; and no command that wants a response fails in
`iwl_pcie_set_cmd_in_flight`. -/
def sparesOwners (s : HcmdState n) : HcmdAct n → Bool
  | .thread t env =>
    !(s.returns t env && s.beingGiven t) &&
      match (s.callers t).pc with
      | .active cmd => !s.takesGiven env cmd && !s.failsFilled env cmd
      | _ => true
  | .sendAsync env cmd => !s.takesGiven env cmd
  | _ => true

/-! ### The invariant -/

/-- The slot of the response that the interrupt thread handles, once all fields are written. -/
def CompletePc.written : CompletePc → Option Slot
  | .reclaiming pkt | .around (.responded pkt _) | .around (.toLock (.response pkt _))
  | .around (.holding (.response pkt _)) | .around (.woke (.response pkt _)) | .around (.finishing pkt) =>
    some (iwlPcieGetCmdIndex (seqToIndex pkt.sequence))
  | _ => none

/-- The same once `resp_pkt` is written. -/
def CompletePc.started : CompletePc → Option Slot
  | .giving pkt done => if done = 0 then none else some (iwlPcieGetCmdIndex (seqToIndex pkt.sequence))
  | pc => pc.written

/-- The command that is not enqueued yet. -/
def SenderPc.fresh : SenderPc → Option IwlHostCmd
  | .entered cmd | .active cmd => some cmd
  | _ => none

/-- The slot has `CMD_WANT_SKB`. -/
def HcmdState.Wants (s : HcmdState n) (slot : Slot) : Prop :=
  (s.trans.txq.entries slot).cmdMeta.flags.wantSkb = true

/-- The slot's owner is the call that the thread is in. -/
def HcmdState.OwnedBy (s : HcmdState n) (slot : Slot) (t : Fin n) : Prop :=
  s.owner slot = some (t, (s.callers t).calls) ∧ (s.callers t).pc.ready = false

/-- The response of the thread's call has been given to it. -/
def HcmdState.Given (s : HcmdState n) (t : Fin n) : Prop := s.trans.respPkt (s.callers t).ptr ≠ none

/-- **A slot that wants a response belongs to a call that has not returned**, unless the completion that
handles it is through with its fields. -/
structure OwnersLive (s : HcmdState n) : Prop where
  clean : s.dead = false
  past : ∀ slot t call, s.owner slot = some (t, call) → call ≤ (s.callers t).calls
  wanted : ∀ slot, s.Wants slot → (∃ t, s.OwnedBy slot t) ∨ s.irq.written = some slot
  given : ∀ slot, s.irq.given = some slot → ∃ t, s.OwnedBy slot t
  source : ∀ slot t, s.OwnedBy slot t →
    (s.trans.txq.entries slot).cmdMeta.source = some (s.callers t).ptr
  placed : ∀ slot t, s.OwnedBy slot t → (s.callers t).pc.fresh = none ∧
    (∀ job, (s.callers t).pc.job = some job → job.slot = slot ∧ job.cmd.flags.wantSkb = true) ∧
    ((s.callers t).pc.job = none → ¬ s.Wants slot)
  new : ∀ t cmd, (s.callers t).pc.fresh = some cmd → cmd.ptr = (s.callers t).ptr ∧ ¬ s.Given t
  jobs : ∀ t job, (s.callers t).pc.job = some job → job.cmd.ptr = (s.callers t).ptr
  answered : ∀ slot t, s.OwnedBy slot t → s.Wants slot → s.Given t → s.irq.started = some slot
  apart : ∀ t t', t ≠ t' → (s.callers t).pc.ready = false → (s.callers t').pc.ready = false →
    (s.callers t).ptr ≠ (s.callers t').ptr

/-- A host command under way. -/
theorem ready_of_fresh {pc : SenderPc} {cmd : IwlHostCmd} (fresh : pc.fresh = some cmd) :
    pc.ready = false ∧ pc.job = none := by
  cases pc <;> first | exact ⟨rfl, rfl⟩ | cases fresh

theorem ready_of_job {pc : SenderPc} {job : Job} (is : pc.job = some job) :
    pc.ready = false ∧ pc.fresh = none := by
  cases pc <;> first | exact ⟨rfl, rfl⟩ | cases is

variable {s s' : HcmdState n}

/-- A step that takes no slot, gives no response and ends no call. -/
structure Calm (s s' : HcmdState n) : Prop where
  dead : s'.dead = s.dead
  owner : s'.owner = s.owner
  wants : ∀ slot, s'.Wants slot → s.Wants slot
  source : ∀ slot, (s'.trans.txq.entries slot).cmdMeta.source = (s.trans.txq.entries slot).cmdMeta.source
  resp : ∀ ptr, s'.trans.respPkt ptr ≠ none → s.trans.respPkt ptr ≠ none
  callers : ∀ t, (s'.callers t).calls = (s.callers t).calls ∧ (s'.callers t).ptr = (s.callers t).ptr ∧
    (s'.callers t).pc.ready = (s.callers t).pc.ready ∧ (s'.callers t).pc.job = (s.callers t).pc.job ∧
    ((s'.callers t).pc.fresh = none ∨ (s'.callers t).pc.fresh = (s.callers t).pc.fresh)
  written : ∀ slot, s'.Wants slot → s.irq.written = some slot → s'.irq.written = some slot
  given : ∀ slot, s'.irq.given = some slot → s.irq.given = some slot ∨ s.Wants slot ∧ s.irq.written = none
  started : ∀ slot, s'.Wants slot → s.irq.started = some slot → s'.irq.started = some slot

theorem Calm.ownedBy (calm : Calm s s') (slot : Slot) (t : Fin n) : s'.OwnedBy slot t ↔ s.OwnedBy slot t := by
  obtain ⟨calls, _, ready, _⟩ := calm.callers t
  rw [HcmdState.OwnedBy, HcmdState.OwnedBy, calm.owner, calls, ready]

theorem OwnersLive.calm (live : OwnersLive s) (calm : Calm s s') : OwnersLive s' where
  clean := calm.dead.trans live.clean
  past := fun slot t call is => by
    rw [calm.owner] at is
    rw [(calm.callers t).1]
    exact live.past slot t call is
  wanted := fun slot wants => by
    simp only [calm.ownedBy]
    exact (live.wanted slot (calm.wants slot wants)).imp_right (calm.written slot wants)
  given := fun slot is => by
    simp only [calm.ownedBy]
    rcases calm.given slot is with before | ⟨wants, none⟩
    · exact live.given slot before
    · exact (live.wanted slot wants).resolve_right fun written => by rw [none] at written; cases written
  source := fun slot t owned => by
    rw [calm.source, (calm.callers t).2.1]
    exact live.source slot t ((calm.ownedBy slot t).mp owned)
  placed := fun slot t owned => by
    obtain ⟨fresh, job, none⟩ := live.placed slot t ((calm.ownedBy slot t).mp owned)
    obtain ⟨_, _, _, sameJob, sameFresh⟩ := calm.callers t
    rw [sameJob]
    exact ⟨sameFresh.elim id fun same => same.trans fresh, job, fun no wants => none no (calm.wants slot wants)⟩
  new := fun t cmd is => by
    obtain ⟨_, ptr, _, _, sameFresh⟩ := calm.callers t
    rw [sameFresh.resolve_left fun none => by rw [none] at is; cases is] at is
    obtain ⟨same, not⟩ := live.new t cmd is
    refine ⟨same.trans ptr.symm, fun given => not (calm.resp _ ?_)⟩
    rw [HcmdState.Given, ptr] at given
    exact given
  jobs := fun t job is => by
    obtain ⟨_, ptr, _, sameJob, _⟩ := calm.callers t
    rw [sameJob] at is
    exact (live.jobs t job is).trans ptr.symm
  answered := fun slot t owned wants given => by
    rw [HcmdState.Given, (calm.callers t).2.1] at given
    exact calm.started slot wants (live.answered slot t ((calm.ownedBy slot t).mp owned)
      (calm.wants slot wants) (calm.resp _ given))
  apart := fun t t' differ ready ready' => by
    rw [(calm.callers t).2.2.1] at ready
    rw [(calm.callers t').2.2.1] at ready'
    rw [(calm.callers t).2.1, (calm.callers t').2.1]
    exact live.apart t t' differ ready ready'

/-- A step that ends a call. -/
structure Ends (s s' : HcmdState n) (t : Fin n) : Prop where
  dead : s'.dead = s.dead
  owner : s'.owner = s.owner
  irq : s'.irq = s.irq
  wants : ∀ slot, s'.Wants slot → s.Wants slot
  source : ∀ slot, (s'.trans.txq.entries slot).cmdMeta.source = (s.trans.txq.entries slot).cmdMeta.source
  resp : ∀ ptr, s'.trans.respPkt ptr ≠ none → s.trans.respPkt ptr ≠ none
  others : ∀ t', t' ≠ t → s'.callers t' = s.callers t'
  calls : (s'.callers t).calls = (s.callers t).calls
  ready : (s'.callers t).pc.ready = true
  free : ∀ slot, s.irq.given = some slot → ¬ s.OwnedBy slot t
  done : ∀ slot, s.OwnedBy slot t → s'.Wants slot → s.irq.written = some slot

/-- The calls that go on. -/
theorem Ends.ownedBy {t : Fin n} (ends : Ends s s' t) (slot : Slot) (t' : Fin n) :
    s'.OwnedBy slot t' ↔ t' ≠ t ∧ s.OwnedBy slot t' := by
  by_cases same : t' = t
  · subst same
    refine iff_of_false (fun owned => ?_) fun both => both.1 rfl
    rw [HcmdState.OwnedBy, ends.ready] at owned
    exact Bool.false_ne_true owned.2.symm
  · rw [and_iff_right same, HcmdState.OwnedBy, HcmdState.OwnedBy, ends.owner, ends.others t' same]

theorem OwnersLive.ends {t : Fin n} (live : OwnersLive s) (ends : Ends s s' t) : OwnersLive s' := by
  have going : ∀ t', (s'.callers t').pc.ready = false → t' ≠ t := by
    rintro t' ready rfl
    exact Bool.false_ne_true (ready.symm.trans ends.ready)
  have resp : ∀ t', t' ≠ t → s'.Given t' → s.Given t' := by
    intro t' other given
    rw [HcmdState.Given, ends.others t' other] at given
    exact ends.resp _ given
  constructor
  case clean => exact ends.dead.trans live.clean
  case past =>
    intro slot t' call is
    rw [ends.owner] at is
    by_cases same : t' = t
    · subst same
      rw [ends.calls]
      exact live.past slot t' call is
    · rw [ends.others t' same]
      exact live.past slot t' call is
  case wanted =>
    intro slot wants
    rw [ends.irq]
    rcases live.wanted slot (ends.wants slot wants) with ⟨t', owned⟩ | written
    · by_cases same : t' = t
      · subst same
        exact .inr (ends.done slot owned wants)
      · exact .inl ⟨t', (ends.ownedBy slot t').mpr ⟨same, owned⟩⟩
    · exact .inr written
  case given =>
    intro slot is
    rw [ends.irq] at is
    obtain ⟨t', owned⟩ := live.given slot is
    refine ⟨t', (ends.ownedBy slot t').mpr ⟨?_, owned⟩⟩
    rintro rfl
    exact ends.free slot is owned
  case source =>
    intro slot t' owned
    obtain ⟨other, owned⟩ := (ends.ownedBy slot t').mp owned
    rw [ends.source, ends.others t' other]
    exact live.source slot t' owned
  case placed =>
    intro slot t' owned
    obtain ⟨other, owned⟩ := (ends.ownedBy slot t').mp owned
    rw [ends.others t' other]
    obtain ⟨fresh, job, none⟩ := live.placed slot t' owned
    exact ⟨fresh, job, fun no wants => none no (ends.wants slot wants)⟩
  case new =>
    intro t' cmd is
    have other := going t' (ready_of_fresh is).1
    rw [ends.others t' other] at is ⊢
    obtain ⟨same, not⟩ := live.new t' cmd is
    exact ⟨same, fun given => not (resp t' other given)⟩
  case jobs =>
    intro t' job is
    have other := going t' (ready_of_job is).1
    rw [ends.others t' other] at is ⊢
    exact live.jobs t' job is
  case answered =>
    intro slot t' owned wants given
    obtain ⟨other, owned⟩ := (ends.ownedBy slot t').mp owned
    rw [ends.irq]
    exact live.answered slot t' owned (ends.wants slot wants) (resp t' other given)
  case apart =>
    intro a b differ readyA readyB
    have otherA := going a readyA
    have otherB := going b readyB
    rw [ends.others a otherA] at readyA ⊢
    rw [ends.others b otherB] at readyB ⊢
    exact live.apart a b differ readyA readyB

/-- A step by which a command takes a slot. -/
structure Takes (s s' : HcmdState n) (slot : Slot) : Prop where
  dead : s'.dead = s.dead
  irq : s'.irq = s.irq
  resp : s'.trans.respPkt = s.trans.respPkt
  owner : ∀ other, other ≠ slot → s'.owner other = s.owner other
  wants : ∀ other, other ≠ slot → s'.Wants other → s.Wants other
  source : ∀ other, other ≠ slot →
    (s'.trans.txq.entries other).cmdMeta.source = (s.trans.txq.entries other).cmdMeta.source
  callers : ∀ t, (s'.callers t).calls = (s.callers t).calls ∧ (s'.callers t).ptr = (s.callers t).ptr ∧
    (s'.callers t).pc.ready = (s.callers t).pc.ready
  others : ∀ t, (s.callers t).pc.fresh = none → s'.callers t = s.callers t
  new : ∀ t cmd, (s'.callers t).pc.fresh = some cmd → (s.callers t).pc.fresh = some cmd
  jobs : ∀ t job, (s'.callers t).pc.job = some job → job.cmd.ptr = (s.callers t).ptr
  /-- What the slot is after it. -/
  past : ∀ t call, s'.owner slot = some (t, call) → call ≤ (s.callers t).calls
  wanted : s'.Wants slot → ∃ t, s'.OwnedBy slot t
  given : s.irq.given = some slot → ∃ t, s'.OwnedBy slot t
  taken : ∀ t, s'.OwnedBy slot t →
    (s'.trans.txq.entries slot).cmdMeta.source = some (s.callers t).ptr ∧ ¬ s.Given t ∧
      (s'.callers t).pc.fresh = none ∧
      (∀ job, (s'.callers t).pc.job = some job → job.slot = slot ∧ job.cmd.flags.wantSkb = true) ∧
      ((s'.callers t).pc.job = none → ¬ s'.Wants slot)

theorem Takes.ownedBy {slot : Slot} (takes : Takes s s' slot) {other : Slot} (differ : other ≠ slot)
    (t : Fin n) : s'.OwnedBy other t ↔ s.OwnedBy other t := by
  obtain ⟨calls, _, ready⟩ := takes.callers t
  rw [HcmdState.OwnedBy, HcmdState.OwnedBy, takes.owner other differ, calls, ready]

theorem Takes.given_iff {slot : Slot} (takes : Takes s s' slot) (t : Fin n) : s'.Given t ↔ s.Given t := by
  rw [HcmdState.Given, HcmdState.Given, takes.resp, (takes.callers t).2.1]

theorem OwnersLive.takes {slot : Slot} (live : OwnersLive s) (takes : Takes s s' slot) : OwnersLive s' := by
  constructor
  case clean => exact takes.dead.trans live.clean
  case past =>
    intro k t call is
    rw [(takes.callers t).1]
    by_cases same : k = slot
    · exact takes.past t call (same ▸ is)
    · rw [takes.owner k same] at is
      exact live.past k t call is
  case wanted =>
    intro k wants
    by_cases same : k = slot
    · subst same
      exact .inl (takes.wanted wants)
    · simp only [takes.ownedBy same, takes.irq]
      exact live.wanted k (takes.wants k same wants)
  case given =>
    intro k is
    rw [takes.irq] at is
    by_cases same : k = slot
    · subst same
      exact takes.given is
    · simp only [takes.ownedBy same]
      exact live.given k is
  case source =>
    intro k t owned
    rw [(takes.callers t).2.1]
    by_cases same : k = slot
    · subst same
      exact (takes.taken t owned).1
    · rw [takes.source k same]
      exact live.source k t ((takes.ownedBy same t).mp owned)
  case placed =>
    intro k t owned
    by_cases same : k = slot
    · subst same
      exact (takes.taken t owned).2.2
    · obtain ⟨fresh, job, none⟩ := live.placed k t ((takes.ownedBy same t).mp owned)
      rw [takes.others t fresh]
      exact ⟨fresh, job, fun no wants => none no (takes.wants k same wants)⟩
  case new =>
    intro t cmd is
    rw [takes.given_iff, (takes.callers t).2.1]
    exact live.new t cmd (takes.new t cmd is)
  case jobs =>
    intro t job is
    rw [(takes.callers t).2.1]
    exact takes.jobs t job is
  case answered =>
    intro k t owned wants given
    rw [takes.given_iff] at given
    by_cases same : k = slot
    · subst same
      exact absurd given (takes.taken t owned).2.1
    · rw [takes.irq]
      exact live.answered k t ((takes.ownedBy same t).mp owned) (takes.wants k same wants) given
  case apart =>
    intro a b differ readyA readyB
    rw [(takes.callers a).2.2] at readyA
    rw [(takes.callers b).2.2] at readyB
    rw [(takes.callers a).2.1, (takes.callers b).2.1]
    exact live.apart a b differ readyA readyB

/-! ### What `iwl_pcie_enqueue_hcmd` leaves in the slot -/

/-- Mapping a part keeps the slot's owner and flags. -/
theorem mapPart_meta {env : EnqueueEnv} {idx : Slot} {st st' : IwlTrans} {part : Nat × List UInt8}
    (mapped : mapPart env idx st part = .ok st') :
    (st'.txq.entries idx).cmdMeta.source = (st.txq.entries idx).cmdMeta.source ∧
      (st'.txq.entries idx).cmdMeta.flags = (st.txq.entries idx).cmdMeta.flags := by
  unfold mapPart at mapped
  split at mapped
  · cases mapped
  · next dma _ =>
    cases mapped
    obtain ⟨tfd, built⟩ := buildTfd_eq (st.txq.setEntry idx
      ((st.txq.entries idx).setDma part.1 ⟨dma, part.2.length⟩)) dma part.2.length false
    dsimp only
    rw [built, setTfd_entries, setEntry_same]
    exact ⟨rfl, rfl⟩

/-- So does mapping them all, or up to one without a buffer. -/
theorem mapParts_meta {env : EnqueueEnv} {idx : Slot} (parts : List (Nat × List UInt8)) {st st' : IwlTrans}
    (mapped : parts.foldlM (mapPart env idx) st = .ok st' ∨ parts.foldlM (mapPart env idx) st = .error st') :
    (st'.txq.entries idx).cmdMeta.source = (st.txq.entries idx).cmdMeta.source ∧
      (st'.txq.entries idx).cmdMeta.flags = (st.txq.entries idx).cmdMeta.flags := by
  induction parts generalizing st with
  | nil =>
    rcases mapped with same | same
    · cases same
      exact ⟨rfl, rfl⟩
    · cases same
  | cons part rest ih =>
    rw [List.foldlM_cons] at mapped
    cases first : mapPart env idx st part with
    | error mid =>
      rw [first] at mapped
      rcases mapped with same | same
      · cases same
      · cases same
        rw [mapPart_error first]
        exact ⟨rfl, rfl⟩
    | ok mid =>
      rw [first] at mapped
      have kept := mapPart_meta first
      have later := ih mapped
      exact ⟨later.1.trans kept.1, later.2.trans kept.2⟩

/-- **The slot of a command that passes the checks**: its address, and its flags unless a buffer is
missing. -/
theorem enqueuePlanned_meta (env : EnqueueEnv) (cmd : IwlHostCmd) (plan : HcmdPlan) (st : IwlTrans) :
    let done := enqueuePlanned env cmd plan st
    let info := (done.2.txq.entries (iwlPcieGetCmdIndex st.txq.writePtr)).cmdMeta
    Owned cmd info ∧ (info.flags = .none ∧ (∃ e, done.1 = .error e) ∨
      info.flags = cmd.flags ∧ ((∃ idx, done.1 = .ok idx) ∨ done.1 = .error .eio)) := by
  unfold enqueuePlanned
  dsimp only
  generalize fillSlot cmd _ _ = out
  obtain ⟨started, owned⟩ := startTfd_frame cmd out st
  have flags : ((startTfd cmd out (iwlPcieGetCmdIndex st.txq.writePtr) st).txq.entries
      (iwlPcieGetCmdIndex st.txq.writePtr)).cmdMeta.flags = .none := by
    unfold startTfd
    dsimp only
    obtain ⟨tfd, built⟩ := buildTfd_eq (st.txq.setEntry (iwlPcieGetCmdIndex st.txq.writePtr)
      ⟨out.cmd, (st.txq.entries (iwlPcieGetCmdIndex st.txq.writePtr)).freeBuf,
        { IwlCmdMeta.zero with source := if cmd.flags.wantSkb then some cmd.ptr else none }⟩)
      (iwlPcieGetFirstTbDma st.txq (iwlPcieGetCmdIndex st.txq.writePtr)) (min out.copySize iwlFirstTbSize) true
    rw [built, setTfd_entries, setEntry_same]
    rfl
  generalize startTfd cmd out (iwlPcieGetCmdIndex st.txq.writePtr) st = first at started owned flags ⊢
  cases mapped : (hcmdParts plan out).foldlM (mapPart env (iwlPcieGetCmdIndex st.txq.writePtr)) first with
  | error mid =>
    dsimp only
    obtain ⟨source, same⟩ := mapParts_meta _ (.inr mapped)
    rcases tfdUnmap_entries mid.txq mid.txq.writePtr (iwlPcieGetCmdIndex st.txq.writePtr) with kept | ⟨_, kept⟩
    all_goals
      rw [kept]
      exact ⟨source.trans owned, .inl ⟨same.trans flags, _, rfl⟩⟩
  | ok mid =>
    dsimp only
    obtain ⟨source, same⟩ := mapParts_meta _ (.inl mapped)
    obtain ⟨txq, _⟩ := setCmdInFlight_txq env cmd (finishSlot cmd plan (iwlPcieGetCmdIndex st.txq.writePtr) mid)
    have entry : (finishSlot cmd plan (iwlPcieGetCmdIndex st.txq.writePtr) mid).txq.entries
        (iwlPcieGetCmdIndex st.txq.writePtr) =
          finishEntry cmd plan (mid.txq.entries (iwlPcieGetCmdIndex st.txq.writePtr)) := setEntry_same _ _ _
    have eio : ∀ e, (iwlPcieSetCmdInFlight env cmd
        (finishSlot cmd plan (iwlPcieGetCmdIndex st.txq.writePtr) mid)).1 = .error e → e = .eio := by
      intro e
      unfold iwlPcieSetCmdInFlight
      dsimp only
      split_ifs <;> intro is <;> cases is <;> rfl
    generalize iwlPcieSetCmdInFlight env cmd
      (finishSlot cmd plan (iwlPcieGetCmdIndex st.txq.writePtr) mid) = flight at txq eio ⊢
    obtain ⟨result, last⟩ := flight
    dsimp only at txq eio
    cases result with
    | error e =>
      obtain rfl := eio e rfl
      dsimp only
      rw [txq, entry]
      exact ⟨source.trans owned, .inr ⟨rfl, .inr rfl⟩⟩
    | ok _ =>
      dsimp only
      rw [txq, entry]
      exact ⟨source.trans owned, .inr ⟨rfl, .inl ⟨_, rfl⟩⟩⟩

theorem enqueue_of_admitted {env : EnqueueEnv} {cmd : IwlHostCmd} {st : IwlTrans}
    (passes : (admitted env cmd st).isSome = true) :
    let done := iwlPcieEnqueueHcmd env cmd st
    let info := (done.2.txq.entries (iwlPcieGetCmdIndex st.txq.writePtr)).cmdMeta
    Owned cmd info ∧ (info.flags = .none ∧ (∃ e, done.1 = .error e) ∨
      info.flags = cmd.flags ∧ ((∃ idx, done.1 = .ok idx) ∨ done.1 = .error .eio)) := by
  obtain ⟨plan, admits⟩ := Option.isSome_iff_exists.mp passes
  have planned := enqueue_eq env cmd st
  rw [admits] at planned
  dsimp only at planned ⊢
  rw [planned]
  exact enqueuePlanned_meta env cmd plan st

theorem enqueue_of_refused {env : EnqueueEnv} {cmd : IwlHostCmd} {st : IwlTrans}
    (refused : ¬ (admitted env cmd st).isSome = true) : (iwlPcieEnqueueHcmd env cmd st).2 = st := by
  have same := enqueue_eq env cmd st
  rw [Option.not_isSome_iff_eq_none.mp refused] at same
  exact same

/-- The other slots. -/
theorem enqueue_otherSlots (env : EnqueueEnv) (cmd : IwlHostCmd) (st : IwlTrans) {slot : Slot}
    (other : slot ≠ iwlPcieGetCmdIndex st.txq.writePtr) :
    (iwlPcieEnqueueHcmd env cmd st).2.txq.entries slot = st.txq.entries slot := by
  have outcome := enqueue_outcome env cmd st
  generalize iwlPcieEnqueueHcmd env cmd st = done at outcome ⊢
  obtain ⟨result, last⟩ := done
  cases result with
  | error e => exact outcome.entries slot other
  | ok idx => exact outcome.2.only.entries slot other

/-! ### Steps that take a slot -/

/-- A command that does not pass the checks takes none. -/
theorem ownerAfter_refused {env : EnqueueEnv} {cmd : IwlHostCmd} (refused : ¬ (admitted env cmd s.trans).isSome = true)
    (call : Option (Fin n × Nat)) : s.ownerAfter env cmd call = s.owner := if_neg refused

theorem ownerAfter_slot {env : EnqueueEnv} {cmd : IwlHostCmd} (passes : (admitted env cmd s.trans).isSome = true)
    (call : Option (Fin n × Nat)) :
    s.ownerAfter env cmd call (iwlPcieGetCmdIndex s.trans.txq.writePtr) =
      if cmd.flags.wantSkb then call else none := by
  rw [HcmdState.ownerAfter, if_pos passes, Function.update_self]

theorem ownerAfter_other {env : EnqueueEnv} {cmd : IwlHostCmd} (call : Option (Fin n × Nat)) {slot : Slot}
    (other : slot ≠ iwlPcieGetCmdIndex s.trans.txq.writePtr) :
    s.ownerAfter env cmd call slot = s.owner slot := by
  unfold HcmdState.ownerAfter
  split
  · exact Function.update_of_ne other _ _
  · rfl

/-- An asynchronous command. -/
theorem OwnersLive.sendAsync (live : OwnersLive s) {env : EnqueueEnv} {cmd : IwlHostCmd}
    (spares : s.takesGiven env cmd = false) (stepped : s.sendAsync env cmd = some s') : OwnersLive s' := by
  unfold HcmdState.sendAsync at stepped
  split_ifs at stepped with sync rfkill wants
  · cases stepped
    exact live
  · cases stepped
    exact live
  · cases stepped
    by_cases passes : (admitted env cmd s.trans).isSome = true
    · obtain ⟨_, flags⟩ := enqueue_of_admitted passes
      have unwanted : ((iwlPcieEnqueueHcmd env cmd s.trans).2.txq.entries
          (iwlPcieGetCmdIndex s.trans.txq.writePtr)).cmdMeta.flags.wantSkb ≠ true := by
        intro is
        rcases flags with ⟨none, _⟩ | ⟨same, _⟩
        · rw [none] at is
          cases is
        · exact wants (same ▸ is)
      have nobody : s.ownerAfter env cmd none (iwlPcieGetCmdIndex s.trans.txq.writePtr) = none := by
        rw [ownerAfter_slot passes, ite_self]
      have takes : Takes s { s with
          trans := (iwlPcieEnqueueHcmd env cmd s.trans).2, owner := s.ownerAfter env cmd none }
          (iwlPcieGetCmdIndex s.trans.txq.writePtr) :=
        { dead := rfl
          irq := rfl
          resp := (enqueue_same env cmd s.trans).2.2
          owner := fun _ other => ownerAfter_other none other
          wants := fun slot other is => by
            rw [HcmdState.Wants, enqueue_otherSlots env cmd s.trans other] at is
            exact is
          source := fun _ other => by rw [enqueue_otherSlots env cmd s.trans other]
          callers := fun _ => ⟨rfl, rfl, rfl⟩
          others := fun _ _ => rfl
          new := fun _ _ is => is
          jobs := live.jobs
          past := fun _ _ is => (nomatch nobody.symm.trans is)
          wanted := fun is => absurd is unwanted
          given := fun is => by
            rw [HcmdState.takesGiven, passes, Bool.eq_false_iff.mpr wants, is, beq_self_eq_true] at spares
            cases spares
          taken := fun _ is => (nomatch nobody.symm.trans is.1) }
      exact live.takes takes
    · rw [ownerAfter_refused passes, enqueue_of_refused passes]
      exact live

/-- The step of a thread by which its command is enqueued, or fails. -/
structure Enqueues (s s' : HcmdState n) (t : Fin n) (env : EnqueueEnv) (cmd : IwlHostCmd) : Prop where
  trans : s'.trans = (iwlPcieEnqueueHcmd env cmd s.trans).2
  irq : s'.irq = s.irq
  dead : s'.dead = s.dead
  owner : s'.owner = s.ownerAfter env cmd (some (t, (s.callers t).calls))
  others : ∀ t', t' ≠ t → s'.callers t' = s.callers t'
  calls : (s'.callers t).calls = (s.callers t).calls
  ptr : (s'.callers t).ptr = (s.callers t).ptr
  ready : (s'.callers t).pc.ready = false
  fresh : (s'.callers t).pc.fresh = none
  job : (∃ e, (iwlPcieEnqueueHcmd env cmd s.trans).1 = .error e) ∧ (s'.callers t).pc.job = none ∨
    (∃ idx, (iwlPcieEnqueueHcmd env cmd s.trans).1 = .ok idx) ∧
      (s'.callers t).pc.job = some ⟨cmd, s.trans.txq.writePtr⟩

theorem enqueues_of_thread {t : Fin n} {env : EnqueueEnv} {cmd : IwlHostCmd}
    (here : (s.callers t).pc = .active cmd) (stepped : s.thread t env = some s') :
    Enqueues s s' t env cmd := by
  simp only [HcmdState.thread, HcmdState.view, here, senderStep] at stepped
  have others : ∀ (caller : Caller) t', t' ≠ t → Function.update s.callers t caller t' = s.callers t' :=
    fun _ _ other => Function.update_of_ne other _ _
  rcases done : iwlPcieEnqueueHcmd env cmd s.trans with ⟨e | idx, last⟩
  · rw [done] at stepped
    cases stepped
    constructor
    case job => exact .inl ⟨⟨e, by rw [done]⟩, by simp [HcmdState.moved, SenderPc.job]⟩
    all_goals simp_all [HcmdState.moved, SenderPc.ready, SenderPc.fresh]
  · rw [done] at stepped
    cases stepped
    constructor
    case job => exact .inr ⟨⟨idx, by rw [done]⟩, by simp [HcmdState.moved, SenderPc.job]⟩
    all_goals simp_all [HcmdState.moved, SenderPc.ready, SenderPc.fresh]

/-- A command whose slot wants a response has been enqueued. -/
theorem Enqueues.enqueued {t : Fin n} {env : EnqueueEnv} {cmd : IwlHostCmd} (enqueues : Enqueues s s' t env cmd)
    (passes : (admitted env cmd s.trans).isSome = true) (fits : s.failsFilled env cmd = false)
    (wants : s'.Wants (iwlPcieGetCmdIndex s.trans.txq.writePtr)) :
    cmd.flags.wantSkb = true ∧ (s'.callers t).pc.job ≠ none := by
  rw [HcmdState.Wants, enqueues.trans] at wants
  rcases (enqueue_of_admitted passes).2 with ⟨none, _⟩ | ⟨same, done⟩
  · rw [none] at wants
    cases wants
  · rw [same] at wants
    refine ⟨wants, fun none => ?_⟩
    rcases enqueues.job with ⟨⟨e, error⟩, _⟩ | ⟨_, some⟩
    · rcases done with ⟨idx, ok⟩ | eio
      · cases error.symm.trans ok
      · rw [HcmdState.failsFilled, wants, eio] at fits
        cases fits
    · cases none.symm.trans some

/-- A command that passes the checks takes the slot of `write_ptr`. -/
theorem OwnersLive.takes_of_enqueues {t : Fin n} (live : OwnersLive s) {env : EnqueueEnv} {cmd : IwlHostCmd}
    (here : (s.callers t).pc = .active cmd) (spares : s.takesGiven env cmd = false)
    (fits : s.failsFilled env cmd = false) (passes : (admitted env cmd s.trans).isSome = true)
    (enqueues : Enqueues s s' t env cmd) : Takes s s' (iwlPcieGetCmdIndex s.trans.txq.writePtr) := by
  have fresh : (s.callers t).pc.fresh = some cmd := by rw [here]; rfl
  have ready : (s.callers t).pc.ready = false := by rw [here]; rfl
  obtain ⟨ptr, notGiven⟩ := live.new t cmd fresh
  have owned : Owned cmd ((iwlPcieEnqueueHcmd env cmd s.trans).2.txq.entries
      (iwlPcieGetCmdIndex s.trans.txq.writePtr)).cmdMeta := (enqueue_of_admitted passes).1
  have owner : s'.owner (iwlPcieGetCmdIndex s.trans.txq.writePtr) =
      if cmd.flags.wantSkb then some (t, (s.callers t).calls) else none := by
    rw [enqueues.owner, ownerAfter_slot passes]
  have mine : cmd.flags.wantSkb = true → s'.OwnedBy (iwlPcieGetCmdIndex s.trans.txq.writePtr) t := by
    intro wants
    refine ⟨?_, enqueues.ready⟩
    rw [owner, if_pos wants, enqueues.calls]
  have only : ∀ t' call, s'.owner (iwlPcieGetCmdIndex s.trans.txq.writePtr) = some (t', call) →
      cmd.flags.wantSkb = true ∧ t' = t ∧ call = (s.callers t).calls := by
    intro t' call is
    rw [owner] at is
    split at is
    · next wants =>
      cases is
      exact ⟨wants, rfl, rfl⟩
    · cases is
  constructor
  case dead => exact enqueues.dead
  case irq => exact enqueues.irq
  case resp => rw [enqueues.trans]; exact (enqueue_same env cmd s.trans).2.2
  case owner => exact fun other differ => by rw [enqueues.owner, ownerAfter_other _ differ]
  case wants =>
    intro other differ is
    rw [HcmdState.Wants, enqueues.trans, enqueue_otherSlots env cmd s.trans differ] at is
    exact is
  case source => exact fun other differ => by rw [enqueues.trans, enqueue_otherSlots env cmd s.trans differ]
  case callers =>
    intro t'
    by_cases same : t' = t
    · subst same
      exact ⟨enqueues.calls, enqueues.ptr, enqueues.ready.trans ready.symm⟩
    · rw [enqueues.others t' same]
      exact ⟨rfl, rfl, rfl⟩
  case others =>
    intro t' none
    refine enqueues.others t' ?_
    rintro rfl
    cases none.symm.trans fresh
  case new =>
    intro t' cmd' is
    by_cases same : t' = t
    · subst same
      cases enqueues.fresh.symm.trans is
    · rwa [enqueues.others t' same] at is
  case jobs =>
    intro t' job is
    by_cases same : t' = t
    · subst same
      rcases enqueues.job with ⟨_, none⟩ | ⟨_, some⟩
      · cases none.symm.trans is
      · cases some.symm.trans is
        exact ptr
    · rw [enqueues.others t' same] at is
      exact live.jobs t' job is
  case past =>
    intro t' call is
    obtain ⟨_, rfl, rfl⟩ := only t' call is
    exact Nat.le_refl _
  case wanted => exact fun wants => ⟨t, mine (enqueues.enqueued passes fits wants).1⟩
  case given =>
    intro is
    refine ⟨t, mine ?_⟩
    rw [HcmdState.takesGiven, passes, is, beq_self_eq_true] at spares
    simpa using spares
  case taken =>
    intro t' is
    obtain ⟨wants, rfl, _⟩ := only t' _ is.1
    rw [Owned, if_pos wants, ptr] at owned
    refine ⟨by rw [enqueues.trans]; exact owned, notGiven, enqueues.fresh, fun job is => ?_,
      fun none wants => (enqueues.enqueued passes fits wants).2 none⟩
    rcases enqueues.job with ⟨_, none⟩ | ⟨_, some⟩
    · cases none.symm.trans is
    · cases some.symm.trans is
      exact ⟨rfl, wants⟩

/-- **A command is enqueued, or fails.** -/
theorem OwnersLive.enqueue {t : Fin n} (live : OwnersLive s) {env : EnqueueEnv} {cmd : IwlHostCmd}
    (here : (s.callers t).pc = .active cmd) (spares : s.takesGiven env cmd = false)
    (fits : s.failsFilled env cmd = false) (stepped : s.thread t env = some s') : OwnersLive s' := by
  have enqueues := enqueues_of_thread here stepped
  by_cases passes : (admitted env cmd s.trans).isSome = true
  · exact live.takes (live.takes_of_enqueues here spares fits passes enqueues)
  · -- nothing is taken; the call is on its way out
    have trans : s'.trans = s.trans := enqueues.trans.trans (enqueue_of_refused passes)
    have job : (s'.callers t).pc.job = none := by
      rcases enqueues.job with ⟨_, none⟩ | ⟨⟨idx, ok⟩, _⟩
      · exact none
      · have outcome := enqueue_outcome env cmd s.trans
        have same := enqueue_of_refused passes
        generalize iwlPcieEnqueueHcmd env cmd s.trans = done at outcome same ok
        obtain ⟨result, last⟩ := done
        obtain rfl : result = .ok idx := ok
        obtain rfl : last = s.trans := same
        have moved := congrArg Fin.val outcome.2.writePtr
        have below := s.trans.txq.writePtr.isLt
        simp only [iwlQueueIncWrap, tfdQueueSizeMax] at moved below
        omega
    have calm : Calm s s' :=
      { dead := enqueues.dead
        owner := enqueues.owner.trans (ownerAfter_refused passes _)
        wants := fun slot is => by rwa [HcmdState.Wants, trans] at is
        source := fun slot => by rw [trans]
        resp := fun p is => by rwa [trans] at is
        callers := fun t' => by
          by_cases same : t' = t
          · subst same
            have before : (s.callers t').pc.ready = false ∧ (s.callers t').pc.job = none := by
              rw [here]; exact ⟨rfl, rfl⟩
            exact ⟨enqueues.calls, enqueues.ptr, enqueues.ready.trans before.1.symm, job.trans before.2.symm,
              .inl enqueues.fresh⟩
          · rw [enqueues.others t' same]
            exact ⟨rfl, rfl, rfl, rfl, .inr rfl⟩
        written := fun slot _ is => by rwa [enqueues.irq]
        given := fun slot is => .inl (by rwa [enqueues.irq] at is)
        started := fun slot _ is => by rwa [enqueues.irq] }
    exact live.calm calm

/-! ### The other steps of a thread -/

theorem calm_moved {t : Fin n} {next : SyncState} (txq : next.trans.txq = s.trans.txq)
    (resp : next.trans.respPkt = s.trans.respPkt) (ready : next.sender.ready = (s.callers t).pc.ready)
    (job : next.sender.job = (s.callers t).pc.job)
    (fresh : next.sender.fresh = none ∨ next.sender.fresh = (s.callers t).pc.fresh) :
    Calm s (s.moved t next) where
  dead := rfl
  owner := rfl
  wants := fun slot is => by
    have is : (next.trans.txq.entries slot).cmdMeta.flags.wantSkb = true := is
    rwa [txq] at is
  source := fun slot => by
    show (next.trans.txq.entries slot).cmdMeta.source = _
    rw [txq]
  resp := fun p is => by
    have is : next.trans.respPkt p ≠ none := is
    rwa [resp] at is
  callers := fun t' => by
    show (Function.update s.callers t _ t').calls = _ ∧ (Function.update s.callers t _ t').ptr = _ ∧
      (Function.update s.callers t _ t').pc.ready = _ ∧ (Function.update s.callers t _ t').pc.job = _ ∧
      ((Function.update s.callers t _ t').pc.fresh = none ∨ (Function.update s.callers t _ t').pc.fresh = _)
    by_cases same : t' = t
    · subst same
      rw [Function.update_self]
      exact ⟨rfl, rfl, ready, job, fresh⟩
    · rw [Function.update_of_ne same]
      exact ⟨rfl, rfl, rfl, rfl, .inr rfl⟩
  written := fun _ _ is => is
  given := fun _ is => .inl is
  started := fun _ _ is => is

/-- A call that returns while no completion writes its host command. -/
theorem free_of_spares {t : Fin n} {env : EnqueueEnv} (returns : s.returns t env = true)
    (spares : sparesOwners s (.thread t env) = true) (slot : Slot) (given : s.irq.given = some slot) :
    ¬ s.OwnedBy slot t := by
  intro owned
  rw [sparesOwners, Bool.and_eq_true, returns, Bool.true_and, HcmdState.beingGiven, given, Option.any_some,
    owned.1, beq_self_eq_true] at spares
  cases spares.1

/-- The thread's call ends, with the queue and the responses as they are but for a flag that is cleared and
a response that is dropped. -/
theorem ends_moved {t : Fin n} {env : EnqueueEnv} {next : SyncState}
    (spares : sparesOwners s (.thread t env) = true)
    (stepped : senderStep env (s.view (s.callers t).pc .idle) = some next) (ready : next.sender.ready = true)
    (wants : ∀ slot, (next.trans.txq.entries slot).cmdMeta.flags.wantSkb = true → s.Wants slot)
    (source : ∀ slot, (next.trans.txq.entries slot).cmdMeta.source = (s.trans.txq.entries slot).cmdMeta.source)
    (resp : ∀ p, next.trans.respPkt p ≠ none → s.trans.respPkt p ≠ none)
    (done : ∀ slot, s.OwnedBy slot t → (next.trans.txq.entries slot).cmdMeta.flags.wantSkb = true →
      s.irq.given ≠ some slot → s.irq.written = some slot) : Ends s (s.moved t next) t where
  dead := rfl
  owner := rfl
  irq := rfl
  wants := wants
  source := source
  resp := resp
  others := fun t' other => Function.update_of_ne other _ _
  calls := by
    show (Function.update s.callers t _ t).calls = _
    rw [Function.update_self]
  ready := by
    show (Function.update s.callers t _ t).pc.ready = true
    rw [Function.update_self]
    exact ready
  free := fun slot given => free_of_spares (by rw [HcmdState.returns, stepped]; exact ready) spares slot given
  done := fun slot owned is => done slot owned is fun given =>
    free_of_spares (by rw [HcmdState.returns, stepped]; exact ready) spares slot given owned

theorem thread_moved {t : Fin n} {env : EnqueueEnv} (here : ∀ cmd, (s.callers t).pc ≠ .active cmd)
    (stepped : s.thread t env = some s') :
    ∃ next, senderStep env (s.view (s.callers t).pc .idle) = some next ∧ s' = s.moved t next := by
  obtain ⟨next, sender, rfl⟩ := Option.map_eq_some_iff.mp stepped
  refine ⟨next, sender, ?_⟩
  cases pc : (s.callers t).pc
  case active cmd => exact absurd pc (here cmd)
  all_goals rfl

/-- `cancel` clears the flag of the job's slot. -/
theorem cancelHcmd_wants (trans : IwlTrans) (job : Job) (slot : Slot) :
    ((cancelHcmd trans job).txq.entries slot).cmdMeta.source = (trans.txq.entries slot).cmdMeta.source ∧
      (((cancelHcmd trans job).txq.entries slot).cmdMeta.flags.wantSkb = true →
        (trans.txq.entries slot).cmdMeta.flags.wantSkb = true ∧
          ¬ (slot = job.slot ∧ job.cmd.flags.wantSkb = true)) := by
  unfold cancelHcmd IwlTrans.dropResponse
  dsimp only
  split
  · next wants =>
    by_cases same : slot = job.slot
    · subst same
      rw [setEntry_same]
      exact ⟨rfl, fun is => (nomatch is)⟩
    · rw [setEntry_other _ _ _ same]
      exact ⟨rfl, fun is => ⟨is, fun both => same both.1⟩⟩
  · next wants => exact ⟨rfl, fun is => ⟨is, fun both => wants both.2⟩⟩

theorem dropResponse_ne {trans : IwlTrans} {ptr p : Nat} (is : (trans.dropResponse ptr).respPkt p ≠ none) :
    trans.respPkt p ≠ none := by
  unfold IwlTrans.dropResponse at is
  dsimp only at is
  split at is
  · exact absurd rfl is
  · exact is

/-- A slot that wants a response and whose call has it: the completion has written `resp_pkt`. -/
theorem OwnersLive.written_of_given {t : Fin n} {slot : Slot} (live : OwnersLive s) (owned : s.OwnedBy slot t)
    (wants : s.Wants slot) (given : s.Given t) (notGiven : s.irq.given ≠ some slot) :
    s.irq.written = some slot := by
  have started := live.answered slot t owned wants given
  cases irq : s.irq with
  | giving pkt done =>
    rw [irq] at started notGiven
    simp only [CompletePc.started] at started
    split at started
    · cases started
    · exact absurd started notGiven
  | _ => rwa [irq] at started

/-- **A step of a thread.** -/
theorem OwnersLive.thread {t : Fin n} (live : OwnersLive s) {env : EnqueueEnv}
    (spares : sparesOwners s (.thread t env) = true) (stepped : s.thread t env = some s') : OwnersLive s' := by
  by_cases active : ∃ cmd, (s.callers t).pc = .active cmd
  · obtain ⟨cmd, here⟩ := active
    have both := spares
    rw [sparesOwners, here, Bool.and_eq_true] at both
    have both := both.2
    simp only [Bool.and_eq_true, Bool.not_eq_true'] at both
    exact live.enqueue here both.1 both.2 stepped
  · obtain ⟨next, sender, rfl⟩ := thread_moved (fun cmd here => active ⟨cmd, here⟩) stepped
    have step := sender
    rw [HcmdState.view] at sender
    cases pc : (s.callers t).pc
    all_goals rw [pc] at sender
    case idle => cases sender
    case asleep => cases sender
    case returned => cases sender
    case active cmd => exact absurd ⟨cmd, pc⟩ active
    case entered cmd =>
      simp only [senderStep] at sender
      split at sender
      · cases sender
        refine live.ends (ends_moved spares step rfl (fun _ => id) (fun _ => rfl) (fun _ => id) ?_)
        intro slot owned
        have fresh := (live.placed slot t owned).1
        rw [pc] at fresh
        cases fresh
      · cases sender
        exact live.calm (calm_moved rfl rfl (by rw [pc]; rfl) (by rw [pc]; rfl) (.inr (by rw [pc]; rfl)))
    case failed e =>
      cases sender
      refine live.ends (ends_moved spares step rfl (fun _ => id) (fun _ => rfl) (fun _ => id) ?_)
      intro slot owned wants
      exact absurd wants ((live.placed slot t owned).2.2 (by rw [pc]; rfl))
    case testResponse job =>
      simp only [senderStep] at sender
      split at sender
      · cases sender
        exact live.calm (calm_moved rfl rfl (by rw [pc]; rfl) (by rw [pc]; rfl) (.inl rfl))
      · next answered =>
        cases sender
        refine live.ends (ends_moved spares step rfl (fun _ => id) (fun _ => rfl) (fun _ => id) ?_)
        intro slot owned wants notGiven
        have mine : (s.callers t).pc.job = some job := by rw [pc]; rfl
        obtain ⟨_, wantsSkb⟩ := (live.placed slot t owned).2.1 job mine
        have given : s.Given t := by
          rw [HcmdState.Given, ← live.jobs t job mine]
          intro none
          exact answered (by rw [wantsSkb, none]; rfl)
        exact live.written_of_given owned wants given notGiven
    case cancel job result =>
      cases sender
      refine live.ends (ends_moved spares step rfl (fun slot is => ((cancelHcmd_wants s.trans job slot).2 is).1)
        (fun slot => (cancelHcmd_wants s.trans job slot).1) ?_ ?_)
      · intro p is
        have kept := dropResponse_ne is
        split at kept <;> exact kept
      · intro slot owned is
        obtain ⟨same, wantsSkb⟩ := (live.placed slot t owned).2.1 job (by rw [pc]; rfl)
        exact absurd ⟨same.symm, wantsSkb⟩ ((cancelHcmd_wants s.trans job slot).2 is).2
    case relocked job cause =>
      cases cause
      all_goals
        cases sender
        exact live.calm (calm_moved rfl rfl (by rw [pc]; rfl) (by rw [pc]; rfl) (.inl rfl))
    all_goals
      simp only [senderStep] at sender
      try split at sender
      all_goals cases sender
      all_goals exact live.calm (calm_moved rfl rfl (by rw [pc]; rfl) (by rw [pc]; rfl) (.inl rfl))

/-- What a call of the op-mode begins with. -/
theorem send_cases {t : Fin n} {cmd : IwlHostCmd} (stepped : s.send t cmd = some s') :
    (∀ t', t' ≠ t → (s.callers t').pc.ready = false → (s.callers t').ptr ≠ cmd.ptr) ∧
      (s.callers t).pc.ready = true ∧ ∃ pc, (pc = .entered cmd ∨ pc.ready = true) ∧
        s' = { s with
          trans := s.trans.dropResponse cmd.ptr
          callers := Function.update s.callers t ⟨pc, (s.callers t).calls + 1, cmd.ptr⟩ } := by
  unfold HcmdState.send at stepped
  split at stepped
  · next apart =>
    obtain ⟨next, sent, rfl⟩ := Option.map_eq_some_iff.mp stepped
    obtain ⟨ready, _, sender, begins, rfl⟩ := sendHcmd_ok sent
    refine ⟨apart, ready, sender, ?_, rfl⟩
    exact begins.imp_right fun refused => by rw [refused.1]; rfl
  · cases stepped

/-- A step that begins a call: with a host command that no other call has, or the call returns at once. -/
structure Begins (s s' : HcmdState n) (t : Fin n) (cmd : IwlHostCmd) : Prop where
  idle : (s.callers t).pc.ready = true
  dead : s'.dead = s.dead
  owner : s'.owner = s.owner
  irq : s'.irq = s.irq
  txq : s'.trans.txq = s.trans.txq
  resp : ∀ ptr, s'.trans.respPkt ptr ≠ none → s.trans.respPkt ptr ≠ none
  cleared : s'.trans.respPkt cmd.ptr = none
  others : ∀ t', t' ≠ t → s'.callers t' = s.callers t'
  calls : (s'.callers t).calls = (s.callers t).calls + 1
  ptr : (s'.callers t).ptr = cmd.ptr
  pc : (s'.callers t).pc = .entered cmd ∨ (s'.callers t).pc.ready = true
  apart : ∀ t', t' ≠ t → (s.callers t').pc.ready = false → (s.callers t').ptr ≠ cmd.ptr

namespace Begins

variable {t : Fin n} {cmd : IwlHostCmd}

/-- The calls under way are those of the other threads. -/
theorem going (begins : Begins s s' t cmd) {t' : Fin n} (ready : (s.callers t').pc.ready = false) : t' ≠ t := by
  rintro rfl
  exact Bool.false_ne_true (ready.symm.trans begins.idle)

theorem wants_iff (begins : Begins s s' t cmd) (slot : Slot) : s'.Wants slot ↔ s.Wants slot := by
  rw [HcmdState.Wants, HcmdState.Wants, begins.txq]

/-- The new call has no slot yet: its number is past every owner's. -/
theorem ownedBy (begins : Begins s s' t cmd) (live : OwnersLive s) (slot : Slot) (t' : Fin n) :
    s'.OwnedBy slot t' ↔ s.OwnedBy slot t' := by
  by_cases same : t' = t
  · subst same
    refine iff_of_false (fun owned => ?_) fun owned => begins.going owned.2 rfl
    have mine := owned.1
    rw [begins.owner, begins.calls] at mine
    exact Nat.not_succ_le_self _ (live.past slot t' _ mine)
  · rw [HcmdState.OwnedBy, HcmdState.OwnedBy, begins.owner, begins.others t' same]

theorem given (begins : Begins s s' t cmd) {t' : Fin n} (other : t' ≠ t) (is : s'.Given t') : s.Given t' := by
  rw [HcmdState.Given, begins.others t' other] at is
  exact begins.resp _ is

theorem job (begins : Begins s s' t cmd) : (s'.callers t).pc.job = none := by
  rcases begins.pc with entered | ready
  · rw [entered]
    rfl
  · by_contra some
    obtain ⟨job, is⟩ := Option.ne_none_iff_exists'.mp some
    exact Bool.false_ne_true ((ready_of_job is).1.symm.trans ready)

/-- Only the call's own command is fresh in it. -/
theorem fresh (begins : Begins s s' t cmd) {cmd' : IwlHostCmd} (is : (s'.callers t).pc.fresh = some cmd') :
    cmd' = cmd := by
  rcases begins.pc with entered | ready
  · rw [entered] at is
    cases is
    rfl
  · exact absurd ((ready_of_fresh is).1.symm.trans ready) Bool.false_ne_true

end Begins

theorem OwnersLive.begins {t : Fin n} {cmd : IwlHostCmd} (live : OwnersLive s) (begins : Begins s s' t cmd) :
    OwnersLive s' := by
  constructor
  case clean => exact begins.dead.trans live.clean
  case past =>
    intro slot t' call is
    rw [begins.owner] at is
    have before := live.past slot t' call is
    by_cases same : t' = t
    · subst same
      rw [begins.calls]
      exact Nat.le_succ_of_le before
    · rwa [begins.others t' same]
  case wanted =>
    intro slot wants
    simp only [begins.ownedBy live, begins.irq]
    exact live.wanted slot ((begins.wants_iff slot).mp wants)
  case given =>
    intro slot is
    rw [begins.irq] at is
    simp only [begins.ownedBy live]
    exact live.given slot is
  case source =>
    intro slot t' owned
    have owned := (begins.ownedBy live slot t').mp owned
    rw [begins.txq, begins.others t' (begins.going owned.2)]
    exact live.source slot t' owned
  case placed =>
    intro slot t' owned
    have owned := (begins.ownedBy live slot t').mp owned
    rw [begins.others t' (begins.going owned.2), begins.wants_iff]
    exact live.placed slot t' owned
  case new =>
    intro t' cmd' is
    by_cases same : t' = t
    · subst same
      obtain rfl := begins.fresh is
      rw [HcmdState.Given, begins.ptr]
      exact ⟨rfl, not_not_intro begins.cleared⟩
    · rw [begins.others t' same] at is ⊢
      obtain ⟨ptr, not⟩ := live.new t' cmd' is
      exact ⟨ptr, fun is => not (begins.given same is)⟩
  case jobs =>
    intro t' job is
    by_cases same : t' = t
    · subst same
      cases begins.job.symm.trans is
    · rw [begins.others t' same] at is ⊢
      exact live.jobs t' job is
  case answered =>
    intro slot t' owned wants is
    have owned := (begins.ownedBy live slot t').mp owned
    rw [begins.irq]
    exact live.answered slot t' owned ((begins.wants_iff slot).mp wants) (begins.given (begins.going owned.2) is)
  case apart =>
    intro a b differ readyA readyB
    by_cases sameA : a = t
    · subst sameA
      rw [begins.others b differ.symm] at readyB ⊢
      rw [begins.ptr]
      exact (begins.apart b differ.symm readyB).symm
    · rw [begins.others a sameA] at readyA ⊢
      by_cases sameB : b = t
      · subst sameB
        rw [begins.ptr]
        exact begins.apart a sameA readyA
      · rw [begins.others b sameB] at readyB ⊢
        exact live.apart a b differ readyA readyB

/-- **A call begins.** -/
theorem OwnersLive.send {t : Fin n} {cmd : IwlHostCmd} (live : OwnersLive s)
    (stepped : s.send t cmd = some s') : OwnersLive s' := by
  obtain ⟨apart, idle, pc, starts, rfl⟩ := send_cases stepped
  refine live.begins (?_ : Begins s _ t cmd)
  constructor
  case idle => exact idle
  case dead => rfl
  case owner => rfl
  case irq => rfl
  case txq => rfl
  case resp => exact fun _ is => dropResponse_ne is
  case cleared => exact if_pos rfl
  case others => exact fun _ other => Function.update_of_ne other _ _
  case calls => simp only [Function.update_self]
  case ptr => simp only [Function.update_self]
  case pc => simpa only [Function.update_self] using starts
  case apart => exact apart

theorem OwnersLive.deadline {t : Fin n} (live : OwnersLive s)
    (stepped : (deadlineStep (s.view (s.callers t).pc .idle)).map (s.moved t) = some s') : OwnersLive s' := by
  obtain ⟨next, passed, rfl⟩ := Option.map_eq_some_iff.mp stepped
  rw [HcmdState.view] at passed
  cases pc : (s.callers t).pc
  all_goals rw [pc] at passed
  case asleep job =>
    cases passed
    exact live.calm (calm_moved rfl rfl (by rw [pc]; rfl) (by rw [pc]; rfl) (.inl rfl))
  all_goals cases passed

/-! ### The interrupt thread -/

theorem tfdUnmap_meta (txq : IwlTxq) (index : RingIndex) (slot : Slot) :
    ((iwlPcieTfdUnmap txq index).entries slot).cmdMeta.source = (txq.entries slot).cmdMeta.source ∧
      ((iwlPcieTfdUnmap txq index).entries slot).cmdMeta.flags = (txq.entries slot).cmdMeta.flags := by
  rcases tfdUnmap_entries txq index slot with same | ⟨_, same⟩
  all_goals
    rw [same]
    exact ⟨rfl, rfl⟩

/-- A step of the interrupt thread that gives no response. -/
theorem calm_irq {trans : IwlTrans} {irq : CompletePc}
    (wants : ∀ slot, (trans.txq.entries slot).cmdMeta.flags.wantSkb = true → s.Wants slot)
    (source : ∀ slot, (trans.txq.entries slot).cmdMeta.source = (s.trans.txq.entries slot).cmdMeta.source)
    (resp : trans.respPkt = s.trans.respPkt)
    (written : ∀ slot, (trans.txq.entries slot).cmdMeta.flags.wantSkb = true → s.irq.written = some slot →
      irq.written = some slot)
    (given : ∀ slot, irq.given = some slot → s.irq.given = some slot ∨ s.Wants slot ∧ s.irq.written = none)
    (started : ∀ slot, (trans.txq.entries slot).cmdMeta.flags.wantSkb = true → s.irq.started = some slot →
      irq.started = some slot) :
    Calm s { s with trans := trans, irq := irq } where
  dead := rfl
  owner := rfl
  wants := wants
  source := source
  resp := fun p is => by
    have is : trans.respPkt p ≠ none := is
    rwa [resp] at is
  callers := fun _ => ⟨rfl, rfl, rfl, rfl, .inr rfl⟩
  written := written
  given := given
  started := started

theorem OwnersLive.response (live : OwnersLive s) {pkt : RxPacket} (stepped : s.response pkt = some s') :
    OwnersLive s' := by
  unfold HcmdState.response at stepped
  split at stepped
  · next irq =>
    split at stepped
    · cases stepped
      exact live
    · cases stepped
      refine live.calm (calm_irq (fun slot is => ?_) (fun slot => (tfdUnmap_meta _ _ slot).1) rfl ?_ ?_ ?_)
      · rwa [(tfdUnmap_meta _ _ slot).2] at is
      · exact fun slot _ is => by rw [irq] at is; cases is
      · exact fun slot is => (nomatch is)
      · exact fun slot _ is => by rw [irq] at is; cases is
  · cases stepped

theorem OwnersLive.other (live : OwnersLive s) {irq : SyncState → Option SyncState}
    (calm : ∀ view next, irq view = some next → next.trans.txq = view.trans.txq ∧
      next.trans.respPkt = view.trans.respPkt ∧ view.irq = .idle ∧
      (CompletePc.around next.irq).written = none)
    (stepped : s.other irq = some s') : OwnersLive s' := by
  unfold HcmdState.other at stepped
  split at stepped
  · next pc around =>
    obtain ⟨next, done, rfl⟩ := Option.map_eq_some_iff.mp stepped
    obtain ⟨txq, resp, idle, none⟩ := calm _ _ done
    obtain rfl : pc = .idle := idle
    refine live.calm (calm_irq ?_ ?_ resp ?_ ?_ ?_)
    · intro slot is
      rwa [txq] at is
    · exact fun slot => by rw [txq]; rfl
    · exact fun slot _ is => by rw [around] at is; cases is
    · exact fun slot is => (nomatch is)
    · exact fun slot _ is => by rw [around] at is; cases is
  · cases stepped

/-- A field of the command's response is written. -/
theorem OwnersLive.gives (live : OwnersLive s) {pkt : RxPacket} {done : Fin 3} {trans : IwlTrans}
    {irq : CompletePc} (here : s.irq = .giving pkt done)
    (txq : trans.txq = s.trans.txq)
    (resp : ∀ p, trans.respPkt p ≠ none → s.trans.respPkt p ≠ none ∨
      (s.trans.txq.entries (iwlPcieGetCmdIndex (seqToIndex pkt.sequence))).cmdMeta.source = some p)
    (given : ∀ slot, irq.given = some slot → slot = iwlPcieGetCmdIndex (seqToIndex pkt.sequence))
    (started : irq.started = some (iwlPcieGetCmdIndex (seqToIndex pkt.sequence))) :
    OwnersLive { s with
      trans := trans
      irq := irq
      dead := s.dead || !s.ownerLives (iwlPcieGetCmdIndex (seqToIndex pkt.sequence)) } := by
  obtain ⟨t, owned⟩ := live.given _ (by rw [here]; rfl)
  have lives : s.ownerLives (iwlPcieGetCmdIndex (seqToIndex pkt.sequence)) = true := by
    rw [HcmdState.ownerLives, owned.1]
    dsimp only
    rw [owned.2, beq_self_eq_true]
    rfl
  have wants : ∀ slot, HcmdState.Wants { s with
      trans := trans, irq := irq
      dead := s.dead || !s.ownerLives (iwlPcieGetCmdIndex (seqToIndex pkt.sequence)) } slot → s.Wants slot := by
    intro slot is
    have is : (trans.txq.entries slot).cmdMeta.flags.wantSkb = true := is
    rwa [txq] at is
  -- the host command that is written is that of `t`
  have whose : ∀ t', (s.callers t').pc.ready = false →
      trans.respPkt (s.callers t').ptr ≠ none → s.Given t' ∨ t' = t := by
    intro t' ready is
    refine (resp _ is).imp_right fun source => ?_
    by_contra other
    rw [live.source _ t owned, Option.some.injEq] at source
    exact live.apart t t' (fun same => other same.symm) owned.2 ready source
  constructor
  case clean =>
    show (s.dead || !s.ownerLives _) = false
    rw [live.clean, lives]
    rfl
  case past => exact live.past
  case wanted =>
    intro slot is
    refine .inl ((live.wanted slot (wants slot is)).resolve_right fun written => ?_)
    rw [here] at written
    cases written
  case given =>
    intro slot is
    obtain rfl := given slot is
    exact ⟨t, owned⟩
  case source =>
    intro slot t' is
    show (trans.txq.entries slot).cmdMeta.source = _
    rw [txq]
    exact live.source slot t' is
  case placed =>
    intro slot t' is
    obtain ⟨fresh, job, none⟩ := live.placed slot t' is
    exact ⟨fresh, job, fun no is => none no (wants slot is)⟩
  case new =>
    intro t' cmd is
    obtain ⟨ptr, not⟩ := live.new t' cmd is
    refine ⟨ptr, fun given => ?_⟩
    rcases whose t' (ready_of_fresh is).1 given with before | rfl
    · exact not before
    · exact absurd ((live.placed _ t' owned).1.symm.trans is) (nomatch ·)
  case jobs => exact live.jobs
  case answered =>
    intro slot t' is wantsSkb given
    rcases whose t' is.2 given with before | rfl
    · have impossible := live.answered slot t' is (wants slot wantsSkb) before
      rw [here] at impossible
      simp only [CompletePc.started] at impossible
      split at impossible
      · cases impossible
      · cases impossible
        exact started
    · -- the call has one slot
      cases job : (s.callers t').pc.job with
      | none => exact absurd (wants slot wantsSkb) ((live.placed slot t' is).2.2 job)
      | some job' =>
        have here := ((live.placed _ t' owned).2.1 job' job).1
        have there := ((live.placed slot t' is).2.1 job' job).1
        show irq.started = some slot
        rw [started, ← here, there]
  case apart => exact live.apart

theorem giveResponse_respPkt {trans : IwlTrans} {source : Option Nat} {pkt : RxPacket} {p : Nat}
    (is : (giveResponse trans source pkt).respPkt p ≠ none) : trans.respPkt p ≠ none ∨ source = some p := by
  unfold giveResponse at is
  split at is
  · exact .inl is
  · next ptr =>
    dsimp only at is
    split at is
    · next same => exact .inr (congrArg some same.symm)
    · exact .inl is

/-- A wake-up keeps what the caller works on. -/
theorem wake_same (pc : SenderPc) (cause : Cause) :
    (pc.wake cause).ready = pc.ready ∧ (pc.wake cause).job = pc.job ∧ (pc.wake cause).fresh = pc.fresh := by
  cases pc <;> exact ⟨rfl, rfl, rfl⟩

/-- All but the last step of a completion keep the slots. -/
theorem OwnersLive.kept {t : Fin n} {pc : IrqPc} {next : SyncState} (live : OwnersLive s)
    (here : s.irq = .around pc) (txq : next.trans.txq = s.trans.txq)
    (resp : next.trans.respPkt = s.trans.respPkt)
    (sender : next.sender = (s.callers t).pc ∨ ∃ cause, next.sender = (s.callers t).pc.wake cause)
    (written : (CompletePc.around next.irq).written = s.irq.written) :
    OwnersLive { s.moved t next with irq := .around next.irq } := by
  have same : next.sender.ready = (s.callers t).pc.ready ∧ next.sender.job = (s.callers t).pc.job ∧
      next.sender.fresh = (s.callers t).pc.fresh := by
    rcases sender with is | ⟨cause, is⟩
    · rw [is]
      exact ⟨rfl, rfl, rfl⟩
    · rw [is]
      exact wake_same _ cause
  refine (live.calm (calm_moved txq resp same.1 same.2.1 (.inr same.2.2))).calm
    (calm_irq (fun _ => id) (fun _ => rfl) rfl ?_ (fun _ is => (nomatch is)) ?_)
  · exact fun slot _ is => written.trans is
  · have started : s.irq.started = s.irq.written := by rw [here]; rfl
    exact fun slot _ is => written.trans (started.symm.trans is)

/-- `finish_complete` keeps the sources, and its slot wants nothing after it. -/
theorem finishComplete_wants (trans : IwlTrans) (cmdIndex slot : Slot) :
    ((finishComplete trans cmdIndex).txq.entries slot).cmdMeta.source =
        (trans.txq.entries slot).cmdMeta.source ∧
      (((finishComplete trans cmdIndex).txq.entries slot).cmdMeta.flags.wantSkb = true →
        slot ≠ cmdIndex ∧ (trans.txq.entries slot).cmdMeta.flags.wantSkb = true) := by
  constructor
  · unfold finishComplete
    by_cases same : slot = cmdIndex
    · subst same
      dsimp only
      rw [setEntry_same]
      rfl
    · dsimp only
      rw [setEntry_other _ _ _ same]
  · intro is
    rw [finishComplete_flags] at is
    split at is
    · cases is
    · next differ => exact ⟨differ, is⟩

/-- The last step of a completion: its slot is through. -/
theorem OwnersLive.finishes {pkt : RxPacket} (live : OwnersLive s) (here : s.irq = .around (.finishing pkt)) :
    OwnersLive { s with
      trans := finishComplete s.trans (iwlPcieGetCmdIndex (seqToIndex pkt.sequence))
      irq := .around .idle } := by
  have after := finishComplete_wants s.trans (iwlPcieGetCmdIndex (seqToIndex pkt.sequence))
  refine live.calm (calm_irq (fun slot is => ((after slot).2 is).2) (fun slot => (after slot).1) rfl ?_
    (fun _ is => (nomatch is)) ?_)
  · intro slot is written
    rw [here] at written
    exact absurd (Option.some.inj written).symm ((after slot).2 is).1
  · intro slot is started
    rw [here] at started
    exact absurd (Option.some.inj started).symm ((after slot).2 is).1

/-- The steps of the interrupt thread before and after a completion's accesses to the slot. -/
theorem OwnersLive.around {t : Fin n} {pc : IrqPc} {next : SyncState} (live : OwnersLive s)
    (here : s.irq = .around pc) (stepped : irqStep (s.view (s.callers t).pc pc) = some next) :
    OwnersLive { s.moved t next with irq := .around next.irq } := by
  rw [HcmdState.view] at stepped
  cases pc
  case idle => cases stepped
  case responded pkt serves =>
    simp only [irqStep] at stepped
    split at stepped
    all_goals
      cases stepped
      exact live.kept here rfl rfl (.inl rfl) (by rw [here]; rfl)
  case rfkilled =>
    cases stepped
    exact live.kept here rfl rfl (.inl rfl) (by rw [here]; rfl)
  case toLock cause =>
    simp only [irqStep] at stepped
    split at stepped
    · cases stepped
      exact live.kept here rfl rfl (.inl rfl) (by rw [here]; cases cause <;> rfl)
    · cases stepped
  case holding cause =>
    cases stepped
    exact live.kept here rfl rfl (.inr ⟨cause, rfl⟩) (by rw [here]; cases cause <;> rfl)
  case woke cause =>
    cases cause
    all_goals
      cases stepped
      exact live.kept here rfl rfl (.inl rfl) (by rw [here]; rfl)
  case finishing pkt =>
    cases stepped
    have self : Function.update s.callers t { s.callers t with pc := (s.callers t).pc } = s.callers :=
      Function.update_eq_self _ _
    rw [HcmdState.moved, self]
    exact live.finishes here

/-- **A step of the interrupt thread.** -/
theorem OwnersLive.interrupt {t : Fin n} (live : OwnersLive s) (stepped : s.interrupt t = some s') :
    OwnersLive s' := by
  unfold HcmdState.interrupt at stepped
  split at stepped
  · next pkt here =>
    cases stepped
    split
    · next wants =>
      refine live.calm (calm_irq (fun _ => id) (fun _ => rfl) rfl ?_ ?_ ?_)
      · exact fun slot _ is => by rw [here] at is; cases is
      · exact fun slot is => .inr ⟨Option.some.inj is ▸ wants, by rw [here]; rfl⟩
      · exact fun slot _ is => by rw [here] at is; cases is
    · refine live.calm (calm_irq (fun _ => id) (fun _ => rfl) rfl ?_ (fun _ is => (nomatch is)) ?_)
      · exact fun slot _ is => by rw [here] at is; cases is
      · exact fun slot _ is => by rw [here] at is; cases is
  · next pkt done here =>
    cases stepped
    refine live.gives here ?_ ?_ ?_ ?_
    · split
      · unfold giveResponse
        split <;> rfl
      · rfl
    · intro p is
      split at is
      · exact giveResponse_respPkt is
      · exact .inl is
    · intro slot is
      split at is
      · cases is
      · exact (Option.some.inj is).symm
    · split
      · rfl
      · next more =>
        simp only [CompletePc.started]
        rw [if_neg]
        omega
  · next pkt here =>
    cases stepped
    obtain ⟨txq, _, _, resp⟩ := cmdqReclaim_spec s.trans (seqToIndex pkt.sequence)
    refine live.calm (calm_irq (fun slot is => ?_) (fun slot => by rw [txq]) resp ?_ (fun _ is => (nomatch is)) ?_)
    · rwa [txq] at is
    · exact fun slot _ is => by rwa [here] at is
    · exact fun slot _ is => by rwa [here] at is
  · next pc here =>
    obtain ⟨next, step, rfl⟩ := Option.map_eq_some_iff.mp stepped
    exact live.around here step

/-! ### Runs -/

theorem ownersLive_start (n : Nat) (cmdQueue : Fin 32) (wideCmdHeader apmgWakeUpWa : Bool)
    (firstTbDma : Nat) :
    OwnersLive (.start n (.init cmdQueue wideCmdHeader apmgWakeUpWa firstTbDma)) where
  clean := rfl
  past := fun _ _ _ is => (nomatch is)
  wanted := fun _ is => (nomatch is)
  given := fun _ is => (nomatch is)
  source := fun _ _ is => (nomatch is.1)
  placed := fun _ _ is => (nomatch is.1)
  new := fun _ _ is => (nomatch is)
  jobs := fun _ _ is => (nomatch is)
  answered := fun _ _ is => (nomatch is.1)
  apart := fun _ _ _ is => (nomatch is)

/-- **Every step that meets the condition keeps the owners alive.** -/
theorem OwnersLive.step (s : HcmdState n) (act : HcmdAct n) (s' : HcmdState n) (live : OwnersLive s)
    (spares : sparesOwners s act = true) (stepped : hcmdStep s act = some s') : OwnersLive s' := by
  cases act with
  | send t cmd => exact live.send stepped
  | thread t env => exact live.thread spares stepped
  | deadline t => exact live.deadline stepped
  | sendAsync env cmd => exact live.sendAsync ((Bool.not_eq_true' _).mp spares) stepped
  | response pkt => exact live.response stepped
  | interrupt t => exact live.interrupt stepped
  | fwError =>
    refine live.other (fun view next is => ?_) stepped
    unfold fwErrorIrq at is
    split at is
    · next idle =>
      cases is
      exact ⟨rfl, rfl, idle, rfl⟩
    · cases is
  | rfkill hw down =>
    have step : s.other (fun view => rfkillIrq view hw down) = some s' := stepped
    refine live.other (fun view next is => ?_) step
    unfold rfkillIrq at is
    dsimp only at is
    split at is
    · next idle =>
      split at is
      · cases is
        exact ⟨rfl, rfl, idle, rfl⟩
      · cases is
        exact ⟨rfl, rfl, idle, by rw [idle]; rfl⟩
    · cases is

/-- **No write into a dead command**: in the runs all of whose steps meet the condition, each completion
writes through the address of a call that has not returned. -/
theorem noDeadWrite (n : Nat) (cmdQueue : Fin 32) (wideCmdHeader apmgWakeUpWa : Bool) (firstTbDma : Nat)
    (acts : List (HcmdAct n)) (s : HcmdState n)
    (allow : Machine.allowed hcmdStep sparesOwners
      (.start n (.init cmdQueue wideCmdHeader apmgWakeUpWa firstTbDma)) acts = true)
    (ran : Machine.run hcmdStep (.start n (.init cmdQueue wideCmdHeader apmgWakeUpWa firstTbDma)) acts = some s) :
    s.dead = false :=
  (Machine.run_invariant_of_allowed OwnersLive OwnersLive.step
    (ownersLive_start n cmdQueue wideCmdHeader apmgWakeUpWa firstTbDma) allow ran).clean


/-! ### Two runs of one thread -/

/-- `shortCmd`, with `CMD_WANT_SKB`. -/
def skbCmd : IwlHostCmd := { shortCmd with flags := { CmdFlags.none with wantSkb := true } }

/-- The command is sent, and its caller goes to sleep. -/
def sleeps : List (HcmdAct 1) := .send 0 skbCmd :: List.replicate 4 (.thread 0 fixedBuffers)

/-- The response arrives, and `CMD_WANT_SKB` is found set. -/
def arrives : List (HcmdAct 1) := [.response ⟨0, 8, 0x08, 0, 0⟩, .interrupt 0]

/-- The deadline passes, and the call returns. -/
def timesOut : List (HcmdAct 1) := .deadline 0 :: List.replicate 4 (.thread 0 fixedBuffers)

/-- The completion goes on to its end. -/
def goesOn : List (HcmdAct 1) := List.replicate 9 (.interrupt 0)

/-- The response arrives while the caller sleeps. -/
def inTime : List (HcmdAct 1) := sleeps ++ arrives ++ goesOn ++ List.replicate 5 (.thread 0 fixedBuffers)

theorem noDeadWrite_inTime : ∃ s, Machine.run hcmdStep (.start 1 (.init 0 false false 0x10000)) inTime = some s ∧
    s.dead = false := by
  have ends : (Machine.run hcmdStep (.start 1 (.init 0 false false 0x10000)) inTime).isSome = true := by
    decide +kernel
  obtain ⟨s, ran⟩ := Option.isSome_iff_exists.mp ends
  exact ⟨s, ran, noDeadWrite 1 0 false false 0x10000 inTime s (by decide +kernel) ran⟩

/-- The response arrives as the deadline passes. -/
theorem lateReturn_written :
    (Machine.run hcmdStep (.start 1 (.init 0 false false 0x10000)) (sleeps ++ arrives ++ timesOut ++ goesOn)).any
      (fun s => s.dead) = true := by
  decide +kernel

end IntelWifi.Pcie
