/-
**Waiting for notifications.**

A waiter puts its entry in the list, makes the device do something, and sleeps on the event of its
entry. The receive path evaluates each entry against a packet and, if any entry is triggered, wakes the
sleepers of all entries in the list; an abort marks all entries and wakes their sleepers. A wakeup
reaches only who is asleep.

The walks over the list, and each part that runs under the lock of the wait queue, are one step: going
to sleep, waking, and leaving the list. Any number of calls of the receive path and of the abort may be
between their two parts. What a stateful callback answers is an input.

* `notifWait_verdict`: what a waiter returns is right in every run in which wakeups, deadlines and
  removals come in a good order.
* `notifWait_broken`: a trigger before the sleep is lost, and another entry's packet ends a wait.
-/

import IntelWifi.Lib.Machine
import Mathlib.Logic.Function.Basic
import Mathlib.Data.List.Nodup

namespace IntelWifi.NotifWait

/-- What `iwl_wait_notification` returns. -/
inductive WaitResult where
  | ok
  | eio
  | etimedout
  deriving DecidableEq, Repr

/-- Where a waiter is. `awakened` says whether the sleep ended in `THREAD_AWAKENED`. -/
inductive WaiterPc where
  | idle
  /-- The entry is in the list. -/
  | ready
  | asleep
  /-- Before the lock is taken again. -/
  | woken (awakened : Bool)
  /-- The entry was removed; before `aborted` is tested. -/
  | removed (awakened : Bool)
  | returned (result : WaitResult)
  deriving DecidableEq, Repr

/-- `struct iwl_notification_wait`, with its waiter. Only statements read `due`, which says that a
packet matched the entry before its deadline, and `cancelled`, that its wait was aborted. -/
structure WaitEntry where
  cmds : List Nat
  hasFn : Bool
  triggered : Bool
  aborted : Bool
  pc : WaiterPc
  due : Bool
  cancelled : Bool
  deriving DecidableEq, Repr

/-- No waiter has used the entry. -/
def WaitEntry.unused : WaitEntry := ⟨[], false, false, false, .idle, false, false⟩

/-- The header of a packet. -/
structure PktHeader where
  groupId : Nat
  cmd : Nat

/-- `WIDE_ID`. -/
def wideId (grp opcode : Nat) : Nat := grp <<< 8 ||| opcode

/-- `DEF_ID`. -/
def defId (opcode : Nat) : Nat := 1 <<< 8 ||| opcode

/-- `iwl_cmd_groupid`. -/
def iwlCmdGroupid (cmdid : Nat) : Nat := (cmdid &&& 0xFF00) >>> 8

/-- The command of a packet is one that the entry waits for. -/
def WaitEntry.found (e : WaitEntry) (pkt : PktHeader) : Bool :=
  let recId := wideId pkt.groupId pkt.cmd
  e.cmds.any fun cmd => cmd == recId || (iwlCmdGroupid cmd == 0 && defId cmd == recId)

/-- The packet ends the wait: it is found, and the callback, if any, answers true. -/
def WaitEntry.accepts (e : WaitEntry) (pkt : PktHeader) (fnTrue : Bool) : Bool :=
  e.found pkt && (!e.hasFn || fnTrue)

/-- An entry is evaluated until it is triggered or aborted. -/
def WaitEntry.triggers (e : WaitEntry) (pkt : PktHeader) (fnTrue : Bool) : Bool :=
  !(e.triggered || e.aborted) && e.accepts pkt fnTrue

/-- The entry is registered: its waiter has not left. -/
def WaiterPc.registered : WaiterPc → Bool
  | .ready | .asleep | .woken _ => true
  | .idle | .removed _ | .returned _ => false

/-- The deadline of the waiter has not passed. -/
def WaiterPc.beforeDeadline : WaiterPc → Bool
  | .ready | .asleep | .woken true => true
  | _ => false

/-- `struct iwl_notif_wait_data`, with the calls that are between their two parts. -/
structure NotifWaitData (Entry : Type) where
  notifWaits : List Entry
  entry : Entry → WaitEntry
  toNotify : Nat
  toAbort : Nat

/-- `MAX_NOTIF_CMDS`. -/
def maxNotifCmds : Nat := 5

inductive WaitAct (Entry : Type) where
  /-- `iwl_init_notification_wait`. -/
  | init (w : Entry) (cmds : List Nat) (hasFn : Bool)
  /-- `iwl_notification_wait`, with the answers of the callbacks. -/
  | receive (pkt : PktHeader) (fnTrue : Entry → Bool)
  /-- `iwl_notification_notify`. -/
  | notify
  /-- The first loop of `iwl_abort_notification_waits`. -/
  | abortMark
  /-- The second one. -/
  | abortWake
  /-- `IOLockLock` and `IOLockSleepDeadline`. -/
  | sleep (w : Entry)
  /-- The deadline passes, or the thread is interrupted. -/
  | expire (w : Entry)
  /-- The lock is taken again, the entry is removed, and the lock is given back. -/
  | resume (w : Entry)
  /-- `aborted` and the result of the sleep are tested. -/
  | finish (w : Entry)
  /-- `iwl_remove_notification`, without a wait. -/
  | drop (w : Entry)

variable {Entry : Type} [DecidableEq Entry]

/-- No entry is in the list. -/
def NotifWaitData.start : NotifWaitData Entry := ⟨[], fun _ => .unused, 0, 0⟩

/-- An entry is written. -/
def NotifWaitData.setEntry (data : NotifWaitData Entry) (w : Entry) (e : WaitEntry) :
    NotifWaitData Entry :=
  { data with entry := Function.update data.entry w e }

/-- `iwl_init_notification_wait`. -/
def iwlInitNotificationWait (data : NotifWaitData Entry) (w : Entry) (cmds : List Nat)
    (hasFn : Bool) : NotifWaitData Entry :=
  { data.setEntry w ⟨cmds.take maxNotifCmds, hasFn, false, false, .ready, false, false⟩ with
    notifWaits := w :: data.notifWaits }

/-- What `iwl_notification_wait` does to an entry; a packet that comes before the deadline counts for
every registered entry that it matches. -/
def receives (listed : Bool) (pkt : PktHeader) (fnTrue : Bool) (e : WaitEntry) : WaitEntry :=
  { e with
    triggered := e.triggered || (listed && e.triggers pkt fnTrue)
    due := e.due || (e.pc.beforeDeadline && e.accepts pkt fnTrue) }

/-- `iwl_notification_wait`, which says whether an entry was triggered. -/
def iwlNotificationWait (data : NotifWaitData Entry) (pkt : PktHeader) (fnTrue : Entry → Bool) :
    Bool × NotifWaitData Entry :=
  (data.notifWaits.any fun w => (data.entry w).triggers pkt (fnTrue w),
    { data with
      entry := fun w => receives (w ∈ data.notifWaits) pkt (fnTrue w) (data.entry w) })

/-- The loop of `IOLockWakeup` over the list: it reaches the entries whose waiters are asleep. -/
def wakes (listed : Bool) (e : WaitEntry) : WaitEntry :=
  if listed && e.pc == .asleep then { e with pc := .woken true } else e

/-- `iwl_notification_notify`. -/
def iwlNotificationNotify (data : NotifWaitData Entry) : NotifWaitData Entry :=
  { data with entry := fun w => wakes (w ∈ data.notifWaits) (data.entry w) }

/-- The first loop of `iwl_abort_notification_waits`; the wait of every registered entry is aborted. -/
def abortMarks (listed : Bool) (e : WaitEntry) : WaitEntry :=
  { e with
    aborted := e.aborted || listed
    cancelled := e.cancelled || e.pc.registered }

/-- `iwl_remove_notification`: `STAILQ_REMOVE_HEAD` takes the first entry off, and faults when there is
none. -/
def iwlRemoveNotification (data : NotifWaitData Entry) : Option (NotifWaitData Entry) :=
  match data.notifWaits with
  | [] => none
  | _ :: later => some { data with notifWaits := later }

/-- What `iwl_wait_notification` returns. -/
def waitResult (aborted awakened : Bool) : WaitResult :=
  if aborted then .eio else if awakened then .ok else .etimedout

/-- A step of a waiter, of the receive path or of an abort. -/
def notifStep (data : NotifWaitData Entry) : WaitAct Entry → Option (NotifWaitData Entry)
  | .init w cmds hasFn =>
    match (data.entry w).pc with
    | .idle | .returned _ => some (iwlInitNotificationWait data w cmds hasFn)
    | _ => none
  | .receive pkt fnTrue =>
    let (triggered, data) := iwlNotificationWait data pkt fnTrue
    some (if triggered then { data with toNotify := data.toNotify + 1 } else data)
  | .notify =>
    if data.toNotify = 0 then none
    else some { iwlNotificationNotify data with toNotify := data.toNotify - 1 }
  | .abortMark =>
    some { data with
      entry := fun w => abortMarks (w ∈ data.notifWaits) (data.entry w)
      toAbort := data.toAbort + 1 }
  | .abortWake =>
    if data.toAbort = 0 then none
    else some { iwlNotificationNotify data with toAbort := data.toAbort - 1 }
  | .sleep w =>
    if (data.entry w).pc = .ready then some (data.setEntry w { data.entry w with pc := .asleep })
    else none
  | .expire w =>
    if (data.entry w).pc = .asleep then some (data.setEntry w { data.entry w with pc := .woken false })
    else none
  | .resume w =>
    match (data.entry w).pc with
    | .woken awakened =>
      iwlRemoveNotification (data.setEntry w { data.entry w with pc := .removed awakened })
    | _ => none
  | .finish w =>
    match (data.entry w).pc with
    | .removed awakened =>
      some (data.setEntry w
        { data.entry w with pc := .returned (waitResult (data.entry w).aborted awakened) })
    | _ => none
  | .drop w =>
    if (data.entry w).pc = .ready then
      iwlRemoveNotification (data.setEntry w { data.entry w with pc := .idle })
    else none

/-! ### The order of steps -/

/-- Every sleeper in the list may be woken: it was triggered or aborted. -/
def wakesRightly (data : NotifWaitData Entry) : Bool :=
  data.notifWaits.all fun w =>
    (data.entry w).pc != .asleep || (data.entry w).triggered || (data.entry w).aborted

/-- **The good orders**: who goes to sleep after a trigger does so before the wakeup; no deadline passes
between a trigger and its wakeup; a wakeup reaches only sleepers that were triggered or aborted; and who
leaves the list is first in it. -/
def inOrder (data : NotifWaitData Entry) : WaitAct Entry → Bool
  | .sleep w => !(data.entry w).triggered || (data.entry w).aborted || data.toNotify != 0
  | .expire w => !(data.entry w).triggered || (data.entry w).aborted || data.toNotify == 0
  | .notify | .abortWake => wakesRightly data
  | .resume w | .drop w => data.notifWaits.head? == some w
  | .init .. | .receive .. | .abortMark | .finish _ => true

/-- What the wait should return. -/
def verdict (e : WaitEntry) : WaitResult :=
  if e.cancelled then .eio else if e.due then .ok else .etimedout

/-! ### The invariant -/

/-- What is known of an entry where its waiter is, with so many wakeups to come. -/
def Fine (pending : Nat) (e : WaitEntry) : Prop :=
  match e.pc with
  | .idle => True
  | .ready => e.cancelled = e.aborted ∧ (e.aborted = false → e.due = e.triggered)
  | .asleep => e.cancelled = e.aborted ∧
      (e.aborted = false → e.due = e.triggered ∧ (e.triggered = true → pending ≠ 0))
  | .woken awakened | .removed awakened => e.cancelled = e.aborted ∧ (e.aborted = false → e.due = awakened)
  | .returned result => result = verdict e

/-- **The wait list and its waiters.** -/
structure Waiting (data : NotifWaitData Entry) : Prop where
  listed : ∀ w, w ∈ data.notifWaits ↔ (data.entry w).pc.registered = true
  nodup : data.notifWaits.Nodup
  fine : ∀ w, Fine data.toNotify (data.entry w)

omit [DecidableEq Entry] in
theorem waiting_start : Waiting (NotifWaitData.start : NotifWaitData Entry) :=
  ⟨fun _ => iff_of_false (by simp [NotifWaitData.start]) (by simp [NotifWaitData.start,
    WaitEntry.unused, WaiterPc.registered]), List.nodup_nil, fun _ => trivial⟩

variable {data next : NotifWaitData Entry}

@[simp] theorem setEntry_same (data : NotifWaitData Entry) (w : Entry) (e : WaitEntry) :
    (data.setEntry w e).entry w = e := Function.update_self ..

@[simp] theorem setEntry_other (data : NotifWaitData Entry) {w other : Entry} (e : WaitEntry)
    (apart : other ≠ w) : (data.setEntry w e).entry other = data.entry other :=
  Function.update_of_ne apart ..

/-- One entry is written, and stays in the list or out of it. -/
theorem Waiting.setEntry (waiting : Waiting data) {w : Entry} {e : WaitEntry}
    (same : e.pc.registered = (data.entry w).pc.registered) (fine : Fine data.toNotify e) :
    Waiting (data.setEntry w e) := by
  refine ⟨fun other => ?_, waiting.nodup, fun other => ?_⟩ <;> by_cases here : other = w
  · subst here
    rw [setEntry_same, same]
    exact waiting.listed other
  · rw [setEntry_other data e here]
    exact waiting.listed other
  · subst here
    rw [setEntry_same]
    exact fine
  · rw [setEntry_other data e here]
    exact waiting.fine other

omit [DecidableEq Entry] in
/-- All entries are changed, and each stays in the list or out of it. -/
theorem Waiting.map (waiting : Waiting data) {change : Entry → WaitEntry} {toNotify toAbort : Nat}
    (same : ∀ w, (change w).pc.registered = (data.entry w).pc.registered)
    (fine : ∀ w, Fine toNotify (change w)) :
    Waiting { data with entry := change, toNotify := toNotify, toAbort := toAbort } :=
  ⟨fun w => (waiting.listed w).trans (by rw [same w]), waiting.nodup, fine⟩

/-- A new entry is put in the list. -/
theorem Waiting.insert (waiting : Waiting data) {w : Entry} {e : WaitEntry}
    (left : (data.entry w).pc.registered = false) (registered : e.pc.registered = true)
    (fine : Fine data.toNotify e) :
    Waiting { data.setEntry w e with notifWaits := w :: data.notifWaits } := by
  have absent : w ∉ data.notifWaits := fun member => by
    rw [waiting.listed, left] at member
    cases member
  refine ⟨fun other => ?_, List.nodup_cons.mpr ⟨absent, waiting.nodup⟩, fun other => ?_⟩ <;>
    by_cases here : other = w
  · subst here
    dsimp only [NotifWaitData.setEntry]
    rw [Function.update_self]
    exact iff_of_true List.mem_cons_self registered
  · dsimp only [NotifWaitData.setEntry]
    rw [Function.update_of_ne here, List.mem_cons, or_iff_right here]
    exact waiting.listed other
  · subst here
    dsimp only [NotifWaitData.setEntry]
    rw [Function.update_self]
    exact fine
  · dsimp only [NotifWaitData.setEntry]
    rw [Function.update_of_ne here]
    exact waiting.fine other

/-- **The first entry leaves the list.** -/
theorem Waiting.remove (waiting : Waiting data) {w : Entry} {e : WaitEntry}
    (first : data.notifWaits.head? = some w) (left : e.pc.registered = false)
    (fine : Fine data.toNotify e) (removed : iwlRemoveNotification (data.setEntry w e) = some next) :
    Waiting next := by
  obtain ⟨later, list⟩ : ∃ later, data.notifWaits = w :: later := by
    cases list : data.notifWaits with
    | nil =>
      rw [list] at first
      cases first
    | cons head later =>
      rw [list] at first
      obtain rfl := Option.some.inj first
      exact ⟨later, rfl⟩
  have nodup := waiting.nodup
  rw [list, List.nodup_cons] at nodup
  unfold iwlRemoveNotification NotifWaitData.setEntry at removed
  dsimp only at removed
  rw [list] at removed
  obtain rfl := Option.some.inj removed
  refine ⟨fun other => ?_, nodup.2, fun other => ?_⟩ <;> dsimp only <;> by_cases here : other = w
  · subst here
    rw [Function.update_self, left]
    exact iff_of_false nodup.1 Bool.false_ne_true
  · have before := waiting.listed other
    rw [list, List.mem_cons, or_iff_right here] at before
    rw [Function.update_of_ne here]
    exact before
  · subst here
    rw [Function.update_self]
    exact fine
  · rw [Function.update_of_ne here]
    exact waiting.fine other

/-! ### Steps -/

/-- A packet leaves every entry fine; who it triggers in his sleep has a wakeup to come. -/
theorem Fine.receives {e : WaitEntry} {pending more : Nat} (fine : Fine pending e) {listed : Bool}
    (is : listed = e.pc.registered) (pkt : PktHeader) (fnTrue : Bool) (grows : pending ≤ more)
    (some : listed = true → e.triggers pkt fnTrue = true → more ≠ 0) :
    Fine more (receives listed pkt fnTrue e) := by
  unfold Fine NotifWait.receives at *
  subst is
  cases pc : e.pc with
  | idle => trivial
  | ready =>
    rw [pc] at fine
    refine ⟨fine.1, fun running => ?_⟩
    have running : e.aborted = false := running
    have due := fine.2 running
    simp only [WaitEntry.triggers, WaiterPc.registered, WaiterPc.beforeDeadline, due, running]
    cases e.triggered <;> simp
  | asleep =>
    rw [pc] at fine some
    refine ⟨fine.1, fun running => ?_⟩
    have running : e.aborted = false := running
    obtain ⟨due, pends⟩ := fine.2 running
    simp only [WaitEntry.triggers, WaiterPc.registered, WaiterPc.beforeDeadline, due, running,
      Bool.or_false, Bool.true_and] at some ⊢
    cases triggered : e.triggered with
    | true => exact ⟨by simp, fun _ => by have := pends triggered; omega⟩
    | false =>
      rw [triggered] at some
      refine ⟨by simp, fun now => some trivial (by simpa using now)⟩
  | woken awakened =>
    rw [pc] at fine
    refine ⟨fine.1, fun running => ?_⟩
    have due := fine.2 running
    cases awakened <;> simp [WaiterPc.beforeDeadline, due]
  | removed awakened =>
    rw [pc] at fine
    refine ⟨fine.1, fun running => ?_⟩
    simpa [WaiterPc.beforeDeadline] using fine.2 running
  | returned result =>
    rw [pc] at fine
    simpa [verdict, WaiterPc.beforeDeadline] using fine

/-- A wakeup leaves every entry fine, if the sleeper was triggered or aborted. -/
theorem Fine.wakes {e : WaitEntry} {pending fewer : Nat} (fine : Fine pending e) {listed : Bool}
    (is : listed = e.pc.registered)
    (rightly : e.pc = .asleep → e.triggered = true ∨ e.aborted = true) :
    Fine fewer (wakes listed e) := by
  unfold Fine NotifWait.wakes at *
  subst is
  cases pc : e.pc with
  | asleep =>
    rw [pc] at fine
    refine ⟨fine.1, fun running => ?_⟩
    have running : e.aborted = false := running
    refine ((fine.2 running).1).trans ((rightly pc).resolve_right fun aborted => ?_)
    rw [running] at aborted
    cases aborted
  | idle => simp [pc]
  | ready | woken awakened | removed awakened | returned result =>
    rw [pc] at fine
    simpa [pc] using fine

/-- An abort leaves every entry fine. -/
theorem Fine.abortMarks {e : WaitEntry} {pending : Nat} (fine : Fine pending e) {listed : Bool}
    (is : listed = e.pc.registered) : Fine pending (abortMarks listed e) := by
  unfold Fine NotifWait.abortMarks at *
  subst is
  cases pc : e.pc with
  | idle => trivial
  | ready | asleep | woken awakened =>
    rw [pc] at fine
    refine ⟨by simp [WaiterPc.registered], fun running => ?_⟩
    simp [WaiterPc.registered] at running
  | removed awakened =>
    rw [pc] at fine
    simpa [WaiterPc.registered] using fine
  | returned result =>
    rw [pc] at fine
    simpa [WaiterPc.registered, verdict] using fine

theorem wakes_registered (listed : Bool) (e : WaitEntry) :
    (wakes listed e).pc.registered = e.pc.registered := by
  unfold wakes
  split
  · rename_i asleep
    rw [eq_of_beq (Bool.and_eq_true_iff.mp asleep).2]
    rfl
  · rfl

theorem Waiting.listed_eq (waiting : Waiting data) (w : Entry) :
    decide (w ∈ data.notifWaits) = (data.entry w).pc.registered := by
  rw [Bool.eq_iff_iff, decide_eq_true_eq]
  exact waiting.listed w

theorem Waiting.receive (waiting : Waiting data) (pkt : PktHeader) (fnTrue : Entry → Bool)
    (stepped : notifStep data (.receive pkt fnTrue) = some next) : Waiting next := by
  unfold notifStep iwlNotificationWait at stepped
  dsimp only at stepped
  cases any : data.notifWaits.any fun w => (data.entry w).triggers pkt (fnTrue w) with
  | true =>
    rw [any] at stepped
    obtain rfl := Option.some.inj stepped
    exact waiting.map (fun w => rfl) fun w => (waiting.fine w).receives (waiting.listed_eq w) pkt _
      (Nat.le_succ _) fun _ _ => Nat.succ_ne_zero _
  | false =>
    rw [any] at stepped
    obtain rfl := Option.some.inj stepped
    refine waiting.map (fun w => rfl) fun w => (waiting.fine w).receives (waiting.listed_eq w) pkt _
      (Nat.le_refl _) fun listed triggers => ?_
    rw [List.any_eq_false] at any
    exact absurd triggers (any w (of_decide_eq_true listed))

/-- Waking the list keeps the invariant, whatever wakeups are to come, when it is done rightly. -/
theorem Waiting.wake (waiting : Waiting data) (rightly : wakesRightly data = true)
    (toNotify toAbort : Nat) :
    Waiting { iwlNotificationNotify data with toNotify := toNotify, toAbort := toAbort } := by
  refine waiting.map (fun w => wakes_registered _ _) fun w =>
    (waiting.fine w).wakes (waiting.listed_eq w) fun asleep => ?_
  have member : w ∈ data.notifWaits := (waiting.listed w).mpr (by rw [asleep]; rfl)
  have here := List.all_eq_true.mp rightly w member
  rw [asleep] at here
  simpa using here

/-- A waiter goes to sleep: what was triggered before has its wakeup to come. -/
theorem Waiting.sleep {w : Entry} (waiting : Waiting data) (order : inOrder data (.sleep w) = true)
    (stepped : notifStep data (.sleep w) = some next) : Waiting next := by
  unfold notifStep at stepped
  dsimp only at stepped
  split at stepped
  · rename_i pc
    obtain rfl := Option.some.inj stepped
    have fine := waiting.fine w
    unfold Fine at fine
    rw [pc] at fine
    refine waiting.setEntry (by rw [pc]; rfl) ⟨fine.1, fun running => ⟨fine.2 running, fun triggered => ?_⟩⟩
    have running : (data.entry w).aborted = false := running
    have triggered : (data.entry w).triggered = true := triggered
    unfold inOrder at order
    dsimp only at order
    rw [running, triggered] at order
    simpa using order
  · cases stepped

/-- A deadline passes: who was triggered in time has been woken. -/
theorem Waiting.expire {w : Entry} (waiting : Waiting data) (order : inOrder data (.expire w) = true)
    (stepped : notifStep data (.expire w) = some next) : Waiting next := by
  unfold notifStep at stepped
  dsimp only at stepped
  split at stepped
  · rename_i pc
    obtain rfl := Option.some.inj stepped
    have fine := waiting.fine w
    unfold Fine at fine
    rw [pc] at fine
    refine waiting.setEntry (by rw [pc]; rfl) ⟨fine.1, fun running => ?_⟩
    have running : (data.entry w).aborted = false := running
    obtain ⟨due, pends⟩ := fine.2 running
    refine due.trans ?_
    cases triggered : (data.entry w).triggered with
    | false => rfl
    | true =>
      unfold inOrder at order
      dsimp only at order
      rw [running, triggered] at order
      exact absurd (by simpa using order) (pends triggered)
  · cases stepped

/-- A woken waiter takes its entry from the list. -/
theorem Waiting.resume {w : Entry} (waiting : Waiting data) (order : inOrder data (.resume w) = true)
    (stepped : notifStep data (.resume w) = some next) : Waiting next := by
  unfold notifStep at stepped
  dsimp only at stepped
  cases pc : (data.entry w).pc with
  | woken awakened =>
    rw [pc] at stepped
    have fine := waiting.fine w
    unfold Fine at fine
    rw [pc] at fine
    refine waiting.remove (eq_of_beq order) ?_ ?_ stepped
    · rfl
    · exact fine
  | idle | ready | asleep | removed _ | returned _ =>
    rw [pc] at stepped
    cases stepped

/-- It returns the verdict. -/
theorem Waiting.finish {w : Entry} (waiting : Waiting data)
    (stepped : notifStep data (.finish w) = some next) : Waiting next := by
  unfold notifStep at stepped
  dsimp only at stepped
  cases pc : (data.entry w).pc with
  | removed awakened =>
    rw [pc] at stepped
    obtain rfl := Option.some.inj stepped
    have fine := waiting.fine w
    unfold Fine at fine
    rw [pc] at fine
    refine waiting.setEntry (by rw [pc]; rfl) ?_
    unfold Fine verdict waitResult
    dsimp only
    rw [fine.1]
    cases aborted : (data.entry w).aborted with
    | true => rfl
    | false => rw [fine.2 aborted]
  | idle | ready | asleep | woken _ | returned _ =>
    rw [pc] at stepped
    cases stepped

/-- **A step in order keeps the invariant.** -/
theorem Waiting.step (waiting : Waiting data) (act : WaitAct Entry) (order : inOrder data act = true)
    (stepped : notifStep data act = some next) : Waiting next := by
  cases act with
  | init w cmds hasFn =>
    have free : (data.entry w).pc.registered = false ∧
        some (iwlInitNotificationWait data w cmds hasFn) = some next := by
      unfold notifStep at stepped
      dsimp only at stepped
      cases pc : (data.entry w).pc <;> rw [pc] at stepped <;>
        first | exact ⟨rfl, stepped⟩ | cases stepped
    obtain ⟨left, same⟩ := free
    obtain rfl := Option.some.inj same
    exact waiting.insert left rfl ⟨rfl, fun _ => rfl⟩
  | receive pkt fnTrue => exact waiting.receive pkt fnTrue stepped
  | notify =>
    unfold notifStep at stepped
    dsimp only at stepped
    split at stepped
    · cases stepped
    · obtain rfl := Option.some.inj stepped
      exact waiting.wake order (data.toNotify - 1) data.toAbort
  | abortMark =>
    obtain rfl := Option.some.inj stepped
    exact waiting.map (fun w => rfl) fun w => (waiting.fine w).abortMarks (waiting.listed_eq w)
  | abortWake =>
    unfold notifStep at stepped
    dsimp only at stepped
    split at stepped
    · cases stepped
    · obtain rfl := Option.some.inj stepped
      exact waiting.wake order data.toNotify (data.toAbort - 1)
  | sleep w => exact waiting.sleep order stepped
  | expire w => exact waiting.expire order stepped
  | resume w => exact waiting.resume order stepped
  | finish w => exact waiting.finish stepped
  | drop w =>
    unfold notifStep at stepped
    dsimp only at stepped
    split at stepped
    · refine waiting.remove (eq_of_beq order) ?_ ?_ stepped
      · rfl
      · trivial
    · cases stepped

/-- **What a waiter returns**: 0 if a packet matched its entry before its deadline and its wait was not
aborted, `-EIO` if it was, and else `-ETIMEDOUT`, in every run in a good order. -/
theorem notifWait_verdict (acts : List (WaitAct Entry)) (last : NotifWaitData Entry)
    (order : Machine.allowed notifStep inOrder .start acts = true)
    (ran : Machine.run notifStep .start acts = some last) (w : Entry) (result : WaitResult)
    (returned : (last.entry w).pc = .returned result) : result = verdict (last.entry w) := by
  have waiting : Waiting last := Machine.run_invariant_of_allowed Waiting
    (fun _ act _ waiting order stepped => waiting.step act order stepped) waiting_start order ran
  have fine := waiting.fine w
  unfold Fine at fine
  rw [returned] at fine
  exact fine

/-- Two waiters, the later one first: a packet for each, after both are asleep. -/
def twoWaits : List (WaitAct Bool) :=
  [.init true [5] false, .init false [6] true, .sleep true, .sleep false,
    .receive ⟨0, 6⟩ fun _ => true, .receive ⟨0, 5⟩ fun _ => true, .notify, .resume false, .finish false,
    .resume true, .finish true]

theorem notifWait_verdict_twoWaits : ∃ last, Machine.run notifStep .start twoWaits = some last ∧
    (last.entry true).pc = .returned .ok ∧ WaitResult.ok = verdict (last.entry true) :=
  ⟨_, rfl, rfl, notifWait_verdict twoWaits _ (by decide) rfl true .ok rfl⟩

/-- The packet comes before the waiter is asleep. -/
def earlyTrigger : List (WaitAct Bool) :=
  [.init true [5] false, .receive ⟨0, 5⟩ (fun _ => true), .notify, .sleep true, .expire true, .resume true,
    .finish true]

/-- Two waiters, and a packet for the second one, which is first in the list. -/
def foreignTrigger : List (WaitAct Bool) :=
  [.init true [5] false, .init false [6] false, .sleep true, .sleep false,
    .receive ⟨0, 6⟩ (fun _ => true), .notify, .resume false, .finish false, .resume true, .finish true]

/-- **A trigger before the sleep is lost**: the wait times out though its packet came and it was not
aborted; **and another entry's packet completes a wait** that no packet matched. -/
theorem notifWait_broken :
    (∃ last, Machine.run notifStep .start earlyTrigger = some last ∧
      (last.entry true).pc = .returned .etimedout ∧ verdict (last.entry true) = .ok) ∧
    ∃ last, Machine.run notifStep .start foreignTrigger = some last ∧
      (last.entry true).pc = .returned .ok ∧ verdict (last.entry true) = .etimedout :=
  ⟨⟨_, rfl, rfl, rfl⟩, ⟨_, rfl, rfl, rfl⟩⟩

end IntelWifi.NotifWait
