/-
**The legacy interrupt mask.**

`interruptFilter` writes 0 to `CSR_INT_MASK` and does not record what was enabled. `iwl_pcie_irq_handler`
runs later, on the work loop: it reads a cause word, keeps the causes of `inta_mask`, services them, and
writes a mask again that it finds by `STATUS_INT_ENABLED` and by the causes it handled. The lock around
this is commented out, so that other requests for a mask come between any two of its accesses.

The services, and other threads, act on the mask through the four requests only.

* `maskRequested_iff`: the runs in which the mask is the requested one whenever no handler is pending.
* `interrupt_restores_iff`: the causes with which an undisturbed interrupt restores the mask.
-/

import IntelWifi.Lib.Machine
import Mathlib.Tactic.Common

namespace IntelWifi.Pcie

open Machine

/-! ### Causes -/

/-- `CSR_INT_BIT_FH_TX`. -/
def intBitFhTx : BitVec 32 := 1#32 <<< 27
/-- `CSR_INT_BIT_RF_KILL`. -/
def intBitRfKill : BitVec 32 := 1#32 <<< 7
/-- `CSR_INT_BIT_HW_ERR`. -/
def intBitHwErr : BitVec 32 := 1#32 <<< 29
/-- `CSR_INT_BIT_FH_RX`. -/
def intBitFhRx : BitVec 32 := 1#32 <<< 31
/-- `CSR_INT_BIT_SW_RX`. -/
def intBitSwRx : BitVec 32 := 1#32 <<< 3
/-- `CSR_INT_BIT_RX_PERIODIC`. -/
def intBitRxPeriodic : BitVec 32 := 1#32 <<< 28
/-- `CSR_INT_BIT_SW_ERR`. -/
def intBitSwErr : BitVec 32 := 1#32 <<< 25
/-- `CSR_INT_BIT_PAGING`. -/
def intBitPaging : BitVec 32 := 1#32 <<< 24
/-- `CSR_INT_BIT_CT_KILL`. -/
def intBitCtKill : BitVec 32 := 1#32 <<< 6
/-- `CSR_INT_BIT_WAKEUP`. -/
def intBitWakeup : BitVec 32 := 1#32 <<< 1
/-- `CSR_INT_BIT_ALIVE`. -/
def intBitAlive : BitVec 32 := 1#32

/-- `CSR_INI_SET_MASK`. -/
def csrIniSetMask : BitVec 32 :=
  intBitFhRx ||| intBitHwErr ||| intBitFhTx ||| intBitSwErr ||| intBitPaging ||| intBitRfKill |||
    intBitSwRx ||| intBitWakeup ||| intBitAlive ||| intBitRxPeriodic

/-- The test for a device that is gone. -/
def hardwareGone (inta : BitVec 32) : Bool := inta == 0xFFFFFFFF || inta &&& 0xFFFFFFF0 == 0xa5a5a5a0

/-- What each service of `iwl_pcie_irq_handler` handles, in its order: it is run when one of the bits is
among the causes. -/
def services : List (BitVec 32) :=
  [intBitRfKill, intBitCtKill, intBitSwErr, intBitWakeup, intBitFhRx ||| intBitSwRx, intBitRxPeriodic,
    intBitFhTx]

/-- `handled`, after the services. -/
def handled (inta : BitVec 32) : BitVec 32 :=
  services.foldl (fun done bits => if inta &&& bits != 0 then done ||| bits else done) 0

/-! ### The mask -/

/-- The four requests. -/
inductive MaskRequest where
  | enableInterrupts | enableFwLoadInt | enableRfkillInt | disableInterrupts
  deriving DecidableEq, Repr

/-- The mask that is requested. -/
def MaskRequest.mask : MaskRequest → BitVec 32
  | .enableInterrupts => csrIniSetMask
  | .enableFwLoadInt => intBitFhTx
  | .enableRfkillInt => intBitRfKill
  | .disableInterrupts => 0

/-- Where `iwl_pcie_irq_handler` is. -/
inductive IrqPhase where
  | idle
  /-- None of the causes is enabled: `STATUS_INT_ENABLED` is tested next. -/
  | ignored
  /-- A hardware error: `iwl_disable_interrupts` is called next. -/
  | hwErr
  /-- The services run, and then `STATUS_INT_ENABLED` is tested. -/
  | service (inta : BitVec 32)
  /-- The tests are done: this is called next. -/
  | restoring (request : MaskRequest)
  deriving DecidableEq, Repr

structure IrqState where
  /-- `CSR_INT_MASK`. -/
  mask : BitVec 32
  /-- `trans_pcie->inta_mask`. -/
  intaMask : BitVec 32
  /-- `STATUS_INT_ENABLED`. -/
  intEnabled : Bool
  /-- The filter has asked for a handler that has not begun. -/
  signalled : Bool
  phase : IrqPhase
  /-- The last request. -/
  request : MaskRequest
  /-- A handler has left because of its hardware, and no request was made since. -/
  exited : Bool
  deriving DecidableEq, Repr

/-- `_iwl_enable_interrupts`, `iwl_enable_fw_load_int`, `iwl_enable_rfkill_int`,
`_iwl_disable_interrupts`. -/
def IrqState.perform (st : IrqState) : MaskRequest → IrqState
  | .enableInterrupts => { st with intEnabled := true, intaMask := csrIniSetMask, mask := csrIniSetMask }
  | .enableFwLoadInt => { st with intaMask := intBitFhTx, mask := intBitFhTx }
  | .enableRfkillInt => { st with intaMask := intBitRfKill, mask := intBitRfKill }
  | .disableInterrupts => { st with intEnabled := false, mask := 0 }

/-- `interruptFilter`. -/
def IrqState.interruptFilter (st : IrqState) : IrqState := { st with mask := 0, signalled := true }

/-- `iwl_pcie_irq_handler` reads its causes. -/
def IrqState.begin (st : IrqState) (cause : BitVec 32) : IrqState :=
  let inta := cause &&& st.intaMask
  let st := { st with signalled := false }
  if inta = 0 then { st with phase := .ignored }
  else if hardwareGone inta then { st with phase := .idle, exited := true }
  else if inta &&& intBitHwErr ≠ 0 then { st with phase := .hwErr }
  else { st with phase := .service inta }

/-- What `iwl_pcie_irq_handler` calls at its end, if anything. -/
def restoration (intEnabled : Bool) (inta : BitVec 32) : Option MaskRequest :=
  if intEnabled then some .enableInterrupts
  -- we are loading the firmware
  else if handled inta &&& intBitFhTx ≠ 0 then some .enableFwLoadInt
  else if handled inta &&& intBitRfKill ≠ 0 then some .enableRfkillInt
  else none

/-- The rest of a handler that restores this. -/
def afterTests : Option MaskRequest → IrqPhase
  | some request => .restoring request
  | none => .idle

/-- The next step of `iwl_pcie_irq_handler`, when it has begun. -/
def IrqState.handler (st : IrqState) : IrqState :=
  match st.phase with
  | .idle => st
  | .ignored => { st with phase := if st.intEnabled then .restoring .enableInterrupts else .idle }
  | .hwErr => { st.perform .disableInterrupts with phase := .idle, exited := true }
  | .service inta => { st with phase := afterTests (restoration st.intEnabled inta) }
  | .restoring request => { st.perform request with phase := .idle }

inductive IrqAct where
  | request (request : MaskRequest)
  | filter
  /-- The work loop calls the handler, which finds these causes. -/
  | begin (cause : BitVec 32)
  | handler
  deriving DecidableEq, Repr

/-- A step. The work loop calls one handler at a time. -/
def maskStep (st : IrqState) : IrqAct → Option IrqState
  | .request request => some { st.perform request with request := request, exited := false }
  | .filter => some st.interruptFilter
  | .begin cause => some (if st.signalled ∧ st.phase = .idle then st.begin cause else st)
  | .handler => some st.handler

/-- After `iwl_trans_pcie_alloc`. -/
def irqStart : IrqState where
  mask := 0
  intaMask := csrIniSetMask
  intEnabled := false
  signalled := false
  phase := .idle
  request := .disableInterrupts
  exited := false

/-! ### The property and its condition -/

/-- No handler is pending. -/
def IrqState.Pending (st : IrqState) : Prop := st.signalled = true ∨ st.phase ≠ .idle

instance (st : IrqState) : Decidable st.Pending := inferInstanceAs (Decidable (_ ∨ _))

/-- The mask is the one that was requested last, unless a handler is pending or left because of its
hardware. -/
def MaskRequested (st : IrqState) : Prop := st.Pending ∨ st.exited = true ∨ st.mask = st.request.mask

instance (st : IrqState) : Decidable (MaskRequested st) := inferInstanceAs (Decidable (_ ∨ _ ∨ _))

/-- **The condition on a step.** The handler's last step restores what was requested last: where it calls
a function, this one; where it calls none, because `STATUS_INT_ENABLED` is clear and neither `FH_TX` nor
`RF_KILL` was handled, the mask is already right. -/
def restores (st : IrqState) : IrqAct → Bool
  | .handler =>
    st.signalled || st.exited ||
      match st.phase with
      | .ignored => st.intEnabled || decide (st.mask = st.request.mask)
      | .service inta =>
        (restoration st.intEnabled inta).isSome || decide (st.mask = st.request.mask)
      | .restoring request => decide (request = st.request)
      | _ => true
  | _ => true

/-! ### Runs -/

theorem perform_mask (st : IrqState) (request : MaskRequest) : (st.perform request).mask = request.mask := by
  cases request <;> rfl

@[simp] theorem perform_request (st : IrqState) (request : MaskRequest) :
    (st.perform request).request = st.request := by
  cases request <;> rfl

@[simp] theorem perform_signalled (st : IrqState) (request : MaskRequest) :
    (st.perform request).signalled = st.signalled := by
  cases request <;> rfl

@[simp] theorem perform_exited (st : IrqState) (request : MaskRequest) :
    (st.perform request).exited = st.exited := by
  cases request <;> rfl

/-- Different requests are for different masks. -/
theorem mask_injective : Function.Injective MaskRequest.mask := by
  intro a b
  cases a <;> cases b <;> decide

variable {st : IrqState}

/-- A handler that begins has not left because of its causes, or it has left because of the hardware. -/
theorem begin_pending (st : IrqState) (cause : BitVec 32) :
    (st.begin cause).phase ≠ .idle ∨ (st.begin cause).exited = true := by
  unfold IrqState.begin
  dsimp only
  split_ifs
  · exact .inl (nomatch ·)
  · exact .inr rfl
  · exact .inl (nomatch ·)
  · exact .inl (nomatch ·)

/-- The handler's next step has the property exactly under the condition. -/
theorem handler_requested_iff (was : MaskRequested st) :
    MaskRequested st.handler ↔ restores st .handler = true := by
  unfold restores
  dsimp only
  by_cases excused : st.signalled = true ∨ st.exited = true
  · refine iff_of_true ?_ (by rcases excused with h | h <;> simp [h])
    unfold MaskRequested IrqState.Pending IrqState.handler
    rcases excused with signalled | exited
    · refine .inl (.inl ?_)
      cases st.phase <;> simp [signalled]
    · refine .inr (.inl ?_)
      cases st.phase <;> simp [exited]
  · obtain ⟨signalled, exited⟩ := not_or.mp excused
    rw [Bool.not_eq_true] at signalled exited
    unfold MaskRequested IrqState.Pending IrqState.handler at *
    cases phase : st.phase with
    | idle =>
      simpa [signalled, exited, phase] using was
    | ignored => cases st.intEnabled <;> simp [signalled, exited]
    | hwErr => simp
    | service inta =>
      cases restored : restoration st.intEnabled inta <;> simp [signalled, exited, restored, afterTests]
    | restoring request => simp [signalled, exited, perform_mask, mask_injective.eq_iff]

theorem maskStep_requested_iff (act : IrqAct) (was : MaskRequested st) {next : IrqState}
    (stepped : maskStep st act = some next) : MaskRequested next ↔ restores st act = true := by
  cases act with
  | request request =>
    cases stepped
    exact iff_of_true (.inr (.inr (perform_mask st request))) rfl
  | filter =>
    cases stepped
    exact iff_of_true (.inl (.inl rfl)) rfl
  | begin cause =>
    cases stepped
    refine iff_of_true ?_ rfl
    split
    · exact (begin_pending st cause).elim (fun phase => .inl (.inr phase)) fun exited => .inr (.inl exited)
    · exact was
  | handler =>
    cases stepped
    exact handler_requested_iff was

/-- **The runs in which the mask is never lost**: those in which the last step of each handler after which
none is pending restores what was requested last. -/
theorem maskRequested_iff (acts : List IrqAct) :
    Always maskStep MaskRequested irqStart acts ↔ allowed maskStep restores irqStart acts = true := by
  refine always_iff_allowed MaskRequested ?_ (fun _ requested => requested) ?_ ?_ (.inr (.inr rfl))
  · intro state act next was met stepped
    exact (maskStep_requested_iff act was stepped).mpr met
  · intro state act next was not stepped requested
    have met := (maskStep_requested_iff act was stepped).mp requested
    exact Bool.false_ne_true (not.symm.trans met)
  · intro state act
    cases act <;> exact ⟨_, rfl⟩

/-- While the firmware is loading, a shared interrupt leaves every interrupt masked. -/
theorem fwLoad_shared : ¬ Always maskStep MaskRequested irqStart
    [.request .enableFwLoadInt, .filter, .begin 0, .handler] := by
  intro always
  have last : MaskRequested _ := always.2 _ rfl |>.2 _ rfl |>.2 _ rfl |>.2 _ rfl
  revert last
  decide

/-! ### One interrupt -/

/-- What the services handle of a mask: the bits of those that are run. -/
theorem handled_and_iff (inta mask : BitVec 32) :
    handled inta &&& mask ≠ 0 ↔ ∃ bits ∈ services, inta &&& bits ≠ 0 ∧ bits &&& mask ≠ 0 := by
  have general : ∀ (all : List (BitVec 32)) (done : BitVec 32),
      all.foldl (fun done bits => if inta &&& bits != 0 then done ||| bits else done) done &&& mask ≠ 0 ↔
        done &&& mask ≠ 0 ∨ ∃ bits ∈ all, inta &&& bits ≠ 0 ∧ bits &&& mask ≠ 0 := by
    intro all
    induction all with
    | nil => simp
    | cons bits rest ih =>
      intro done
      simp only [List.foldl_cons, ih, List.mem_cons, exists_eq_or_imp]
      by_cases runs : inta &&& bits = 0
      · simp [runs]
      · have split : (done ||| bits) &&& mask = 0 ↔ done &&& mask = 0 ∧ bits &&& mask = 0 := by
          rw [BitVec.and_or_distrib_right]
          exact BitVec.or_eq_zero_iff
        simp only [bne_iff_ne, ne_eq, runs, not_false_eq_true, if_true, split, true_and, not_and_or, or_assoc]
  rw [handled, general]
  simp

/-- The filter, and a handler that nothing comes between. -/
def interrupt (st : IrqState) (cause : BitVec 32) : IrqState :=
  (st.interruptFilter.begin cause).handler.handler

/-- No handler is pending, and the driver's variables are those of the last request: `STATUS_INT_ENABLED`
is set for all interrupts only. -/
structure Settled (st : IrqState) : Prop where
  idle : st.phase = .idle
  quiet : st.signalled = false
  stays : st.exited = false
  mask : st.mask = st.request.mask
  enabled : st.intEnabled = true ↔ st.request = .enableInterrupts
  intaMask : st.request ≠ .disableInterrupts → st.intaMask = st.request.mask

theorem settled_start : Settled irqStart :=
  ⟨rfl, rfl, rfl, rfl, by decide, fun not => absurd rfl not⟩

/-- A request keeps this, when a part of the interrupts is requested with `STATUS_INT_ENABLED` clear. -/
theorem settled_request (settled : Settled st) (request : MaskRequest)
    (down : request = .enableFwLoadInt ∨ request = .enableRfkillInt → st.intEnabled = false) :
    Settled { st.perform request with request := request, exited := false } := by
  refine ⟨?_, (perform_signalled st request).trans settled.quiet, rfl, perform_mask st request, ?_, ?_⟩
  · cases request <;> exact settled.idle
  · cases request with
    | enableInterrupts => exact iff_of_true rfl rfl
    | enableFwLoadInt => exact iff_of_false (by simp [IrqState.perform, down (.inl rfl)]) (nomatch ·)
    | enableRfkillInt => exact iff_of_false (by simp [IrqState.perform, down (.inr rfl)]) (nomatch ·)
    | disableInterrupts => exact iff_of_false Bool.false_ne_true (nomatch ·)
  · intro not
    cases request with
    | disableInterrupts => exact absurd rfl not
    | _ => rfl

/-- The request whose mask a handler leaves, where the filter's 0 is that of `iwl_disable_interrupts`. -/
def leaves (intEnabled : Bool) (inta : BitVec 32) : MaskRequest :=
  (restoration intEnabled inta).getD .disableInterrupts

theorem zero_eq_mask_iff (request : MaskRequest) : 0#32 = request.mask ↔ .disableInterrupts = request := by
  cases request <;> decide

/-- **An undisturbed interrupt.** -/
theorem interrupt_requested_iff (stays : st.exited = false) (cause : BitVec 32) :
    MaskRequested (interrupt st cause) ↔
      hardwareGone (cause &&& st.intaMask) = true ∨ cause &&& st.intaMask &&& intBitHwErr ≠ 0 ∨
        leaves st.intEnabled (cause &&& st.intaMask) = st.request := by
  unfold interrupt IrqState.begin
  dsimp only [IrqState.interruptFilter]
  generalize cause &&& st.intaMask = inta
  split_ifs with none gone err
  · -- nothing to service: no bit is handled either
    subst none
    have unhandled : restoration st.intEnabled 0 = if st.intEnabled then some .enableInterrupts else none := by
      unfold restoration
      rw [show handled 0 = 0 by decide]
      simp
    rw [leaves, unhandled]
    cases st.intEnabled with
    | false =>
      simp [IrqState.handler, MaskRequested, IrqState.Pending, stays, zero_eq_mask_iff, hardwareGone]
    | true =>
      simp [IrqState.handler, MaskRequested, IrqState.Pending, stays, perform_mask, mask_injective.eq_iff,
        hardwareGone]
  · exact iff_of_true (.inr (.inl rfl)) (.inl gone)
  · exact iff_of_true (.inr (.inl rfl)) (.inr (.inl err))
  · rw [or_iff_right gone, or_iff_right err, leaves]
    cases restored : restoration st.intEnabled inta with
    | none =>
      simp [IrqState.handler, restored, afterTests, MaskRequested, IrqState.Pending, stays, zero_eq_mask_iff]
    | some request =>
      simp [IrqState.handler, restored, afterTests, MaskRequested, IrqState.Pending, stays, perform_mask,
        mask_injective.eq_iff]

/-- A bit that one service handles alone. -/
theorem handled_bit_iff {bit : BitVec 32} (member : bit ∈ services) (set : bit &&& bit ≠ 0)
    (only : ∀ bits ∈ services, bits &&& bit ≠ 0 → bits = bit) (inta : BitVec 32) :
    handled inta &&& bit ≠ 0 ↔ inta &&& bit ≠ 0 := by
  rw [handled_and_iff]
  constructor
  · rintro ⟨bits, among, runs, meets⟩
    rwa [only bits among meets] at runs
  · intro runs
    exact ⟨bit, member, runs, set⟩

theorem handled_fhTx (inta : BitVec 32) : handled inta &&& intBitFhTx ≠ 0 ↔ inta &&& intBitFhTx ≠ 0 :=
  handled_bit_iff (by simp [services]) (by decide)
    (by simp [services, intBitFhTx, intBitRfKill, intBitCtKill, intBitSwErr, intBitWakeup, intBitFhRx, intBitSwRx,
      intBitRxPeriodic]) inta

theorem handled_rfKill (inta : BitVec 32) : handled inta &&& intBitRfKill ≠ 0 ↔ inta &&& intBitRfKill ≠ 0 :=
  handled_bit_iff (by simp [services]) (by decide)
    (by simp [services, intBitFhTx, intBitRfKill, intBitCtKill, intBitSwErr, intBitWakeup, intBitFhRx, intBitSwRx,
      intBitRxPeriodic]) inta

/-- What is left without `STATUS_INT_ENABLED`. -/
theorem leaves_false (inta : BitVec 32) :
    leaves false inta =
      if inta &&& intBitFhTx ≠ 0 then .enableFwLoadInt
      else if inta &&& intBitRfKill ≠ 0 then .enableRfkillInt
      else .disableInterrupts := by
  rw [leaves, restoration, if_neg Bool.false_ne_true]
  simp only [handled_fhTx, handled_rfKill]
  split_ifs <;> rfl

/-- The words of a device that is gone have the bit of a hardware error. -/
theorem hwErr_of_gone {inta : BitVec 32} (gone : hardwareGone inta = true) : inta &&& intBitHwErr ≠ 0 := by
  rcases Bool.or_eq_true _ _ ▸ gone with ones | pattern
  · rw [beq_iff_eq.mp ones]
    decide
  · intro none
    have part : inta &&& 0xFFFFFFF0 &&& intBitHwErr = inta &&& intBitHwErr := by
      rw [BitVec.and_assoc]
      rfl
    rw [none, beq_iff_eq.mp pattern] at part
    exact absurd part (by decide)

/-- The causes with which an undisturbed interrupt restores the mask. -/
def restoringCause (st : IrqState) (cause : BitVec 32) : Prop :=
  match st.request with
  | .enableInterrupts => True
  | .enableFwLoadInt => cause &&& intBitFhTx ≠ 0
  | .enableRfkillInt => cause &&& intBitRfKill ≠ 0
  -- the causes that are kept are those of the request before
  | .disableInterrupts =>
    hardwareGone (cause &&& st.intaMask) = true ∨ cause &&& st.intaMask &&& intBitHwErr ≠ 0 ∨
      (cause &&& st.intaMask &&& intBitFhTx = 0 ∧ cause &&& st.intaMask &&& intBitRfKill = 0)

/-- **With all interrupts requested each cause restores the mask; while the firmware is loading `FH_TX` does,
and while the device is down `RF_KILL` does**: an interrupt with another cause, or none, leaves it 0. -/
theorem interrupt_restores_iff (settled : Settled st) (cause : BitVec 32) :
    MaskRequested (interrupt st cause) ↔ restoringCause st cause := by
  rw [interrupt_requested_iff settled.stays, restoringCause]
  have enabled := settled.enabled
  have masks := settled.intaMask
  cases request : st.request with
  | enableInterrupts => simp [leaves, restoration, enabled.mpr request]
  | enableFwLoadInt =>
    rw [request] at enabled masks
    have off : st.intEnabled = false := Bool.eq_false_iff.mpr fun on => (nomatch enabled.mp on)
    have err : cause &&& intBitFhTx &&& intBitHwErr = 0 := by rw [BitVec.and_assoc]; exact BitVec.and_zero
    have rfKill : cause &&& intBitFhTx &&& intBitRfKill = 0 := by rw [BitVec.and_assoc]; exact BitVec.and_zero
    rw [masks (by decide), MaskRequest.mask, off, leaves_false, or_iff_right fun gone => hwErr_of_gone gone err,
      or_iff_right (not_not.mpr err), rfKill, BitVec.and_assoc, BitVec.and_self]
    split_ifs with set <;> simp_all
  | enableRfkillInt =>
    rw [request] at enabled masks
    have off : st.intEnabled = false := Bool.eq_false_iff.mpr fun on => (nomatch enabled.mp on)
    have err : cause &&& intBitRfKill &&& intBitHwErr = 0 := by rw [BitVec.and_assoc]; exact BitVec.and_zero
    have fhTx : cause &&& intBitRfKill &&& intBitFhTx = 0 := by rw [BitVec.and_assoc]; exact BitVec.and_zero
    rw [masks (by decide), MaskRequest.mask, off, leaves_false, or_iff_right fun gone => hwErr_of_gone gone err,
      or_iff_right (not_not.mpr err), fhTx, BitVec.and_assoc, BitVec.and_self]
    split_ifs with set <;> simp_all
  | disableInterrupts =>
    rw [request] at enabled
    have off : st.intEnabled = false := Bool.eq_false_iff.mpr fun on => (nomatch enabled.mp on)
    rw [off, leaves_false]
    refine or_congr_right (or_congr_right ?_)
    split_ifs with fhTx rfKill <;> simp_all

end IntelWifi.Pcie
