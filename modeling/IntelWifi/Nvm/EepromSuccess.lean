/-
**When `iwl_read_eeprom` succeeds, and what it returns when it does not.**

`iwl_poll_bit` returns the time that has passed when it sees its condition. Of the places that test what it
returned, the one behind `iwl_init_otp_access` tests for anything but 0: a clock that is not ready at once makes
the call fail, with that time as its value.

* `pollBit_ends`: what `iwl_poll_bit` returns.
* `start_of_good`, `start_negative`: the code before the loop, unless the clock is late.
* `successRight_iff`: when a call that meets no failure returns 0, and every other value is negative.
-/

import IntelWifi.Nvm.ReadEeprom

namespace IntelWifi.Nvm

open Loop

/-! ### `iwl_poll_bit` -/

/-- A turn of the loop of `iwl_poll_bit`, after a time in microseconds: the register is read, and read again
`IWL_POLL_INTERVAL` later. -/
def pollTurn (sees : Nat → Bool) (timeout : Nat) (t : Nat) : Turn Nat Ret :=
  if sees t then .leave (.ok t)
  else if t + 10 < timeout then .again (t + 10)
  else .leave (.error .timedout)

/-- What a poll sees first: the condition, or nothing within its timeout. -/
structure Polled (sees : Nat → Bool) (timeout : Nat) (outcome : Option Nat) : Prop where
  seen : ∀ t, outcome = some t → sees t = true ∧ t % 10 = 0 ∧ (t = 0 ∨ t < timeout)
  nothing : outcome = none → ∀ k, k = 0 ∨ 10 * k < timeout → sees (10 * k) = false

/-- At the loop's head: so many looks, all of them in vain. -/
def LookedInVain (sees : Nat → Bool) (timeout t : Nat) : Prop :=
  ∃ k, t = 10 * k ∧ (k = 0 ∨ 10 * k < timeout) ∧ ∀ i < k, sees (10 * i) = false

theorem pollTurn_again {sees : Nat → Bool} {timeout t next : Nat} (here : LookedInVain sees timeout t)
    (turn : pollTurn sees timeout t = .again next) :
    LookedInVain sees timeout next ∧ timeout - next < timeout - t := by
  obtain ⟨k, rfl, _, vain⟩ := here
  unfold pollTurn at turn
  split at turn
  · cases turn
  · split at turn
    next not more =>
      cases turn
      refine ⟨⟨k + 1, by omega, .inr (by omega), fun i below => ?_⟩, by omega⟩
      rcases Nat.lt_succ_iff_lt_or_eq.mp below with earlier | rfl
      · exact vain i earlier
      · exact Bool.not_eq_true _ ▸ not
    · cases turn

theorem pollTurn_leave {sees : Nat → Bool} {timeout t : Nat} {ret : Ret} (here : LookedInVain sees timeout t)
    (turn : pollTurn sees timeout t = .leave ret) :
    ∃ outcome, ret = iwlPollBit outcome ∧ Polled sees timeout outcome := by
  obtain ⟨k, rfl, within, vain⟩ := here
  unfold pollTurn at turn
  split at turn
  next sees =>
    cases turn
    exact ⟨some (10 * k), rfl, fun t is => Option.some.inj is ▸ ⟨sees, by omega, by omega⟩, fun no => (nomatch no)⟩
  next not =>
    split at turn
    · cases turn
    next last =>
      cases turn
      refine ⟨none, rfl, fun t no => (nomatch no), fun _ i inside => ?_⟩
      rcases Nat.lt_trichotomy i k with below | rfl | above
      · exact vain i below
      · exact Bool.not_eq_true _ ▸ not
      · omega

/-- **`iwl_poll_bit` ends**, with the time that has passed or with -ETIMEDOUT. -/
theorem pollBit_ends (sees : Nat → Bool) (timeout : Nat) : ∃ fuel outcome,
    run (pollTurn sees timeout) fuel 0 = some (iwlPollBit outcome) ∧ Polled sees timeout outcome := by
  have entered : LookedInVain sees timeout 0 := ⟨0, rfl, .inl rfl, fun i none => absurd none (Nat.not_lt_zero i)⟩
  obtain ⟨ret, ran⟩ := run_total (LookedInVain sees timeout) (fun t => timeout - t)
    (fun t next here turn => pollTurn_again here turn) entered (Nat.lt_succ_self (timeout - 0))
  obtain ⟨outcome, same, polled⟩ := run_of_heads (LookedInVain sees timeout)
    (fun ret => ∃ outcome, ret = iwlPollBit outcome ∧ Polled sees timeout outcome) entered
    (fun t next here turn => (pollTurn_again here turn).1) (fun t ret here turn => pollTurn_leave here turn) ran
  exact ⟨_, outcome, same ▸ ran, polled⟩

/-! ### A call that meets no failure -/

/-- What precedes the loop goes well: the signature is the one of the NVM's type, each poll sees its condition,
after whatever time, and the OTP's chain leads to an image. -/
structure GoodStart (dev : EepromDevice) (call : EepromCall) (nvmIsOtp : Bool) (start reads : Nat) : Prop where
  outputs : call.outputs = true
  allocated : call.allocated = true
  nvm : iwlNvmIsOtp dev = .ok nvmIsOtp
  signature : ∃ ret, iwlEepromVerifySignature dev nvmIsOtp = .ok ret
  semaphore : (dev.semaphore 0).isSome
  clock : nvmIsOtp = true → dev.clock.isSome
  chain : if nvmIsOtp && !call.shadowRamSupport then iwlFindOtpImage dev call = .ok (start, reads)
    else start = 0 ∧ reads = 0

/-- And so do the loop's reads: one for each word of the image, or without end if no address ends the loop. -/
structure GoodCall (dev : EepromDevice) (call : EepromCall) (nvmIsOtp : Bool) (start reads : Nat) : Prop
    extends GoodStart dev call nvmIsOtp start reads where
  words : ∀ n, (start + call.eepromSize ≤ 65534 → n < (call.eepromSize + 1) / 2) →
    dev.fails nvmIsOtp (reads + n) = false

/-- **What a call should return**: 0 if it meets no failure, and 0 or a negative value in every case. -/
structure SuccessRight (dev : EepromDevice) (call : EepromCall) : Prop where
  succeeds : ∀ nvmIsOtp start reads, GoodCall dev call nvmIsOtp start reads →
    ∃ fuel result, iwlReadEeprom fuel dev call = some result ∧ result.ret = .ok 0
  negative : ∀ fuel result, iwlReadEeprom fuel dev call = some result →
    result.ret = .ok 0 ∨ ∃ e, result.ret = .error e

/-- The call waits for the clock of the OTP, and the clock is not ready at once. -/
structure LateClock (dev : EepromDevice) (call : EepromCall) : Prop where
  outputs : call.outputs = true
  allocated : call.allocated = true
  nvm : iwlNvmIsOtp dev = .ok true
  signature : ∃ ret, iwlEepromVerifySignature dev true = .ok ret
  semaphore : ∃ t, iwlEepromAcquireSemaphore dev = .ok t
  clock : ∃ t, dev.clock = some (t + 1)

variable {dev : EepromDevice} {call : EepromCall} {nvmIsOtp : Bool} {start reads : Nat}

/-! ### Before the loop -/

theorem acquire_first {t : Nat} (first : dev.semaphore 0 = some t) : iwlEepromAcquireSemaphore dev = .ok t := by
  show acquireFrom dev (999 + 1) 0 (.ok 0) = .ok t
  rw [acquireFrom, first]
  rfl

/-- **A late clock** is taken for a failure. -/
theorem start_of_late (late : LateClock dev call) : ∃ t,
    eepromStart dev call = .error (.errUnlock (.ok (t + 1)) false [.acquired]) := by
  obtain ⟨v, signature⟩ := late.signature
  obtain ⟨s, semaphore⟩ := late.semaphore
  obtain ⟨t, clock⟩ := late.clock
  refine ⟨t, ?_⟩
  simp [eepromStart, late.outputs, late.allocated, late.nvm, signature, semaphore, iwlInitOtpAccess, iwlPollBit,
    clock]

/-- **A good start** with the clock ready at once gets to the loop. -/
theorem start_of_good (good : GoodStart dev call nvmIsOtp start reads) (prompt : ¬ LateClock dev call) :
    eepromStart dev call = .ok (nvmIsOtp, start, reads) := by
  obtain ⟨v, signature⟩ := good.signature
  obtain ⟨s, first⟩ := Option.isSome_iff_exists.mp good.semaphore
  have chain := good.chain
  cases nvmIsOtp with
  | false =>
    obtain ⟨rfl, rfl⟩ := chain
    simp [eepromStart, good.outputs, good.allocated, good.nvm, signature, acquire_first first]
  | true =>
    have ready : dev.clock = some 0 := by
      obtain ⟨t, clock⟩ := Option.isSome_iff_exists.mp (good.clock rfl)
      cases t with
      | zero => exact clock
      | succ t =>
        exact absurd ⟨good.outputs, good.allocated, good.nvm, good.signature, ⟨s, acquire_first first⟩, t, clock⟩ prompt
    cases shadow : call.shadowRamSupport with
    | true =>
      rw [shadow] at chain
      obtain ⟨rfl, rfl⟩ := chain
      simp [eepromStart, good.outputs, good.allocated, good.nvm, signature, acquire_first first, iwlInitOtpAccess,
        iwlPollBit, ready, shadow]
    | false =>
      rw [shadow] at chain
      simp only [Bool.not_false, Bool.and_self, if_true] at chain
      simp [eepromStart, good.outputs, good.allocated, good.nvm, signature, acquire_first first, iwlInitOtpAccess,
        iwlPollBit, ready, shadow, chain]

/-- **Every other return before the loop is negative.** -/
theorem start_negative (prompt : ¬ LateClock dev call) {result : EepromRead}
    (returns : eepromStart dev call = .error result) : ∃ e, result.ret = .error e := by
  by_cases outputs : call.outputs = true
  case neg =>
    simp only [eepromStart, Bool.not_eq_true _ ▸ outputs, Bool.not_false, if_true] at returns
    exact ⟨_, by rw [← Except.error.inj returns]; rfl⟩
  by_cases allocated : call.allocated = true
  case neg =>
    cases nvm : iwlNvmIsOtp dev with
    | error e =>
      simp only [eepromStart, outputs, nvm, Bool.not_true, Bool.false_eq_true, if_false] at returns
      exact ⟨e, by rw [← Except.error.inj returns]; rfl⟩
    | ok nvmIsOtp =>
      simp only [eepromStart, outputs, nvm, Bool.not_eq_true _ ▸ allocated, Bool.not_true, Bool.not_false,
        Bool.false_eq_true, if_false, if_true] at returns
      exact ⟨_, by rw [← Except.error.inj returns]; rfl⟩
  simp only [eepromStart, outputs, allocated, Bool.not_true, Bool.false_eq_true, if_false] at returns
  cases nvm : iwlNvmIsOtp dev with
  | error e =>
    rw [nvm] at returns
    cases returns
    exact ⟨e, rfl⟩
  | ok nvmIsOtp =>
    rw [nvm] at returns
    dsimp only at returns
    cases signature : iwlEepromVerifySignature dev nvmIsOtp with
    | error e =>
      rw [signature] at returns
      cases returns
      exact ⟨e, rfl⟩
    | ok v =>
      cases semaphore : iwlEepromAcquireSemaphore dev with
      | error e =>
        rw [signature, semaphore] at returns
        cases returns
        exact ⟨e, rfl⟩
      | ok s =>
        rw [signature, semaphore] at returns
        cases nvmIsOtp with
        | false => cases returns
        | true =>
          cases clock : dev.clock with
          | none =>
            rw [iwlInitOtpAccess, clock] at returns
            cases returns
            exact ⟨_, rfl⟩
          | some t =>
            rw [iwlInitOtpAccess, clock] at returns
            cases t with
            | succ t => exact absurd ⟨outputs, allocated, nvm, ⟨v, signature⟩, ⟨s, semaphore⟩, t, clock⟩ prompt
            | zero =>
              cases shadow : call.shadowRamSupport with
              | true =>
                rw [shadow] at returns
                cases returns
              | false =>
                rw [shadow] at returns
                cases chain : iwlFindOtpImage dev call with
                | error e =>
                  rw [chain] at returns
                  cases returns
                  exact ⟨e, rfl⟩
                | ok found =>
                  rw [chain] at returns
                  cases returns

/-! ### The loop -/

theorem even_of_good (good : GoodStart dev call nvmIsOtp start reads) :
    (nvmIsOtp = false → start = 0) ∧ start % 2 = 0 ∧ start < 65536 := by
  have chain := good.chain
  split at chain
  next walked =>
    have address := findOtpImage_even chain
    refine ⟨fun eeprom => ?_, address⟩
    rw [eeprom] at walked
    cases walked
  next => exact ⟨fun _ => chain.1, by rw [chain.1], by rw [chain.1]; decide⟩

/-- **An image that ends in time**: the loop ends when its words have been read. -/
theorem loop_succeeds (small : call.eepromSize < 65536) (good : GoodCall dev call nvmIsOtp start reads)
    (fits : start + call.eepromSize ≤ 65534) : ∃ fuel now,
    run (loopTurn dev call.eepromSize nvmIsOtp start) fuel ⟨start, 0, reads, call.buffer, false⟩ =
      some (.ok 0, now) := by
  obtain ⟨base, even, below⟩ := even_of_good good.toGoodStart
  have room : call.buffer.length = call.eepromSize / 2 := by simp [EepromCall.buffer]
  have inside : ∀ i < (call.eepromSize + 1) / 2, (start + 2 * i) % 65536 < start + call.eepromSize := by
    intro i before
    omega
  obtain ⟨now, progress, same⟩ := run_words base (by omega) (progress_zero below call.buffer) (by omega) inside
    fun i before => good.words i fun _ => before
  have ends : ¬ (start + 2 * ((call.eepromSize + 1) / 2)) % 65536 < start + call.eepromSize := by omega
  have turn := turn_ends base progress ends
  exact ⟨1 + (call.eepromSize + 1) / 2, now, by rw [same, run_leave turn]⟩

/-- **Any other image**: every even `u16` is below the loop's bound, and it never ends. -/
theorem loop_endless (base : nvmIsOtp = false → start = 0) (wraps : 65534 < start + call.eepromSize)
    (ok : ∀ n, dev.fails nvmIsOtp (reads + n) = false) {st : WordLoop} (even : st.addr % 2 = 0)
    (below : st.addr < 65536) (later : reads ≤ st.reads) (fuel : Nat) :
    run (loopTurn dev call.eepromSize nvmIsOtp start) fuel st = none := by
  induction fuel generalizing st with
  | zero => rfl
  | succ fuel ih =>
    have read : dev.fails nvmIsOtp st.reads = false := by
      have here := ok (st.reads - reads)
      rwa [Nat.add_sub_of_le later] at here
    have turn : loopTurn dev call.eepromSize nvmIsOtp start st =
        .again (st.store (wordIndex nvmIsOtp st) (dev.answer st.addr)).next := by
      rw [loopTurn_eq base, wordTurn, if_pos (by omega), readWord_ok read]
    rw [run_again turn]
    refine ih ?_ (Nat.mod_lt _ (by decide)) (Nat.le_succ_of_le later)
    show (st.addr + 2) % 65536 % 2 = 0
    omega

/-- What follows the loop returns 0 or a negative value. -/
theorem finish_negative (sz : Nat) (events : List SemaphoreEvent) (out : Ret × WordLoop) :
    (eepromFinish sz events out).ret = .ok 0 ∨ ∃ e, (eepromFinish sz events out).ret = .error e := by
  obtain ⟨ret, st⟩ := out
  cases ret with
  | ok t => exact .inl rfl
  | error e => exact .inr ⟨e, rfl⟩

/-! ### The main result -/

/-- **When the values of `iwl_read_eeprom` are right**: a clock that is waited for is ready at once, or never; and
where nothing fails, an even address is left for the end of the image. -/
theorem successRight_iff (dev : EepromDevice) (call : EepromCall) (small : call.eepromSize < 65536) :
    SuccessRight dev call ↔ ¬ LateClock dev call ∧
      ∀ nvmIsOtp start reads, GoodCall dev call nvmIsOtp start reads → start + call.eepromSize ≤ 65534 := by
  constructor
  · intro right
    have prompt : ¬ LateClock dev call := by
      intro late
      obtain ⟨t, returns⟩ := start_of_late late
      have ran : iwlReadEeprom 0 dev call = some (.errUnlock (.ok (t + 1)) false [.acquired]) := by
        rw [iwlReadEeprom, returns]
      rcases right.negative 0 _ ran with zero | ⟨e, negative⟩
      · exact absurd (Except.ok.inj zero) (Nat.succ_ne_zero t)
      · cases negative
    refine ⟨prompt, fun nvmIsOtp start reads good => Nat.le_of_not_lt fun wraps => ?_⟩
    obtain ⟨base, even, below⟩ := even_of_good good.toGoodStart
    obtain ⟨fuel, result, ran, -⟩ := right.succeeds nvmIsOtp start reads good
    have endless : run (loopTurn dev call.eepromSize nvmIsOtp start) fuel ⟨start, 0, reads, call.buffer, false⟩ =
        none := loop_endless base wraps (fun n => good.words n fun fits => by omega) even below (Nat.le_refl _) fuel
    rw [iwlReadEeprom, start_of_good good.toGoodStart prompt] at ran
    dsimp only at ran
    rw [endless] at ran
    cases ran
  · rintro ⟨prompt, fits⟩
    refine ⟨fun nvmIsOtp start reads good => ?_, fun fuel result ran => ?_⟩
    · obtain ⟨fuel, now, ran⟩ := loop_succeeds small good (fits nvmIsOtp start reads good)
      refine ⟨fuel, eepromFinish call.eepromSize [.acquired] (.ok 0, now), ?_, rfl⟩
      rw [iwlReadEeprom, start_of_good good.toGoodStart prompt]
      dsimp only
      rw [ran]
      rfl
    · rw [iwlReadEeprom] at ran
      cases started : eepromStart dev call with
      | error other =>
        rw [started] at ran
        obtain rfl := Option.some.inj ran
        exact .inr (start_negative prompt started)
      | ok loop =>
        rw [started] at ran
        obtain ⟨out, -, rfl⟩ := Option.map_eq_some_iff.mp ran
        exact finish_negative call.eepromSize [.acquired] out

theorem successRight_iff_early : SuccessRight earlyImage call1000 ↔ ¬ LateClock earlyImage call1000 ∧
    ∀ nvmIsOtp start reads, GoodCall earlyImage call1000 nvmIsOtp start reads →
      start + call1000.eepromSize ≤ 65534 :=
  successRight_iff earlyImage call1000 (by decide)

/-- The same device with a clock that takes 10 microseconds. -/
def slowClock : EepromDevice := { earlyImage with clock := some 10 }

/-- **A clock that is ready in time, a call that fails**: nothing fails, and the value returned is 10. -/
theorem slowClock_fails : GoodStart slowClock call1000 true 514 4 ∧ (∀ n, slowClock.fails true n = false) ∧
    (∀ fuel, ∃ result, iwlReadEeprom fuel slowClock call1000 = some result ∧ result.ret = .ok 10) ∧
    ¬ SuccessRight slowClock call1000 := by
  have returns : eepromStart slowClock call1000 = .error (.errUnlock (.ok 10) false [.acquired]) := by rfl
  have ran : ∀ fuel, ∃ result, iwlReadEeprom fuel slowClock call1000 = some result ∧ result.ret = .ok 10 :=
    fun fuel => ⟨_, by rw [iwlReadEeprom, returns], rfl⟩
  have reads (n : Nat) : slowClock.fails true n = false := by
    simp [EepromDevice.fails, slowClock, earlyImage, lateImage]
  refine ⟨⟨rfl, rfl, rfl, ⟨0, rfl⟩, rfl, fun _ => rfl, (by rfl : iwlFindOtpImage slowClock call1000 = .ok (514, 4))⟩,
    reads, ran, fun right => ?_⟩
  obtain ⟨result, ran, ten⟩ := ran 0
  rcases right.negative 0 result ran with zero | ⟨e, negative⟩
  · exact absurd (Except.ok.inj (ten.symm.trans zero)) (by decide)
  · cases ten.symm.trans negative

end IntelWifi.Nvm
