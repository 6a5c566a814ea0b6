/-
**`iwl_read_eeprom`.**

The words are read one by one through `CSR_EEPROM_REG`, at `u16` byte addresses, into a buffer of the
configured size. The EEPROM and the shadow RAM are read from address 0; without shadow RAM the image in
the OTP begins where `iwl_find_otp_image` says, and the loop's bound is that address plus the size, an
`int`.

The register holds fourteen bits of a word's address. A poll and an ECC status may be other ones for each
word; the contents of the device do not change meanwhile.

* `wordLoop_ends`, `wordLoop_outside`: what the loop does, by its bound and its reads.
* `readEeprom_iff`: when `iwl_read_eeprom` ends, keeps to its buffer and returns the words of the image.
-/

import IntelWifi.Lib.Loop
import Mathlib.Data.Nat.Find

namespace IntelWifi.Nvm

open Loop

/-! ### The device and a call -/

inductive Errno where
  | inval | io | nomem | noent | timedout
  deriving DecidableEq, Repr

/-- A return value of the driver: `ok t` is `t`, `error e` is `-e`. -/
abbrev Ret := Except Errno Nat

/-- What the device answers to one call. -/
structure EepromDevice where
  hwRev : UInt32
  /-- `CSR_EEPROM_GP`. -/
  eepromGp : UInt32
  /-- `CSR_OTP_GP_REG`, as `iwl_nvm_is_otp` finds it. -/
  otpGp : UInt32
  /-- The poll for the semaphore, by attempt: after how long it succeeds. -/
  semaphore : Nat → Option Nat
  /-- The poll for the MAC clock. -/
  clock : Option Nat
  /-- The poll for a word, by the number of words read before. -/
  valid : Nat → Option Nat
  /-- `CSR_OTP_GP_REG` after a word, by the number of words read before. -/
  otpStatus : Nat → UInt32
  /-- The words, by byte address. -/
  word : Nat → UInt16

/-- A call: its configuration and what its caller and the allocator give. -/
structure EepromCall where
  /-- The two output pointers are not `NULL`. -/
  outputs : Bool
  /-- `iwh_malloc` succeeds. -/
  allocated : Bool
  /-- What the new memory holds. -/
  fresh : Nat → UInt16
  /-- `u16`. -/
  eepromSize : Nat
  /-- `u8`. -/
  maxLlItems : Nat
  shadowRamSupport : Bool

inductive SemaphoreEvent where
  | acquired | released
  deriving DecidableEq, Repr

/-- What a call has done when it returns. -/
structure EepromRead where
  ret : Ret
  /-- `*eeprom` and `*eeprom_size`, where they are set. -/
  eeprom : Option (List UInt16)
  eepromSize : Option Nat
  /-- A word was written outside the buffer. -/
  outside : Bool
  freed : Bool
  semaphore : List SemaphoreEvent

/-! ### Before the loop -/

/-- `iwl_poll_bit`. -/
def iwlPollBit : Option Nat → Ret
  | some t => .ok t
  | none => .error .timedout

/-- The attempts of `iwl_eeprom_acquire_semaphore` from the `count`-th, `left` of them. -/
def acquireFrom (dev : EepromDevice) : (left count : Nat) → Ret → Ret
  | 0, _, ret => ret
  | left + 1, count, _ =>
    match iwlPollBit (dev.semaphore count) with
    | .ok t => .ok t
    | .error e => acquireFrom dev left (count + 1) (.error e)

/-- `iwl_eeprom_acquire_semaphore`, with `EEPROM_SEM_RETRY_LIMIT` attempts. -/
def iwlEepromAcquireSemaphore (dev : EepromDevice) : Ret := acquireFrom dev 1000 0 (.ok 0)

/-- `iwl_eeprom_verify_signature`. -/
def iwlEepromVerifySignature (dev : EepromDevice) (nvmIsOtp : Bool) : Ret :=
  match (dev.eepromGp &&& 0x7).toNat with
  -- `CSR_EEPROM_GP_BAD_SIG_EEP_GOOD_SIG_OTP`
  | 1 => if nvmIsOtp then .ok 0 else .error .noent
  -- `CSR_EEPROM_GP_GOOD_SIG_EEP_LESS_THAN_4K`, `_MORE_THAN_4K`
  | 2 | 4 => if nvmIsOtp then .error .noent else .ok 0
  | _ => .error .noent

/-- `iwl_nvm_is_otp`. -/
def iwlNvmIsOtp (dev : EepromDevice) : Except Errno Bool :=
  match (dev.hwRev &&& 0xFFFF0).toNat with
  -- `CSR_HW_REV_TYPE_NONE`
  | 0x1F0 => .error .io
  -- 5300, 5350, 5100 and 5150
  | 0x20 | 0x30 | 0x50 | 0x40 => .ok false
  -- `CSR_OTP_GP_REG_DEVICE_SELECT`
  | _ => .ok (dev.otpGp &&& 0x10000 != 0)

/-- `iwl_init_otp_access` gives the outcome of its poll. -/
def iwlInitOtpAccess (dev : EepromDevice) : Ret := iwlPollBit dev.clock

/-! ### Words -/

/-- What `CSR_EEPROM_REG` is given for an address: `CSR_EEPROM_REG_MSK_ADDR & (addr << 1)`. -/
def eepromReg (addr : Nat) : Nat := 0xFFFC &&& addr <<< 1

/-- The word that the device puts into the upper half of `CSR_EEPROM_REG`. -/
def EepromDevice.answer (dev : EepromDevice) (addr : Nat) : UInt16 := dev.word (eepromReg addr / 2)

/-- A word of the EEPROM, in the body of the loop of `iwl_read_eeprom`. -/
def readEepromWord (dev : EepromDevice) (reads addr : Nat) : Except Errno UInt16 := do
  let _ ← iwlPollBit (dev.valid reads)
  .ok (dev.answer addr)

/-- `iwl_read_otp_word`. A correctable ECC error is acknowledged and the word taken. -/
def iwlReadOtpWord (dev : EepromDevice) (reads addr : Nat) : Except Errno UInt16 := do
  let _ ← iwlPollBit (dev.valid reads)
  -- `CSR_OTP_GP_REG_ECC_UNCORR_STATUS_MSK`
  if dev.otpStatus reads &&& 0x200000 != 0 then .error .inval
  else .ok (dev.answer addr)

/-- `iwl_is_otp_empty`. -/
def iwlIsOtpEmpty (dev : EepromDevice) : Bool :=
  match iwlReadOtpWord dev 0 0 with
  | .ok link => link == 0
  | .error _ => true

/-- The walk of `iwl_find_otp_image` along the links, `left` items before `max_ll_items`. It gives the
address of the image and how many words were read. -/
def walkLinks (dev : EepromDevice) : (left next reads : Nat) → UInt16 → Except Errno (Nat × Nat)
  | left, next, reads, link =>
    let valid := next
    let next := link.toNat * 2 % 65536
    match iwlReadOtpWord dev reads next with
    | .error _ => .error .inval
    | .ok link =>
      -- the end of the list: the image begins after the link of the block before
      if link = 0 then .ok ((valid + 2) % 65536, reads + 1)
      else
        match left with
        | 0 => .error .inval
        | left + 1 => walkLinks dev left next (reads + 1) link

/-- `iwl_find_otp_image`. -/
def iwlFindOtpImage (dev : EepromDevice) (call : EepromCall) : Except Errno (Nat × Nat) :=
  if iwlIsOtpEmpty dev then .error .inval
  else walkLinks dev call.maxLlItems 0 1 0

/-! ### The loop -/

/-- The variables of a loop over the words, and its buffer. -/
structure WordLoop where
  /-- `u16`. -/
  addr : Nat
  /-- `u16`; the loop over the EEPROM does not use it. -/
  cacheAddr : Nat
  reads : Nat
  buffer : List UInt16
  outside : Bool

/-- `e[index] = value`. -/
def WordLoop.store (st : WordLoop) (index : Nat) (value : UInt16) : WordLoop :=
  { st with
    buffer := st.buffer.set index value
    outside := st.outside || decide (st.buffer.length ≤ index) }

/-- The end of a turn. -/
def WordLoop.next (st : WordLoop) : WordLoop :=
  { st with
    addr := (st.addr + 2) % 65536
    cacheAddr := (st.cacheAddr + 2) % 65536
    reads := st.reads + 1 }

/-- A turn of a loop over the words: its bound, how it reads a word and where it puts it. -/
def wordTurn (bound : Nat) (read : Nat → Nat → Except Errno UInt16) (index : WordLoop → Nat)
    (st : WordLoop) : Turn WordLoop (Ret × WordLoop) :=
  if st.addr < bound then
    match read st.reads st.addr with
    | .error e => .leave (.error e, st)
    | .ok value => .again (st.store (index st) value).next
  else .leave (.ok 0, st)

/-- The loop over the OTP's words. -/
def otpTurn (dev : EepromDevice) (validblockaddr sz : Nat) : WordLoop → Turn WordLoop (Ret × WordLoop) :=
  wordTurn (validblockaddr + sz) (iwlReadOtpWord dev) fun st => st.cacheAddr / 2

/-- The loop over the EEPROM's words. -/
def eepromTurn (dev : EepromDevice) (sz : Nat) : WordLoop → Turn WordLoop (Ret × WordLoop) :=
  wordTurn sz (readEepromWord dev) fun st => st.addr / 2

/-! ### `iwl_read_eeprom` -/

/-- A return before there is a buffer. -/
def EepromRead.refused (e : Errno) : EepromRead := ⟨.error e, none, none, false, false, []⟩

/-- `err_free`, after these events. -/
def EepromRead.errFree (ret : Ret) (outside : Bool) (events : List SemaphoreEvent) : EepromRead :=
  ⟨ret, none, none, outside, true, events⟩

/-- `err_unlock`, after these events. -/
def EepromRead.errUnlock (ret : Ret) (outside : Bool) (events : List SemaphoreEvent) : EepromRead :=
  .errFree ret outside (events ++ [.released])

/-- The code before the loops: a return, or, with the semaphore acquired, whether there is an OTP, where
the image begins and how many words were read. -/
def eepromStart (dev : EepromDevice) (call : EepromCall) : Except EepromRead (Bool × Nat × Nat) :=
  if !call.outputs then .error (.refused .inval)
  else
    match iwlNvmIsOtp dev with
    | .error e => .error (.refused e)
    | .ok nvmIsOtp =>
      if !call.allocated then .error (.refused .nomem)
      else
        match iwlEepromVerifySignature dev nvmIsOtp, iwlEepromAcquireSemaphore dev with
        | .error e, _ => .error (.errFree (.error e) false [])
        | .ok _, .error e => .error (.errFree (.error e) false [])
        | .ok _, .ok _ =>
          if nvmIsOtp then
            match iwlInitOtpAccess dev with
            -- `if (ret)`: a poll that took time counts as a failure here
            | .ok (t + 1) => .error (.errUnlock (.ok (t + 1)) false [.acquired])
            | .error e => .error (.errUnlock (.error e) false [.acquired])
            | .ok 0 =>
              if call.shadowRamSupport then .ok (true, 0, 0)
              else
                match iwlFindOtpImage dev call with
                | .error e => .error (.errUnlock (.error e) false [.acquired])
                | .ok (validblockaddr, reads) => .ok (true, validblockaddr, reads)
          else .ok (false, 0, 0)

/-- What follows the loop. -/
def eepromFinish (sz : Nat) (events : List SemaphoreEvent) : Ret × WordLoop → EepromRead
  | (.ok _, st) => ⟨.ok 0, some st.buffer, some sz, st.outside, false, events ++ [.released]⟩
  | (.error e, st) => .errUnlock (.error e) st.outside events

/-- The buffer that `iwh_malloc` gives. -/
def EepromCall.buffer (call : EepromCall) : List UInt16 := (List.range (call.eepromSize / 2)).map call.fresh

/-- The loop's turn. -/
def loopTurn (dev : EepromDevice) (sz : Nat) (nvmIsOtp : Bool) (start : Nat) :
    WordLoop → Turn WordLoop (Ret × WordLoop) :=
  if nvmIsOtp then otpTurn dev start sz else eepromTurn dev sz

/-- `iwl_read_eeprom`, with at most `fuel` turns of its loop. -/
def iwlReadEeprom (fuel : Nat) (dev : EepromDevice) (call : EepromCall) : Option EepromRead :=
  match eepromStart dev call with
  | .error result => some result
  | .ok (nvmIsOtp, start, reads) =>
    (run (loopTurn dev call.eepromSize nvmIsOtp start) fuel ⟨start, 0, reads, call.buffer, false⟩).map
      (eepromFinish call.eepromSize [.acquired])

/-! ### What it should do -/

/-- Where the image begins: at 0, or in the OTP where `iwl_find_otp_image` says. -/
def imageStart (dev : EepromDevice) (call : EepromCall) : Nat :=
  if iwlNvmIsOtp dev = .ok true ∧ ¬ call.shadowRamSupport then
    match iwlFindOtpImage dev call with
    | .ok (validblockaddr, _) => validblockaddr
    | .error _ => 0
  else 0

/-- The words of the image. -/
def imageWords (dev : EepromDevice) (start count : Nat) : List UInt16 :=
  (List.range count).map fun k => dev.word (start + 2 * k)

/-- What a call that returns has done. -/
structure EepromRead.Right (dev : EepromDevice) (call : EepromCall) (result : EepromRead) : Prop where
  inside : result.outside = false
  size : result.ret = .ok 0 → result.eepromSize = some call.eepromSize
  words : result.ret = .ok 0 →
    result.eeprom = some (imageWords dev (imageStart dev call) (call.eepromSize / 2))
  semaphore : result.semaphore = [] ∨ result.semaphore = [.acquired, .released]

/-- The call ends, and has done what it should. -/
def ReadsEeprom (dev : EepromDevice) (call : EepromCall) : Prop :=
  ∃ fuel result, iwlReadEeprom fuel dev call = some result ∧ result.Right dev call

/-- The `n`-th word is not read: its poll times out, or the OTP has an ECC error that it cannot correct. -/
def EepromDevice.fails (dev : EepromDevice) (nvmIsOtp : Bool) (n : Nat) : Bool :=
  (dev.valid n).isNone || (nvmIsOtp && dev.otpStatus n &&& 0x200000 != 0)

/-- One of `count` words from the `n`-th is not read. -/
def EepromDevice.someFails (dev : EepromDevice) (nvmIsOtp : Bool) (n count : Nat) : Bool :=
  (List.range count).any fun k => dev.fails nvmIsOtp (n + k)

/-- The words of the image, and what the device answers with fourteen bits of their addresses, agree. -/
def EepromDevice.sameWords (dev : EepromDevice) (start count : Nat) : Bool :=
  (List.range count).all fun k => dev.word ((start + 2 * k) % 32768) == dev.word (start + 2 * k)

/-- When the loop from `start` does what it should: its end is an address, and a read fails or the image
has the words that are read; or its end is none, and a read fails before the buffer is full and one word
more is read. -/
def loopRight (dev : EepromDevice) (sz : Nat) (nvmIsOtp : Bool) (start reads : Nat) : Prop :=
  if start + sz < 65536 then
    dev.someFails nvmIsOtp reads (sz / 2) = true ∨ dev.sameWords start (sz / 2) = true
  else dev.someFails nvmIsOtp reads (sz / 2 + 1) = true

/-! ### Words and their addresses -/

variable {dev : EepromDevice} {call : EepromCall} {nvmIsOtp : Bool} {start sz : Nat}

/-- `CSR_EEPROM_REG` holds fourteen bits of a word's address. -/
theorem eepromReg_even (k : Nat) : eepromReg (2 * k) = 2 * (2 * k % 32768) := by
  have shifted : eepromReg (2 * k) = (2 ^ 14 - 1 &&& k) <<< 2 := by
    rw [Nat.shiftLeft_and_distrib, eepromReg, show (2 * k) <<< 1 = k <<< 2 by
      rw [Nat.shiftLeft_eq, Nat.shiftLeft_eq]; omega]
    rfl
  rw [shifted, Nat.and_comm, Nat.and_two_pow_sub_one_eq_mod, Nat.shiftLeft_eq]
  omega

theorem answer_even (dev : EepromDevice) (k : Nat) : dev.answer (2 * k) = dev.word (2 * k % 32768) := by
  rw [EepromDevice.answer, eepromReg_even, Nat.mul_div_cancel_left _ (by omega)]

/-- How the loop reads a word. -/
def readWord (dev : EepromDevice) (nvmIsOtp : Bool) : Nat → Nat → Except Errno UInt16 :=
  if nvmIsOtp then iwlReadOtpWord dev else readEepromWord dev

theorem readWord_ok {n : Nat} (ok : dev.fails nvmIsOtp n = false) (addr : Nat) :
    readWord dev nvmIsOtp n addr = .ok (dev.answer addr) := by
  simp only [EepromDevice.fails, Bool.or_eq_false_iff] at ok
  obtain ⟨polled, status⟩ := ok
  cases valid : dev.valid n with
  | none => simp [valid] at polled
  | some t =>
    cases nvmIsOtp with
    | false => simp [readWord, readEepromWord, iwlPollBit, valid, bind, Except.bind]
    | true => simp_all [readWord, iwlReadOtpWord, iwlPollBit, bind, Except.bind]

theorem readWord_fails {n : Nat} (fails : dev.fails nvmIsOtp n = true) (addr : Nat) :
    ∃ e, readWord dev nvmIsOtp n addr = .error e := by
  simp only [EepromDevice.fails, Bool.or_eq_true, Bool.and_eq_true, Option.isNone_iff_eq_none] at fails
  cases valid : dev.valid n with
  | none =>
    refine ⟨.timedout, ?_⟩
    cases nvmIsOtp <;> simp [readWord, readEepromWord, iwlReadOtpWord, iwlPollBit, valid, bind, Except.bind]
  | some t =>
    rw [valid] at fails
    obtain ⟨rfl, status⟩ := fails.resolve_left (by simp)
    refine ⟨.inval, ?_⟩
    simp [readWord, iwlReadOtpWord, iwlPollBit, valid, bind, Except.bind]
    simpa using status

/-! ### One turn -/

/-- The loops differ in their buffer's index only: the EEPROM is read from 0. -/
def wordIndex (nvmIsOtp : Bool) (st : WordLoop) : Nat := (if nvmIsOtp then st.cacheAddr else st.addr) / 2

theorem loopTurn_eq (base : nvmIsOtp = false → start = 0) :
    loopTurn dev sz nvmIsOtp start =
      wordTurn (start + sz) (readWord dev nvmIsOtp) (wordIndex nvmIsOtp) := by
  cases nvmIsOtp with
  | false => rw [base rfl, Nat.zero_add]; rfl
  | true => rfl

/-- After `k` words. -/
structure Progress (dev : EepromDevice) (start before size k : Nat) (st : WordLoop) : Prop where
  addr : st.addr = (start + 2 * k) % 65536
  cacheAddr : st.cacheAddr = 2 * k % 65536
  reads : st.reads = before + k
  room : st.buffer.length = size
  outside : st.outside = decide (size < k)
  words : ∀ i < k, i < size → st.buffer[i]? = some (dev.answer ((start + 2 * i) % 65536))

variable {before size k : Nat} {st : WordLoop}

/-- A word that is read. The buffer has no more words than `u16` addresses. -/
theorem turn_again (base : nvmIsOtp = false → start = 0) (small : size < 32768)
    (progress : Progress dev start before size k st) (inside : (start + 2 * k) % 65536 < start + sz)
    (left : k ≤ size) (ok : dev.fails nvmIsOtp (before + k) = false) :
    ∃ next, loopTurn dev sz nvmIsOtp start st = .again next ∧
      Progress dev start before size (k + 1) next := by
  have index : wordIndex nvmIsOtp st = k := by
    have even : 2 * k % 65536 = 2 * k := Nat.mod_eq_of_lt (by omega)
    cases nvmIsOtp with
    | false => rw [wordIndex, if_neg Bool.false_ne_true, progress.addr, base rfl, Nat.zero_add, even]; omega
    | true => rw [wordIndex, if_pos rfl, progress.cacheAddr, even]; omega
  refine ⟨(st.store k (dev.answer st.addr)).next, ?_, ?_⟩
  · rw [loopTurn_eq base, wordTurn, if_pos (by rwa [progress.addr]), progress.reads, readWord_ok ok, index]
  · constructor
    · show (st.addr + 2) % 65536 = _
      rw [progress.addr]; omega
    · show (st.cacheAddr + 2) % 65536 = _
      rw [progress.cacheAddr]; omega
    · show st.reads + 1 = _
      rw [progress.reads]; omega
    · exact (List.length_set ..).trans progress.room
    · show (st.outside || decide (st.buffer.length ≤ k)) = _
      rw [progress.outside, progress.room, ← Bool.decide_or]
      exact decide_eq_decide.mpr (by omega)
    · intro i below within
      show (st.buffer.set k (dev.answer st.addr))[i]? = _
      rw [List.getElem?_set, progress.room, progress.addr]
      by_cases same : k = i
      · rw [if_pos same, if_pos (same ▸ within), same]
      · rw [if_neg same]
        exact progress.words i (by omega) within

/-- A word that is not read. -/
theorem turn_fails (base : nvmIsOtp = false → start = 0) (progress : Progress dev start before size k st)
    (inside : (start + 2 * k) % 65536 < start + sz) (fails : dev.fails nvmIsOtp (before + k) = true) :
    ∃ e, loopTurn dev sz nvmIsOtp start st = .leave (.error e, st) := by
  obtain ⟨e, same⟩ := readWord_fails fails st.addr
  exact ⟨e, by rw [loopTurn_eq base, wordTurn, if_pos (by rwa [progress.addr]), progress.reads, same]⟩

/-- The loop's end. -/
theorem turn_ends (base : nvmIsOtp = false → start = 0) (progress : Progress dev start before size k st)
    (ends : ¬ (start + 2 * k) % 65536 < start + sz) :
    loopTurn dev sz nvmIsOtp start st = .leave (.ok 0, st) := by
  rw [loopTurn_eq base, wordTurn, if_neg (by rwa [progress.addr])]

/-- **A write outside the buffer is not taken back.** -/
theorem outside_of_run {fuel : Nat} {out : Ret × WordLoop} (outside : st.outside = true)
    (ran : run (loopTurn dev sz nvmIsOtp start) fuel st = some out) : out.2.outside = true := by
  have general : ∃ bound index, loopTurn dev sz nvmIsOtp start = wordTurn bound (readWord dev nvmIsOtp) index := by
    cases nvmIsOtp with
    | false => exact ⟨_, _, rfl⟩
    | true => exact ⟨_, _, rfl⟩
  obtain ⟨bound, index, same⟩ := general
  rw [same] at ran
  refine run_of_heads (fun st => st.outside = true) (fun out => out.2.outside = true) outside
    (fun st next was turn => ?_) (fun st out was turn => ?_) ran
  · unfold wordTurn at turn
    split at turn
    · split at turn
      · cases turn
      · cases turn
        show (st.outside || _) = true
        rw [was, Bool.true_or]
    · cases turn
  · unfold wordTurn at turn
    split at turn
    · split at turn
      · cases turn
        exact was
      · cases turn
    · cases turn
      exact was

/-! ### The loop's run -/

/-- The state in which the loop is entered. -/
theorem progress_zero (below : start < 65536) (buffer : List UInt16) :
    Progress dev start before buffer.length 0 ⟨start, 0, before, buffer, false⟩ where
  addr := (Nat.mod_eq_of_lt below).symm
  cacheAddr := rfl
  reads := rfl
  room := rfl
  outside := rfl
  words := fun _ none => absurd none (Nat.not_lt_zero _)

/-- **The run so far**: `k` words, at most one of them outside the buffer. -/
theorem run_words (base : nvmIsOtp = false → start = 0) (small : size < 32768)
    (entered : Progress dev start before size 0 st) (most : k ≤ size + 1)
    (inside : ∀ i < k, (start + 2 * i) % 65536 < start + sz)
    (ok : ∀ i < k, dev.fails nvmIsOtp (before + i) = false) :
    ∃ now, Progress dev start before size k now ∧
      ∀ fuel, run (loopTurn dev sz nvmIsOtp start) (fuel + k) st =
        run (loopTurn dev sz nvmIsOtp start) fuel now := by
  induction k with
  | zero => exact ⟨st, entered, fun _ => rfl⟩
  | succ k ih =>
    obtain ⟨now, progress, same⟩ := ih (by omega) (fun i below => inside i (by omega))
      fun i below => ok i (by omega)
    obtain ⟨next, turn, after⟩ := turn_again base small progress (inside k (by omega)) (by omega)
      (ok k (by omega))
    refine ⟨next, after, fun fuel => ?_⟩
    rw [← Nat.add_assoc, Nat.add_right_comm, same, run_again turn]

/-- The first word that is not read. -/
theorem first_fails {n count : Nat} (fails : dev.someFails nvmIsOtp n count = true) :
    ∃ k < count, (∀ i < k, dev.fails nvmIsOtp (n + i) = false) ∧ dev.fails nvmIsOtp (n + k) = true := by
  simp only [EepromDevice.someFails, List.any_eq_true, List.mem_range] at fails
  have some : ∃ k, k < count ∧ dev.fails nvmIsOtp (n + k) = true := fails
  refine ⟨Nat.find some, (Nat.find_spec some).1, fun i below => ?_, (Nat.find_spec some).2⟩
  have not := Nat.find_min some below
  have within := (Nat.find_spec some).1
  exact Bool.eq_false_iff.mpr fun is => not ⟨by omega, is⟩

theorem none_fails {n count : Nat} (not : ¬ dev.someFails nvmIsOtp n count = true) :
    ∀ i < count, dev.fails nvmIsOtp (n + i) = false := by
  intro i below
  refine Bool.eq_false_iff.mpr fun is => not ?_
  exact List.any_eq_true.mpr ⟨i, List.mem_range.mpr below, is⟩

/-- A read that fails before the buffer has been left ends the loop. -/
theorem wordLoop_fails (base : nvmIsOtp = false → start = 0) (small : size < 32768)
    (entered : Progress dev start before size 0 st) {count : Nat} (most : count ≤ size + 1)
    (inside : ∀ i < count, (start + 2 * i) % 65536 < start + sz)
    (fails : dev.someFails nvmIsOtp before count = true) :
    ∃ fuel e now, run (loopTurn dev sz nvmIsOtp start) fuel st = some (.error e, now) ∧
      now.outside = false := by
  obtain ⟨k, below, ok, is⟩ := first_fails fails
  obtain ⟨now, progress, same⟩ := run_words base small entered (by omega)
    (fun i before => inside i (by omega)) ok
  obtain ⟨e, turn⟩ := turn_fails base progress (inside k below) is
  refine ⟨1 + k, e, now, by rw [same, run_leave turn], ?_⟩
  rw [progress.outside]
  exact decide_eq_false (by omega)

/-- **The loop's end is an address**: without a failure it ends with the buffer full. -/
theorem wordLoop_ends (base : nvmIsOtp = false → start = 0) (small : size < 32768)
    (fits : start + 2 * size < 65536) (entered : Progress dev start before size 0 st)
    (ok : ∀ i < size, dev.fails nvmIsOtp (before + i) = false) :
    ∃ fuel now, run (loopTurn dev (2 * size) nvmIsOtp start) fuel st = some (.ok 0, now) ∧
      Progress dev start before size size now := by
  have inside : ∀ i < size, (start + 2 * i) % 65536 < start + 2 * size := fun i below => by omega
  obtain ⟨now, progress, same⟩ := run_words base small entered (Nat.le_succ size) inside ok
  refine ⟨1 + size, now, ?_, progress⟩
  rw [same, run_leave (turn_ends base progress (by rw [Nat.mod_eq_of_lt fits]; omega))]

/-- **The loop's end is no address**: every `u16` is below it, and a word is written outside the buffer
if the reads go on. -/
theorem wordLoop_outside (base : nvmIsOtp = false → start = 0) (small : size < 32768)
    (wraps : 65536 ≤ start + sz) (entered : Progress dev start before size 0 st)
    (ok : ∀ i < size + 1, dev.fails nvmIsOtp (before + i) = false) {fuel : Nat} {out : Ret × WordLoop}
    (ran : run (loopTurn dev sz nvmIsOtp start) fuel st = some out) : out.2.outside = true := by
  have inside : ∀ i < size + 1, (start + 2 * i) % 65536 < start + sz := fun i _ => by omega
  obtain ⟨now, progress, same⟩ := run_words base small entered (Nat.le_refl _) inside ok
  have later := run_add ran (size + 1)
  rw [same] at later
  refine outside_of_run ?_ later
  rw [progress.outside]
  exact decide_eq_true (Nat.lt_succ_self size)

/-- Nor does the loop ever end if no read fails. -/
theorem wordLoop_endless (base : nvmIsOtp = false → start = 0) (wraps : 65536 ≤ start + sz)
    (below : st.addr < 65536) (ok : ∀ n, dev.fails nvmIsOtp n = false) (fuel : Nat) :
    run (loopTurn dev sz nvmIsOtp start) fuel st = none := by
  induction fuel generalizing st with
  | zero => rfl
  | succ fuel ih =>
    have turn : loopTurn dev sz nvmIsOtp start st =
        .again (st.store (wordIndex nvmIsOtp st) (dev.answer st.addr)).next := by
      rw [loopTurn_eq base, wordTurn, if_pos (by omega), readWord_ok (ok _)]
    rw [run_again turn]
    exact ih (Nat.mod_lt _ (by omega))

/-- The buffer, when it is full. -/
theorem buffer_full {now : WordLoop} (fits : start + 2 * size < 65536)
    (progress : Progress dev start before size size now) :
    now.buffer = (List.range size).map fun k => dev.answer (start + 2 * k) := by
  apply List.ext_getElem? fun i => ?_
  by_cases within : i < size
  · rw [progress.words i within within, Nat.mod_eq_of_lt (by omega)]
    simp [within]
  · rw [List.getElem?_eq_none (by rw [progress.room]; omega), List.getElem?_eq_none (by simpa using within)]

/-- The words that are read and those of the image. -/
theorem answers_eq_iff (even : start % 2 = 0) :
    (List.range size).map (fun k => dev.answer (start + 2 * k)) = imageWords dev start size ↔
      dev.sameWords start size = true := by
  rw [imageWords, List.map_inj_left, EepromDevice.sameWords, List.all_eq_true]
  refine forall₂_congr fun k _ => ?_
  obtain ⟨half, rfl⟩ : ∃ half, start = 2 * half := ⟨start / 2, by omega⟩
  rw [← Nat.mul_add, answer_even, beq_iff_eq]

/-! ### The start -/

/-- What the walk finds: an even address. -/
theorem walkLinks_even {left next reads : Nat} {link : UInt16} {found : Nat × Nat} (even : next % 2 = 0)
    (walked : walkLinks dev left next reads link = .ok found) : found.1 % 2 = 0 ∧ found.1 < 65536 := by
  induction left generalizing next reads link with
  | zero =>
    rw [walkLinks] at walked
    split at walked
    · cases walked
    · split at walked
      · cases walked
        dsimp only
        omega
      · cases walked
  | succ left ih =>
    rw [walkLinks] at walked
    split at walked
    · cases walked
    · split at walked
      · cases walked
        dsimp only
        omega
      · exact ih (by omega) walked

theorem findOtpImage_even {found : Nat × Nat} (walked : iwlFindOtpImage dev call = .ok found) :
    found.1 % 2 = 0 ∧ found.1 < 65536 := by
  unfold iwlFindOtpImage at walked
  split at walked
  · cases walked
  · exact walkLinks_even rfl walked

/-- A return before the loop is right: nothing was written, and nothing is returned. -/
theorem right_of_start {result : EepromRead} (returns : eepromStart dev call = .error result) :
    result.Right dev call := by
  have refused : ∀ e, (EepromRead.refused e).Right dev call := fun e =>
    ⟨rfl, fun ok => (nomatch ok), fun ok => (nomatch ok), .inl rfl⟩
  have freed : ∀ e, (EepromRead.errFree (.error e) false []).Right dev call := fun e =>
    ⟨rfl, fun ok => (nomatch ok), fun ok => (nomatch ok), .inl rfl⟩
  have unlocked : ∀ ret, ret ≠ .ok 0 → (EepromRead.errUnlock ret false [.acquired]).Right dev call :=
    fun ret not => ⟨rfl, fun ok => absurd ok not, fun ok => absurd ok not, .inr rfl⟩
  unfold eepromStart at returns
  split at returns
  · cases returns; exact refused _
  split at returns
  · cases returns; exact refused _
  split at returns
  · cases returns; exact refused _
  split at returns
  · cases returns; exact freed _
  · cases returns; exact freed _
  split at returns
  · split at returns
    · cases returns; exact unlocked _ fun same => (nomatch same)
    · cases returns; exact unlocked _ fun same => (nomatch same)
    · split at returns
      · cases returns
      · split at returns
        · cases returns; exact unlocked _ fun same => (nomatch same)
        · cases returns
  · cases returns

/-- Where the loop begins. -/
theorem start_of_loop {reads : Nat} (goes : eepromStart dev call = .ok (nvmIsOtp, start, reads)) :
    (nvmIsOtp = false → start = 0) ∧ start % 2 = 0 ∧ start < 65536 ∧ imageStart dev call = start := by
  unfold eepromStart at goes
  split at goes
  · cases goes
  split at goes
  · cases goes
  next isOtp is =>
  split at goes
  · cases goes
  split at goes
  · cases goes
  · cases goes
  split at goes
  next otp =>
    subst otp
    split at goes
    · cases goes
    · cases goes
    · split at goes
      next shadow =>
        cases goes
        exact ⟨fun _ => rfl, rfl, by omega, if_neg fun both => both.2 shadow⟩
      next shadow =>
        split at goes
        · cases goes
        next found same =>
          cases goes
          have address := findOtpImage_even same
          refine ⟨fun none => (nomatch none), address.1, address.2, ?_⟩
          rw [imageStart, if_pos ⟨is, shadow⟩, same]
  next eeprom =>
    cases goes
    refine ⟨fun _ => rfl, rfl, by omega, if_neg fun both => ?_⟩
    rw [is] at both
    exact eeprom (Except.ok.inj both.1)

/-- When `iwl_read_eeprom` returns before the loop, or its loop is right. -/
def readRight (dev : EepromDevice) (call : EepromCall) : Prop :=
  match eepromStart dev call with
  | .error _ => True
  | .ok (nvmIsOtp, start, reads) => loopRight dev call.eepromSize nvmIsOtp start reads

/-! ### The main result -/

/-- A loop that ends right gives a right call. -/
theorem right_of_full {now : WordLoop} (size : call.eepromSize = sz) (begins : imageStart dev call = start)
    (inside : now.outside = false) (words : now.buffer = imageWords dev start (sz / 2)) :
    (eepromFinish sz [.acquired] (.ok 0, now)).Right dev call :=
  ⟨inside, fun _ => congrArg some size.symm,
    fun _ => by rw [begins, size]; exact congrArg some words, .inr rfl⟩

theorem right_of_failure {e : Errno} {now : WordLoop} (inside : now.outside = false) :
    (eepromFinish sz [.acquired] (.error e, now)).Right dev call :=
  ⟨inside, fun ok => (nomatch ok), fun ok => (nomatch ok), .inr rfl⟩

/-- **The loop, and what follows it.** -/
theorem loop_right_iff (sized : call.eepromSize = 2 * size) (small : size < 32768)
    (base : nvmIsOtp = false → start = 0) (even : start % 2 = 0) (begins : imageStart dev call = start)
    (entered : Progress dev start before size 0 st) :
    (∃ fuel out, run (loopTurn dev call.eepromSize nvmIsOtp start) fuel st = some out ∧
        (eepromFinish call.eepromSize [.acquired] out).Right dev call) ↔
      loopRight dev call.eepromSize nvmIsOtp start before := by
  have half : call.eepromSize / 2 = size := by omega
  rw [loopRight, half, sized]
  by_cases fits : start + 2 * size < 65536
  · rw [if_pos fits]
    by_cases fails : dev.someFails nvmIsOtp before size = true
    · refine iff_of_true ?_ (.inl fails)
      have inside : ∀ i < size, (start + 2 * i) % 65536 < start + 2 * size := fun i below => by omega
      obtain ⟨fuel, e, now, ran, inside⟩ :=
        wordLoop_fails base small entered (Nat.le_succ size) inside fails
      exact ⟨fuel, _, ran, right_of_failure inside⟩
    · obtain ⟨fuel, now, ran, full⟩ := wordLoop_ends base small fits entered (none_fails fails)
      have words := buffer_full fits full
      rw [or_iff_right fails, ← answers_eq_iff even, ← words]
      constructor
      · rintro ⟨fuel', out, ran', right⟩
        obtain rfl := run_unique ran ran'
        have same := Option.some.inj (right.words rfl)
        rwa [begins, half] at same
      · intro same
        refine ⟨fuel, _, ran, right_of_full sized begins ?_ ?_⟩
        · rw [full.outside]
          exact decide_eq_false (Nat.lt_irrefl size)
        · rw [same, Nat.mul_div_cancel_left _ (by omega)]
  · rw [if_neg fits]
    by_cases fails : dev.someFails nvmIsOtp before (size + 1) = true
    · refine iff_of_true ?_ fails
      have inside : ∀ i < size + 1, (start + 2 * i) % 65536 < start + 2 * size := fun i _ => by omega
      obtain ⟨fuel, e, now, ran, inside⟩ :=
        wordLoop_fails base small entered (Nat.le_refl _) inside fails
      exact ⟨fuel, _, ran, right_of_failure inside⟩
    · refine iff_of_false ?_ fails
      rintro ⟨fuel, ⟨ret, now⟩, ran, right⟩
      have outside := wordLoop_outside base small (Nat.le_of_not_lt fits) entered (none_fails fails) ran
      have inside := right.inside
      cases ret <;> exact Bool.false_ne_true (inside.symm.trans outside)

/-- **Where the loop is entered.** -/
theorem readsEeprom_loop {reads : Nat} (goes : eepromStart dev call = .ok (nvmIsOtp, start, reads)) :
    ReadsEeprom dev call ↔
      ∃ fuel out, run (loopTurn dev call.eepromSize nvmIsOtp start) fuel
          ⟨start, 0, reads, call.buffer, false⟩ = some out ∧
        (eepromFinish call.eepromSize [.acquired] out).Right dev call := by
  refine exists_congr fun fuel => ?_
  rw [iwlReadEeprom, goes]
  constructor
  · rintro ⟨result, same, right⟩
    obtain ⟨out, ran, rfl⟩ := Option.map_eq_some_iff.mp same
    exact ⟨out, ran, right⟩
  · rintro ⟨out, ran, right⟩
    exact ⟨_, Option.map_eq_some_iff.mpr ⟨out, ran, rfl⟩, right⟩

/-- **When `iwl_read_eeprom` does what it should**: it returns before the loop, or the loop's bound is a
`u16` and a read fails or fourteen bits of an address are enough for each word, or a read fails no later
than one word after the buffer is full. -/
theorem readEeprom_iff (dev : EepromDevice) (call : EepromCall) (even : call.eepromSize % 2 = 0)
    (small : call.eepromSize ≤ 65534) : ReadsEeprom dev call ↔ readRight dev call := by
  unfold readRight
  cases start : eepromStart dev call with
  | error result =>
    refine iff_of_true ⟨0, result, ?_, right_of_start start⟩ trivial
    rw [iwlReadEeprom, start]
  | ok loop =>
    obtain ⟨nvmIsOtp, start', reads⟩ := loop
    obtain ⟨base, begins, below, image⟩ := start_of_loop start
    have room : call.buffer.length = call.eepromSize / 2 := by simp [EepromCall.buffer]
    rw [readsEeprom_loop start]
    exact loop_right_iff (by omega) (by omega) base begins image (progress_zero below call.buffer)

/-- An OTP whose second link is close to the end of the addresses. -/
def lateImage : EepromDevice where
  hwRev := 0x60
  eepromGp := 1
  otpGp := 0x10000
  semaphore := fun _ => some 0
  clock := some 0
  valid := fun _ => some 0
  otpStatus := fun _ => 0
  word := fun addr => if addr = 0 then 0x7F00 else if addr = 0x7E00 then 4 else 0

/-- The configuration of the 1000 devices: `OTP_LOW_IMAGE_SIZE`, `OTP_MAX_LL_ITEMS_1000`. -/
def call1000 : EepromCall where
  outputs := true
  allocated := true
  fresh := fun _ => 0
  eepromSize := 2048
  maxLlItems := 3
  shadowRamSupport := false

/-- The same device with its image in the block after the first. -/
def earlyImage : EepromDevice :=
  { lateImage with word := fun addr => if addr = 0 then 0x100 else if addr = 0x200 then 0x200 else 0 }

theorem readEeprom_iff_early : ReadsEeprom earlyImage call1000 ↔ readRight earlyImage call1000 :=
  readEeprom_iff earlyImage call1000 (by decide) (by decide)

/-- The image is said to begin at 65026: the loop of 1024 words does not end with them. -/
theorem lateImage_reads : eepromStart lateImage call1000 = .ok (true, 65026, 4) ∧
    ¬ ReadsEeprom lateImage call1000 := by
  have goes : eepromStart lateImage call1000 = .ok (true, 65026, 4) := by rfl
  refine ⟨goes, ?_⟩
  rw [readsEeprom_loop goes]
  rintro ⟨fuel, out, ran, -⟩
  have reads : ∀ n, lateImage.fails true n = false := fun n => by simp [EepromDevice.fails, lateImage]
  have endless : run (loopTurn lateImage 2048 true 65026) fuel ⟨65026, 0, 4, call1000.buffer, false⟩ =
      none := wordLoop_endless (fun no => absurd no (by decide)) (by omega) (by decide) reads fuel
  cases endless.symm.trans ran

end IntelWifi.Nvm
