/-
**The bit operations on a word that two threads share.**

Each call is its loads, stores and atomic instructions, in any interleaving. `set_bit` and `clear_bit` load
the word and compare-and-swap it until it is as it was loaded; `test_bit` is one atomic addition of zero;
`test_and_set_bit` and `test_and_clear_bit` load the word and store it.

* `statusWord`: as long as every store finds the word as its load found it, the calls are linearizable.
* `statusWord_broken`: a bit that the interrupt thread sets is lost.
-/

import IntelWifi.Lib.Linearization
import IntelWifi.Lib.Machine
import IntelWifi.Porting.Bitfield

namespace IntelWifi.Porting

open IntelWifi.Linearization

/-- The thread that issues commands, and the interrupt thread. -/
inductive Caller where
  | issuer
  | interrupt
  deriving DecidableEq

inductive BitCall where
  | setBit (nr : Nat)
  | clearBit (nr : Nat)
  | testAndSetBit (nr : Nat)
  | testAndClearBit (nr : Nat)
  | testBit (nr : Nat)
  deriving DecidableEq

def BitCall.nr : BitCall → Nat
  | .setBit nr => nr
  | .clearBit nr => nr
  | .testAndSetBit nr => nr
  | .testAndClearBit nr => nr
  | .testBit nr => nr

/-- Where a thread is: in no call; before a load (or the atomic addition of `test_bit`); or before a
compare-and-swap or a store, with what it loaded. -/
inductive BitPc where
  | idle
  | load (call : BitCall)
  | write (call : BitCall) (old : Word)

/-- The word, the threads, and the calls that returned. -/
structure WordState where
  word : Word
  pc : Caller → BitPc
  returned : List (Returned Caller BitCall (Option Bool))

inductive WordAct where
  | issue (thread : Caller) (call : BitCall)
  | step (thread : Caller)

def WordState.goto (st : WordState) (thread : Caller) (pc : BitPc) : WordState :=
  { st with pc := Function.update st.pc thread pc }

/-- The call returns, with the word it leaves. -/
def WordState.finish (st : WordState) (thread : Caller) (call : BitCall) (word : Word)
    (value : Option Bool) : WordState :=
  { st.goto thread .idle with word := word, returned := st.returned ++ [⟨thread, call, value⟩] }

/-- `OSCompareAndSwap64`, in the loop of `OSBitwiseAtomic64`. -/
def WordState.swap (st : WordState) (thread : Caller) (call : BitCall) (old new : Word) : WordState :=
  if st.word = old then st.finish thread call new none else st.goto thread (.load call)

/-- The write of a call, from what it loaded. -/
def writeStep (st : WordState) (thread : Caller) (old : Word) : BitCall → Option WordState
  | .setBit nr => some (st.swap thread (.setBit nr) old (osBitOrAtomic64 (bitMask nr) old))
  | .clearBit nr => some (st.swap thread (.clearBit nr) old (osBitAndAtomic64 (~~~bitMask nr) old))
  | .testAndSetBit nr =>
    some (st.finish thread (.testAndSetBit nr) (old ||| bitMask nr) (some (old &&& bitMask nr != 0)))
  | .testAndClearBit nr =>
    some (st.finish thread (.testAndClearBit nr) (old &&& ~~~bitMask nr) (some (old &&& bitMask nr != 0)))
  | .testBit _ => none

def wordStep [WideShift] (st : WordState) : WordAct → Option WordState
  | .issue thread call =>
    match st.pc thread with
    | .idle => some (st.goto thread (.load call))
    | _ => none
  | .step thread =>
    match st.pc thread with
    | .idle => none
    | .load (.testBit nr) => some (st.finish thread (.testBit nr) st.word (some (testBit nr [st.word])))
    | .load call => some (st.goto thread (.write call st.word))
    | .write call old => writeStep st thread old call

/-- No call was made yet. -/
def WordState.start (word : Word) : WordState := ⟨word, fun _ => .idle, []⟩

/-! ### What the calls are for -/

/-- The bits one after another, as a call leaves them, and what it returns. -/
def BitCall.apply : BitCall → (Nat → Bool) → (Nat → Bool) × Option Bool
  | .setBit nr, bits => (Function.update bits nr true, none)
  | .clearBit nr, bits => (Function.update bits nr false, none)
  | .testAndSetBit nr, bits => (Function.update bits nr true, some (bits nr))
  | .testAndClearBit nr, bits => (Function.update bits nr false, some (bits nr))
  | .testBit nr, bits => (bits, some (bits nr))

/-- The bits of a word. -/
def bitsOf (word : Word) : Nat → Bool := word.getLsbD

variable {nr : Nat}

theorem bitsOf_or (low : nr < 64) (word : Word) :
    bitsOf (word ||| bitMask nr) = Function.update (bitsOf word) nr true := by
  funext i
  unfold bitsOf
  rw [BitVec.getLsbD_or, bitMask_getLsbD, Nat.mod_eq_of_lt low]
  by_cases here : nr = i
  · subst here
    rw [Function.update_self, decide_eq_true rfl, Bool.or_true]
  · rw [Function.update_of_ne (Ne.symm here), decide_eq_false here, Bool.or_false]

theorem bitsOf_andNot (low : nr < 64) (word : Word) :
    bitsOf (word &&& ~~~bitMask nr) = Function.update (bitsOf word) nr false := by
  funext i
  unfold bitsOf
  rw [BitVec.getLsbD_and, BitVec.getLsbD_not, bitMask_getLsbD, Nat.mod_eq_of_lt low]
  by_cases here : nr = i
  · subst here
    rw [Function.update_self, decide_eq_true rfl, Bool.not_true, Bool.and_false, Bool.and_false]
  · rw [Function.update_of_ne (Ne.symm here), decide_eq_false here, Bool.not_false, Bool.and_true]
    by_cases inside : i < 64
    · rw [decide_eq_true inside, Bool.and_true]
    · rw [BitVec.getLsbD_of_ge _ _ (Nat.le_of_not_lt inside), Bool.false_and]

theorem osBitOr_eq (word : Word) : osBitOrAtomic64 (bitMask nr) word = word ||| bitMask nr := by
  unfold osBitOrAtomic64 osBitwiseAtomic64
  rw [BitVec.and_allOnes, BitVec.xor_zero]

theorem osBitAnd_eq (mask word : Word) : osBitAndAtomic64 mask word = word &&& mask := by
  unfold osBitAndAtomic64 osBitwiseAtomic64
  rw [BitVec.or_zero, BitVec.xor_zero]

theorem and_bitMask (low : nr < 64) (word : Word) : (word &&& bitMask nr != 0) = bitsOf word nr := by
  unfold bitMask bitsPerLong bitsOf
  rw [Nat.mod_eq_of_lt low]
  exact and_twoPow_ne_zero _ _

/-! ### Runs -/

/-- A plain store of a call finds the word as its load found it. -/
def BitCall.storesFresh (word old : Word) : BitCall → Bool
  | .testAndSetBit _ => word = old
  | .testAndClearBit _ => word = old
  | _ => true

def storesFresh (st : WordState) : WordAct → Bool
  | .issue _ _ => true
  | .step thread =>
    match st.pc thread with
    | .write call old => call.storesFresh st.word old
    | _ => true

/-- The bit number of a call is below 31. -/
def WordAct.low : WordAct → Bool
  | .issue _ call => call.nr < 31
  | .step _ => true

/-- The call a thread is in. -/
def BitPc.callOf : BitPc → Option BitCall
  | .idle => none
  | .load call => some call
  | .write call _ => some call

/-- **The calls that returned are explained by the order in which they did.** -/
structure Explained (word : Word) (st : WordState) : Prop where
  low : ∀ thread call, (st.pc thread).callOf = some call → call.nr < 31
  explained : Explains BitCall.apply (bitsOf word) st.returned (bitsOf st.word)

variable {word : Word} {st st' : WordState} {thread : Caller}

theorem Explained.goto (good : Explained word st) {pc : BitPc}
    (low : ∀ call, pc.callOf = some call → call.nr < 31) : Explained word (st.goto thread pc) := by
  refine ⟨fun other call inside => ?_, good.explained⟩
  have inside : (Function.update st.pc thread pc other).callOf = some call := inside
  by_cases same : other = thread
  · rw [same, Function.update_self] at inside
    exact low call inside
  · rw [Function.update_of_ne same] at inside
    exact good.low other call inside

/-- **A call that takes effect as it returns.** -/
theorem Explained.finish (good : Explained word st) {call : BitCall} {new : Word} {value : Option Bool}
    (effect : call.apply (bitsOf st.word) = (bitsOf new, value)) :
    Explained word (st.finish thread call new value) := by
  refine ⟨(good.goto fun _ none => by cases none).low, ?_⟩
  have longer := good.explained.snoc thread call
  rw [effect] at longer
  exact longer

theorem Explained.swap (good : Explained word st) {call : BitCall} {old new : Word} (low : call.nr < 31)
    (effect : call.apply (bitsOf old) = (bitsOf new, none)) :
    Explained word (st.swap thread call old new) := by
  unfold WordState.swap
  split
  · next same =>
    exact good.finish (by rw [same]; exact effect)
  · exact good.goto fun other same => by rw [← Option.some.inj same]; exact low

/-- **A write.** -/
theorem Explained.writes (good : Explained word st) {call : BitCall} {old : Word} (low : call.nr < 31)
    (fresh : call.storesFresh st.word old = true) (stepped : writeStep st thread old call = some st') :
    Explained word st' := by
  have inWord (nr : Nat) (same : call.nr = nr) : nr < 64 := same ▸ Nat.lt_trans low (by decide)
  cases call with
  | setBit nr =>
    obtain rfl := Option.some.inj stepped
    refine good.swap low ?_
    rw [osBitOr_eq, bitsOf_or (inWord nr rfl)]
    rfl
  | clearBit nr =>
    obtain rfl := Option.some.inj stepped
    refine good.swap low ?_
    rw [osBitAnd_eq, bitsOf_andNot (inWord nr rfl)]
    rfl
  | testAndSetBit nr =>
    obtain rfl := Option.some.inj stepped
    obtain rfl := of_decide_eq_true fresh
    refine good.finish ?_
    rw [bitsOf_or (inWord nr rfl), and_bitMask (inWord nr rfl)]
    rfl
  | testAndClearBit nr =>
    obtain rfl := Option.some.inj stepped
    obtain rfl := of_decide_eq_true fresh
    refine good.finish ?_
    rw [bitsOf_andNot (inWord nr rfl), and_bitMask (inWord nr rfl)]
    rfl
  | testBit nr => cases stepped

/-- **One step.** -/
theorem Explained.step [WideShift] (good : Explained word st) {act : WordAct} (low : act.low = true)
    (fresh : storesFresh st act = true) (stepped : wordStep st act = some st') : Explained word st' := by
  cases act with
  | issue thread call =>
    unfold wordStep at stepped
    dsimp only at stepped
    cases at' : st.pc thread with
    | idle =>
      rw [at'] at stepped
      obtain rfl := Option.some.inj stepped
      exact good.goto fun other same => by
        rw [← Option.some.inj same]
        exact of_decide_eq_true low
    | load _ =>
      rw [at'] at stepped
      cases stepped
    | write _ _ =>
      rw [at'] at stepped
      cases stepped
  | step thread =>
    have inside := good.low thread
    unfold wordStep at stepped
    unfold storesFresh at fresh
    dsimp only at stepped fresh
    cases at' : st.pc thread with
    | idle =>
      rw [at'] at stepped
      cases stepped
    | load call =>
      rw [at'] at stepped inside
      have low := inside call rfl
      have loaded : Explained word (st.goto thread (.write call st.word)) :=
        good.goto fun other same => by
          rw [← Option.some.inj same]
          exact low
      cases call with
      | testBit nr =>
        obtain rfl := Option.some.inj stepped
        refine good.finish ?_
        have low : nr < 31 := low
        rw [testBit_eq (Nat.lt_trans low (by decide))]
        rfl
      | _ =>
        obtain rfl := Option.some.inj stepped
        exact loaded
    | write call old =>
      rw [at'] at stepped inside fresh
      exact good.writes (inside call rfl) fresh stepped

/-- **The calls are linearizable** in every state reached, as long as every store of `test_and_set_bit` and
`test_and_clear_bit` finds the word as its load found it. -/
theorem statusWord [WideShift] (word : Word) (acts : List WordAct) (low : ∀ act ∈ acts, act.low = true)
    (fresh : Machine.allowed wordStep storesFresh (.start word) acts = true) (last : WordState)
    (ran : Machine.run wordStep (.start word) acts = some last) :
    Linearizable BitCall.apply (bitsOf word) last.returned (bitsOf last.word) := by
  have both := Machine.allowed_and fresh low
  have begins : Explained word (.start word) := ⟨fun _ _ none => (by cases none), rfl⟩
  exact (Machine.run_invariant_of_allowed (Explained word) (fun st act next good ok stepped => by
    rw [Bool.and_eq_true] at ok
    exact good.step ok.2 ok.1 stepped) begins both ran).explained.linearizable

/-- The store comes before the interrupt thread's compare-and-swap, which is made again. -/
def retried : List WordAct :=
  [.issue .issuer (.testAndSetBit 0), .issue .interrupt (.setBit 4), .step .issuer, .step .interrupt,
    .step .issuer, .step .interrupt, .step .interrupt, .step .interrupt]

section Processor

attribute [local instance] processorShift

theorem statusWord_retried : ∃ last, Machine.run wordStep (.start 0) retried = some last ∧
    Linearizable BitCall.apply (bitsOf 0) last.returned (bitsOf last.word) :=
  ⟨_, rfl, statusWord 0 retried (by decide) (by decide) _ rfl⟩

/-- The calls that may leave a bit clear. -/
def BitCall.mayClear (i : Nat) : BitCall → Bool
  | .clearBit nr => nr = i
  | .testAndClearBit nr => nr = i
  | _ => false

/-- A bit that is set, and that no call clears, stays set. -/
theorem apply_set {call : BitCall} {i : Nat} (keeps : call.mayClear i = false) {bits : Nat → Bool}
    (set : bits i = true) : (call.apply bits).1 i = true := by
  have written (nr : Nat) (value : Bool) (kept : nr = i → value = true) :
      Function.update bits nr value i = true := by
    by_cases here : i = nr
    · subst here
      rw [Function.update_self]
      exact kept rfl
    · rw [Function.update_of_ne here]
      exact set
  cases call with
  | setBit nr => exact written nr true fun _ => rfl
  | clearBit nr => exact written nr false fun same => absurd same (of_decide_eq_false keeps)
  | testAndSetBit nr => exact written nr true fun _ => rfl
  | testAndClearBit nr => exact written nr false fun same => absurd same (of_decide_eq_false keeps)
  | testBit nr => exact set

/-- **An order of calls does not undo an update**: a bit that some call sets and none clears is set. -/
theorem explains_set {i : Nat} {order : List (Returned Caller BitCall (Option Bool))}
    {bits last : Nat → Bool} (explained : Explains BitCall.apply bits order last)
    (keeps : ∀ done ∈ order, done.call.mayClear i = false)
    (set : bits i = true ∨ ∃ done ∈ order, done.call = .setBit i) : last i = true := by
  induction order generalizing bits with
  | nil =>
    obtain rfl := explained
    rcases set with set | ⟨_, none, _⟩
    · exact set
    · cases none
  | cons first later ih =>
    refine ih explained.2 (fun done member => keeps done (List.mem_cons_of_mem _ member)) ?_
    rcases set with set | ⟨done, member, sets⟩
    · exact .inl (apply_set (keeps first List.mem_cons_self) set)
    · rcases List.mem_cons.mp member with rfl | member
      · rw [sets]
        exact .inl (Function.update_self _ _ _)
      · exact .inr ⟨done, member, sets⟩

/-- The command thread is in `test_and_set_bit(0)` while the interrupt thread sets bit 4. -/
def overlapping : List WordAct :=
  [.issue .issuer (.testAndSetBit 0), .step .issuer, .issue .interrupt (.setBit 4), .step .interrupt,
    .step .interrupt, .step .issuer]

/-- **A bit that the interrupt thread sets is lost**, and no order of the calls explains it. -/
theorem statusWord_broken : ∃ last, Machine.run wordStep (.start 0) overlapping = some last ∧
    ¬ Linearizable BitCall.apply (bitsOf 0) last.returned (bitsOf last.word) := by
  obtain ⟨last, ran⟩ : ∃ last, Machine.run wordStep (.start 0) overlapping = some last := ⟨_, rfl⟩
  refine ⟨last, ran, ?_⟩
  have returned : last.returned =
      [⟨.interrupt, .setBit 4, none⟩, ⟨.issuer, .testAndSetBit 0, some false⟩] := by
    obtain rfl := Option.some.inj ran
    rfl
  have lost : bitsOf last.word 4 = false := by
    obtain rfl := Option.some.inj ran
    rfl
  rintro ⟨order, same, explained⟩
  have among := mem_of_filter_eq same
  rw [returned] at among
  have set := explains_set (i := 4) explained (fun done member => by
    rcases List.mem_cons.mp ((among done).mp member) with rfl | member
    · rfl
    · obtain rfl := List.mem_singleton.mp member
      rfl) (.inr ⟨_, (among _).mpr List.mem_cons_self, rfl⟩)
  exact Bool.false_ne_true (lost.symm.trans set)

end Processor

end IntelWifi.Porting
