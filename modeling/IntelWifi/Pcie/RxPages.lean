/-
**Who owns a receive page.**

A page belongs to a descriptor, to the network stack or to the issuer of a command with `CMD_WANT_SKB`,
until it is freed. Frame after frame of a page can be handed over; only behind the last is `page_stolen`
looked at. `iwl_free_packet` and `iwl_free_resp` do nothing.

`stack`, `issuers` and `freed` are for stating what happened: the pages that the stack and the issuers have,
one entry for each time they were handed one, and the pages that were freed. So are `given`, the pages that
`inputPacket` was called with, and `readBehind`: a page was read behind such a call.

* `run_rbTurn`: what the frames of a page hand over.
* `pagesOwned_iff`: every page has one owner all along exactly the runs where at most one frame of a page
  takes it, nothing is read behind a frame for the stack, and nothing is left to the two functions.
-/

import IntelWifi.Lib.Machine
import IntelWifi.Pcie.FrameLayout
import IntelWifi.Pcie.Response
import IntelWifi.Pcie.RxMultiQueue

namespace IntelWifi.Pcie.RxPages

open IntelWifi.Loop IntelWifi.Machine IntelWifi.Tally

/-- A page is the number of its allocation. -/
abbrev Page := Nat

/-- A place of `rx_pool`. -/
abbrev PoolIndex := Fin Rxq.rxPoolSize

/-- The descriptors with their pages, those that wait for one, and which slots of the command queue have
`CMD_WANT_SKB` in their flags. -/
structure PageState where
  page : PoolIndex → Option Page
  used : List PoolIndex
  wanted : Slot → Bool
  allocated : Nat
  stack : List Page
  issuers : List Page
  freed : List Page
  given : List Page
  readBehind : Bool

/-- `iwl_free_packet`. The call of `freePacket` is commented out. -/
def iwlFreePacket (_ : Page) (st : PageState) : PageState := st

/-- `iwl_free_resp`. The call of `free_pages` is commented out. -/
def iwlFreeResp (_ : Page) (st : PageState) : PageState := st

/-- The page is read. -/
def readPage (p : Page) (st : PageState) : PageState :=
  { st with readBehind := st.readBehind || st.given.contains p }

/-! ### One page -/

/-- The variables of `iwl_pcie_rx_handle_rb` at the head of its loop. -/
structure RbWalk where
  st : PageState
  pageStolen : Bool

/-- What one call of `iwl_pcie_rx_handle_rb` meets: the page, the frames that the op-mode passes to the
stack, and whether the page can be mapped again. -/
structure RbEnv where
  content : RxPage
  passes : RxPacket → Bool
  mapped : Bool

variable (noReclaimCmds : List Nat) (cmdQueue : Nat)

/-- `iwl_pcie_hcmd_complete` gets the packet, and it names the command queue. -/
def completes (pkt : RxPacket) : Bool :=
  reclaims noReclaimCmds pkt && seqToQueue pkt.sequence == cmdQueue

/-- What is done with one frame: `opmode->rx`, and else `iwl_pcie_hcmd_complete`, which clears the flags of
the slot. Both take the page with `rxb_steal_page`. -/
def rbFrame (env : RbEnv) (p : Page) (pkt : RxPacket) (walk : RbWalk) : RbWalk :=
  if env.passes pkt then
    ⟨{ walk.st with stack := walk.st.stack ++ [p], given := walk.st.given ++ [p] }, true⟩
  else if completes noReclaimCmds cmdQueue pkt && walk.st.wanted (packetSlot pkt) then
    ⟨{ walk.st with
      issuers := walk.st.issuers ++ [p]
      wanted := Function.update walk.st.wanted (packetSlot pkt) false }, true⟩
  else walk

/-- One turn of the loop over frames. -/
def rbTurn (env : RbEnv) (p : Page) : Nat × RbWalk → Turn (Nat × RbWalk) RbWalk
  | (offset, walk) =>
    if offset + minFrame < env.content.maxLen then
      let pkt := env.content.packetAt offset
      let walk := { walk with st := readPage p walk.st }
      if pkt.lenNFlags = frameInvalid then .leave walk
      else .again (offset + frameStride pkt, rbFrame noReclaimCmds cmdQueue env p pkt walk)
    else .leave walk

/-- `iwl_pcie_rx_handle_rb` behind the loop. A page that cannot be mapped again is forgotten. -/
def afterFrames (env : RbEnv) (rxb : PoolIndex) (p : Page) (walk : RbWalk) : PageState :=
  let st :=
    if walk.pageStolen then
      { iwlFreePacket p walk.st with page := Function.update walk.st.page rxb none }
    else walk.st
  if (st.page rxb).isSome && env.mapped then st
  else { st with page := Function.update st.page rxb none, used := st.used ++ [rxb] }

/-- `iwl_pcie_rx_handle_rb`. -/
def rxHandleRb (env : RbEnv) (rxb : PoolIndex) (p : Page) (st : PageState) : Option PageState :=
  (run (rbTurn noReclaimCmds cmdQueue env p) (rxFuel env.content) (0, ⟨st, false⟩)).map
    (afterFrames env rxb p)

/-! ### The system -/

/-- One page of `iwl_pcie_rxq_alloc_rbs` or of `iwl_pcie_rx_allocator`. -/
def allocPage (mapped : Bool) (st : PageState) : PageState :=
  match st.used with
  | [] => st
  | rxb :: rest =>
    let p := st.allocated
    let st := { st with allocated := p + 1 }
    if mapped then { st with page := Function.update st.page rxb (some p), used := rest }
    else iwlFreePacket p { st with page := Function.update st.page rxb none }

/-- The first places of `rx_pool`. -/
def poolOf (numAlloc : Nat) : List PoolIndex :=
  (List.finRange Rxq.rxPoolSize).filter fun rxb => rxb.val < numAlloc

/-- `_iwl_pcie_rx_init`, with `iwl_pcie_free_rbs_pool`: each page goes to `iwl_free_packet`. -/
def rxInit (numAlloc : Nat) (st : PageState) : PageState :=
  { (List.finRange Rxq.rxPoolSize).foldl (fun st rxb =>
      match st.page rxb with
      | none => st
      | some p => iwlFreePacket p st) st with
    page := fun _ => none
    used := poolOf numAlloc }

/-- The steps: of the receive path, of the command queue, of an issuer and of the network stack. A frame
is walked only when its descriptor has a page. -/
inductive PageAct where
  | alloc (mapped : Bool)
  | handleRb (rxb : PoolIndex) (env : RbEnv)
  | enqueue (slot : Slot) (wantSkb : Bool)
  | cancel (slot : Slot)
  | freeResp (p : Page)
  | stackFrees (p : Page)
  | init (numAlloc : Nat)

/-- One step. -/
def pageStep (st : PageState) : PageAct → Option PageState
  | .alloc mapped => some (allocPage mapped st)
  | .handleRb rxb env =>
    match st.page rxb with
    | none => some st
    | some p => rxHandleRb noReclaimCmds cmdQueue env rxb p st
  | .enqueue slot wantSkb => some { st with wanted := Function.update st.wanted slot wantSkb }
  | .cancel slot => some { st with wanted := Function.update st.wanted slot false }
  | .freeResp p =>
    some (if p ∈ st.issuers then { iwlFreeResp p st with issuers := st.issuers.erase p } else st)
  | .stackFrees p =>
    some (if p ∈ st.stack then { st with stack := st.stack.erase p, freed := st.freed ++ [p] } else st)
  | .init numAlloc => some (rxInit numAlloc st)

/-- Before the first initialisation. -/
def pagesStart : PageState where
  page := fun _ => none
  used := []
  wanted := fun _ => false
  allocated := 0
  stack := []
  issuers := []
  freed := []
  given := []
  readBehind := false

/-- The owners of a page. -/
def PageState.owners (st : PageState) (p : Page) : Nat :=
  tally st.page p + st.stack.count p + st.issuers.count p

/-- **Every page has one owner until it is freed, once**, `inputPacket` gets a page once, and nothing is
read behind that. -/
structure PagesOwned (st : PageState) : Prop where
  owner : ∀ p < st.allocated, st.owners p + st.freed.count p = 1
  once : st.given.Nodup
  unread : st.readBehind = false

/-! ### Which frames take the page -/

/-- Who takes the page with a frame. -/
inductive Taker where
  | stack
  | issuer
  deriving DecidableEq, Repr

/-- The frames that take the page. A response clears the flag of its slot. -/
def takers (passes : RxPacket → Bool) : (Slot → Bool) → List RxPacket → List (Taker × RxPacket)
  | _, [] => []
  | wanted, pkt :: later =>
    if passes pkt then (.stack, pkt) :: takers passes wanted later
    else if completes noReclaimCmds cmdQueue pkt && wanted (packetSlot pkt) then
      (.issuer, pkt) :: takers passes (Function.update wanted (packetSlot pkt) false) later
    else takers passes wanted later

/-- At most one frame takes the page; if none does it is mapped again, and behind one for the stack there
is no room for another header. -/
def takenOnce (env : RbEnv) : List (Taker × RxPacket) → Bool
  | [] => env.mapped
  | [(.issuer, _)] => true
  | [(.stack, pkt)] => !(pkt.offset + frameStride pkt + minFrame < env.content.maxLen)
  | _ => false

/-- No step lets go of a page that nobody takes, or of one that has two takers. -/
def keepsOwners (st : PageState) : PageAct → Bool
  | .alloc mapped => mapped || st.used.isEmpty
  | .handleRb rxb env =>
    st.page rxb = none ∨ takenOnce env
      (takers noReclaimCmds cmdQueue env.passes st.wanted (frames env.content)) = true
  | .freeResp p => p ∉ st.issuers
  | .init _ => ∀ rxb, st.page rxb = none
  | _ => true

variable {noReclaimCmds cmdQueue}

/-! ### The walk -/

/-- How often the frames hand the page to somebody. -/
def takenBy (who : Taker) (taken : List (Taker × RxPacket)) : Nat := taken.countP fun t => t.1 = who

/-- What the walk leaves: the page is handed over as often as frames take it. -/
structure Walked (p : Page) (walk last : RbWalk) (taken : List (Taker × RxPacket)) : Prop where
  page : last.st.page = walk.st.page
  used : last.st.used = walk.st.used
  allocated : last.st.allocated = walk.st.allocated
  freed : last.st.freed = walk.st.freed
  stack : ∀ q, last.st.stack.count q = walk.st.stack.count q + if p = q then takenBy .stack taken else 0
  issuers : ∀ q,
    last.st.issuers.count q = walk.st.issuers.count q + if p = q then takenBy .issuer taken else 0
  given : ∀ q, last.st.given.count q = walk.st.given.count q + if p = q then takenBy .stack taken else 0
  stolen : last.pageStolen = (walk.pageStolen || !taken.isEmpty)

theorem Walked.none (p : Page) (walk : RbWalk) : Walked p walk walk [] :=
  ⟨rfl, rfl, rfl, rfl, fun _ => by rw [takenBy, List.countP_nil, ite_self, Nat.add_zero],
    fun _ => by rw [takenBy, List.countP_nil, ite_self, Nat.add_zero],
    fun _ => by rw [takenBy, List.countP_nil, ite_self, Nat.add_zero],
    (Bool.or_false _).symm⟩

/-- Reading the page hands nothing over. -/
theorem Walked.read {p : Page} {walk last : RbWalk} {taken : List (Taker × RxPacket)}
    (walked : Walked p { walk with st := readPage p walk.st } last taken) : Walked p walk last taken :=
  ⟨walked.page, walked.used, walked.allocated, walked.freed, walked.stack, walked.issuers, walked.given,
    walked.stolen⟩

theorem count_handed (pages : List Page) (p q : Page) :
    (pages ++ [p]).count q = pages.count q + if p = q then 1 else 0 := Rxq.count_snoc pages p q

theorem takenBy_self (who : Taker) (pkt : RxPacket) (rest : List (Taker × RxPacket)) :
    takenBy who ((who, pkt) :: rest) = takenBy who rest + 1 :=
  List.countP_cons_of_pos (decide_eq_true rfl)

theorem takenBy_other {who taker : Taker} (differ : taker ≠ who) (pkt : RxPacket)
    (rest : List (Taker × RxPacket)) : takenBy who ((taker, pkt) :: rest) = takenBy who rest :=
  List.countP_cons_of_neg (by simpa using differ)

/-- **One frame**, in front of the others. -/
theorem Walked.frame {env : RbEnv} {p : Page} {walk last : RbWalk} {pkt : RxPacket} {later : List RxPacket}
    (walked : Walked p (rbFrame noReclaimCmds cmdQueue env p pkt walk) last
      (takers noReclaimCmds cmdQueue env.passes (rbFrame noReclaimCmds cmdQueue env p pkt walk).st.wanted
        later)) :
    Walked p walk last (takers noReclaimCmds cmdQueue env.passes walk.st.wanted (pkt :: later)) := by
  unfold takers
  unfold rbFrame at walked
  by_cases passes : env.passes pkt = true
  · rw [if_pos passes] at walked ⊢
    dsimp only at walked
    refine ⟨walked.page, walked.used, walked.allocated, walked.freed, fun q => ?_, fun q => ?_, fun q => ?_,
      ?_⟩
    · rw [walked.stack q, count_handed, takenBy_self]
      split <;> omega
    · rw [walked.issuers q, takenBy_other (by decide)]
    · rw [walked.given q, count_handed, takenBy_self]
      split <;> omega
    · rw [walked.stolen, Bool.true_or, List.isEmpty_cons, Bool.not_false, Bool.or_true]
  rw [if_neg passes] at walked ⊢
  by_cases response : (completes noReclaimCmds cmdQueue pkt && walk.st.wanted (packetSlot pkt)) = true
  · rw [if_pos response] at walked ⊢
    dsimp only at walked
    refine ⟨walked.page, walked.used, walked.allocated, walked.freed, fun q => ?_, fun q => ?_, fun q => ?_,
      ?_⟩
    · rw [walked.stack q, takenBy_other (by decide)]
    · rw [walked.issuers q, count_handed, takenBy_self]
      split <;> omega
    · rw [walked.given q, takenBy_other (by decide)]
    · rw [walked.stolen, Bool.true_or, List.isEmpty_cons, Bool.not_false, Bool.or_true]
  · rw [if_neg response] at walked ⊢
    exact walked

section Walk

variable {env : RbEnv} {p : Page} {offset : Nat} {walk : RbWalk}

/-- The turn at a frame. -/
theorem rbTurn_frame (room : offset + minFrame < env.content.maxLen)
    (frame : (env.content.packetAt offset).lenNFlags ≠ frameInvalid) :
    rbTurn noReclaimCmds cmdQueue env p (offset, walk) =
      .again (offset + frameStride (env.content.packetAt offset),
        rbFrame noReclaimCmds cmdQueue env p (env.content.packetAt offset)
          { walk with st := readPage p walk.st }) := by
  unfold rbTurn
  dsimp only
  rw [if_pos room, if_neg frame]

/-- The turn at the end marker, which is read. -/
theorem rbTurn_marker (room : offset + minFrame < env.content.maxLen)
    (marker : (env.content.packetAt offset).lenNFlags = frameInvalid) :
    rbTurn noReclaimCmds cmdQueue env p (offset, walk) =
      .leave { walk with st := readPage p walk.st } := by
  unfold rbTurn
  dsimp only
  rw [if_pos room, if_pos marker]

/-- The turn at the end of the page. -/
theorem rbTurn_end (full : ¬ offset + minFrame < env.content.maxLen) :
    rbTurn noReclaimCmds cmdQueue env p (offset, walk) = .leave walk := by
  unfold rbTurn
  dsimp only
  rw [if_neg full]

end Walk

/-- **What the frames of a page hand over.** -/
theorem run_rbTurn (env : RbEnv) (p : Page) (fuel offset : Nat) (walk : RbWalk)
    (enough : env.content.maxLen - offset < fuel) :
    ∃ last, run (rbTurn noReclaimCmds cmdQueue env p) fuel (offset, walk) = some last ∧
      Walked p walk last
        (takers noReclaimCmds cmdQueue env.passes walk.st.wanted (framesFrom env.content fuel offset)) := by
  induction fuel generalizing offset walk with
  | zero => exact absurd enough (Nat.not_lt_zero _)
  | succ fuel ih =>
    rw [framesFrom]
    by_cases frame : offset + minFrame < env.content.maxLen ∧
        (env.content.packetAt offset).lenNFlags ≠ frameInvalid
    · have moved := frameStride_pos (env.content.packetAt offset)
      have shorter : env.content.maxLen - (offset + frameStride (env.content.packetAt offset)) < fuel := by
        have room := frame.1
        unfold minFrame at room
        unfold frameAlign at moved
        omega
      rw [if_pos frame, run_again (rbTurn_frame frame.1 frame.2)]
      obtain ⟨last, ran, walked⟩ := ih (offset + frameStride (env.content.packetAt offset))
        (rbFrame noReclaimCmds cmdQueue env p (env.content.packetAt offset)
          { walk with st := readPage p walk.st }) shorter
      exact ⟨last, ran, walked.frame.read⟩
    · rw [if_neg frame]
      by_cases room : offset + minFrame < env.content.maxLen
      · have marker : (env.content.packetAt offset).lenNFlags = frameInvalid :=
          not_not.mp fun invalid => frame ⟨room, invalid⟩
        exact ⟨_, run_leave (rbTurn_marker room marker) fuel, (Walked.none p _).read⟩
      · exact ⟨walk, run_leave (rbTurn_end room) fuel, Walked.none p walk⟩

/-! ### Reading behind a call of `inputPacket` -/

theorem contains_append_self (pages : List Page) (p : Page) : (pages ++ [p]).contains p = true := by
  rw [List.contains_iff_mem]
  exact List.mem_append_right _ (List.mem_singleton.mpr rfl)

/-- A frame changes nothing of what was read behind a call. -/
theorem rbFrame_readBehind (env : RbEnv) (p : Page) (pkt : RxPacket) (walk : RbWalk) :
    (rbFrame noReclaimCmds cmdQueue env p pkt walk).st.readBehind = walk.st.readBehind := by
  unfold rbFrame
  split
  · rfl
  · split
    · rfl
    · rfl

/-- What was read behind a call stays read. -/
theorem run_readBehind {env : RbEnv} {p : Page} {fuel offset : Nat} {walk last : RbWalk}
    (read : walk.st.readBehind = true)
    (ran : run (rbTurn noReclaimCmds cmdQueue env p) fuel (offset, walk) = some last) :
    last.st.readBehind = true := by
  have kept (walk : RbWalk) (read : walk.st.readBehind = true) : (readPage p walk.st).readBehind = true := by
    unfold readPage
    rw [read, Bool.true_or]
  induction fuel generalizing offset walk with
  | zero => exact (nomatch ran)
  | succ fuel ih =>
    by_cases room : offset + minFrame < env.content.maxLen
    · by_cases marker : (env.content.packetAt offset).lenNFlags = frameInvalid
      · rw [run_leave (rbTurn_marker room marker)] at ran
        cases ran
        show (walk.st.readBehind || _) = true
        rw [read, Bool.true_or]
      · rw [run_again (rbTurn_frame room marker)] at ran
        exact ih ((rbFrame_readBehind env p _ _).trans (kept walk read)) ran
    · rw [run_leave (rbTurn_end room)] at ran
      cases ran
      exact read

/-- **Where there is room for a header it is read**, also when the stack has the page. -/
theorem run_given {env : RbEnv} {p : Page} {fuel offset : Nat} {walk last : RbWalk}
    (given : walk.st.given.contains p = true) (room : offset + minFrame < env.content.maxLen)
    (ran : run (rbTurn noReclaimCmds cmdQueue env p) (fuel + 1) (offset, walk) = some last) :
    last.st.readBehind = true := by
  have here : (readPage p walk.st).readBehind = true := by
    unfold readPage
    rw [given, Bool.or_true]
  by_cases marker : (env.content.packetAt offset).lenNFlags = frameInvalid
  · rw [run_leave (rbTurn_marker room marker)] at ran
    cases ran
    exact here
  · rw [run_again (rbTurn_frame room marker)] at ran
    exact run_readBehind ((rbFrame_readBehind env p _ _).trans here) ran

theorem readPage_fresh {p : Page} {st : PageState} (fresh : p ∉ st.given) : readPage p st = st := by
  have absent : st.given.contains p = false := by
    rw [Bool.eq_false_iff, ne_eq, List.contains_iff_mem]
    exact fresh
  unfold readPage
  rw [absent, Bool.or_false]

/-- What is read behind the calls of a page that was not given before: the header behind the only frame for
the stack, if there is room for one. -/
theorem run_unread {env : RbEnv} {p : Page} {fuel offset : Nat} {walk last : RbWalk}
    (fresh : p ∉ walk.st.given)
    (ran : run (rbTurn noReclaimCmds cmdQueue env p) fuel (offset, walk) = some last) :
    (takenBy .stack (takers noReclaimCmds cmdQueue env.passes walk.st.wanted
        (framesFrom env.content fuel offset)) = 0 →
      last.st.readBehind = walk.st.readBehind) ∧
    ∀ pkt, takers noReclaimCmds cmdQueue env.passes walk.st.wanted
        (framesFrom env.content fuel offset) = [(.stack, pkt)] →
      last.st.readBehind =
        (walk.st.readBehind || decide (pkt.offset + frameStride pkt + minFrame < env.content.maxLen)) := by
  induction fuel generalizing offset walk with
  | zero => cases ran
  | succ fuel ih =>
    rw [framesFrom]
    by_cases frame : offset + minFrame < env.content.maxLen ∧
        (env.content.packetAt offset).lenNFlags ≠ frameInvalid
    · rw [if_pos frame]
      rw [run_again (rbTurn_frame frame.1 frame.2), readPage_fresh fresh] at ran
      unfold takers
      unfold rbFrame at ran
      by_cases passes : env.passes (env.content.packetAt offset) = true
      · rw [if_pos passes] at ran ⊢
        rw [takenBy_self]
        refine ⟨fun none => absurd none (Nat.succ_ne_zero _), fun pkt only => ?_⟩
        obtain ⟨same, _⟩ := List.cons.inj only
        have here : pkt = env.content.packetAt offset := (Prod.mk.inj same).2.symm
        have start : pkt.offset = offset := congrArg RxPacket.offset here
        rw [start, here]
        by_cases room : offset + frameStride (env.content.packetAt offset) + minFrame < env.content.maxLen
        · rw [decide_eq_true room, Bool.or_true]
          cases fuel with
          | zero => cases ran
          | succ fuel => exact run_given (contains_append_self walk.st.given p) room ran
        · rw [decide_eq_false room, Bool.or_false]
          cases fuel with
          | zero => cases ran
          | succ fuel =>
            rw [run_leave (rbTurn_end room)] at ran
            cases ran
            rfl
      rw [if_neg passes] at ran ⊢
      by_cases response : (completes noReclaimCmds cmdQueue (env.content.packetAt offset) &&
          walk.st.wanted (packetSlot (env.content.packetAt offset))) = true
      · rw [if_pos response] at ran ⊢
        rw [takenBy_other (by decide)]
        refine ⟨(ih (by exact fresh) ran).1, fun pkt only => ?_⟩
        cases (Prod.mk.inj (List.cons.inj only).1).1
      · rw [if_neg response] at ran ⊢
        exact ih fresh ran
    · rw [if_neg frame]
      refine ⟨fun _ => ?_, fun pkt only => absurd only (List.cons_ne_nil _ _).symm⟩
      by_cases room : offset + minFrame < env.content.maxLen
      · have marker : (env.content.packetAt offset).lenNFlags = frameInvalid :=
          not_not.mp fun invalid => frame ⟨room, invalid⟩
        rw [run_leave (rbTurn_marker room marker), readPage_fresh fresh] at ran
        cases ran
        rfl
      · rw [run_leave (rbTurn_end room)] at ran
        cases ran
        rfl

/-! ### One step -/

/-- **The invariant.** A descriptor that waits for a page has none. -/
structure PageInv (st : PageState) : Prop where
  owner : ∀ p, st.owners p + st.freed.count p = if p < st.allocated then 1 else 0
  given : ∀ p, st.given.count p ≤ st.stack.count p + st.freed.count p
  unread : st.readBehind = false
  unpaged : ∀ rxb ∈ st.used, st.page rxb = none
  nodup : st.used.Nodup

theorem PageInv.sound {st : PageState} (inv : PageInv st) : PagesOwned st := by
  refine ⟨fun p here => by rw [inv.owner p, if_pos here], List.nodup_iff_count_le_one.mpr fun p => ?_,
    inv.unread⟩
  have owner := inv.owner p
  have given := inv.given p
  unfold PageState.owners at owner
  split at owner <;> omega

/-- The page of a descriptor has no other owner. -/
theorem PageInv.of_page {st : PageState} (inv : PageInv st) {rxb : PoolIndex} {p : Page}
    (held : st.page rxb = some p) :
    p < st.allocated ∧ tally st.page p = 1 ∧ st.stack.count p = 0 ∧ st.issuers.count p = 0 ∧
      st.freed.count p = 0 ∧ p ∉ st.given := by
  have owner := inv.owner p
  have given := inv.given p
  have here := tally_pos held
  unfold PageState.owners at owner
  split at owner
  case isTrue below =>
    refine ⟨below, by omega, by omega, by omega, by omega, fun member => ?_⟩
    have := List.count_pos_iff.mpr member
    omega
  case isFalse _ => omega

theorem tally_clear {st : PageState} {rxb : PoolIndex} {p : Page} (held : st.page rxb = some p) (q : Page) :
    tally (Function.update st.page rxb none) q + (if p = q then 1 else 0) = tally st.page q := by
  have moved := tally_update st.page rxb none q
  rw [held] at moved
  simp only [Option.some.injEq, reduceCtorEq, if_false, Nat.add_zero] at moved
  exact moved

section HandleRb

variable {st : PageState} {rxb : PoolIndex} {p : Page} {env : RbEnv} {last : RbWalk}
  {taken : List (Taker × RxPacket)}

/-- The descriptor keeps its page, or goes to the used ones without it. -/
theorem afterFrames_eq (held : st.page rxb = some p) (walked : Walked p ⟨st, false⟩ last taken) :
    afterFrames env rxb p last =
      if taken.isEmpty && env.mapped then last.st
      else { last.st with
        page := Function.update last.st.page rxb none, used := last.st.used ++ [rxb] } := by
  have stolen := walked.stolen
  rw [Bool.false_or] at stolen
  have page : last.st.page rxb = some p := by rw [walked.page]; exact held
  unfold afterFrames iwlFreePacket
  cases taken with
  | nil => simp only [stolen, page, List.isEmpty_nil, Bool.not_true, Bool.false_eq_true, if_false,
      Option.isSome_some]
  | cons taker more => simp only [stolen, List.isEmpty_cons, Bool.not_false, if_true, Function.update_self,
      Option.isSome_none, Bool.false_and, Bool.false_eq_true, if_false, Function.update_idem]

/-- The page has the owners that took it; without any it stays with the descriptor, if it is mapped. -/
theorem afterFrames_owners (held : st.page rxb = some p) (walked : Walked p ⟨st, false⟩ last taken)
    (q : Page) :
    (afterFrames env rxb p last).owners q + (if p = q then 1 else 0) = st.owners q +
      if p = q then takenBy .stack taken + takenBy .issuer taken +
        (if taken.isEmpty && env.mapped then 1 else 0) else 0 := by
  have cleared := tally_clear held q
  have stack := walked.stack q
  have issuers := walked.issuers q
  rw [afterFrames_eq held walked]
  unfold PageState.owners
  dsimp only at stack issuers
  by_cases same : p = q
  · simp only [if_pos same] at cleared stack issuers ⊢
    split
    · rw [walked.page]
      dsimp only
      omega
    · dsimp only
      rw [walked.page]
      dsimp only
      omega
  · simp only [if_neg same] at cleared stack issuers ⊢
    split
    · rw [walked.page]
      dsimp only
      omega
    · dsimp only
      rw [walked.page]
      dsimp only
      omega

/-- Everybody who takes a page is one of the two. -/
theorem takenBy_add (taken : List (Taker × RxPacket)) :
    takenBy .stack taken + takenBy .issuer taken = taken.length := by
  induction taken with
  | nil => rfl
  | cons taker more ih =>
    obtain ⟨who, pkt⟩ := taker
    cases who with
    | stack =>
      rw [takenBy_self, takenBy_other (by decide), List.length_cons]
      omega
    | issuer =>
      rw [takenBy_self, takenBy_other (by decide), List.length_cons]
      omega

/-- **One taker** leaves the invariant. -/
theorem handleRb_inv (inv : PageInv st) (held : st.page rxb = some p)
    (walked : Walked p ⟨st, false⟩ last taken)
    (one : taken.length + (if taken.isEmpty && env.mapped then 1 else 0) = 1)
    (unread : last.st.readBehind = false) : PageInv (afterFrames env rxb p last) := by
  obtain ⟨below, _, stack, issuers, freed, notGiven⟩ := inv.of_page held
  have same : (afterFrames env rxb p last).allocated = st.allocated ∧
      (afterFrames env rxb p last).freed = st.freed ∧ (afterFrames env rxb p last).stack = last.st.stack ∧
      (afterFrames env rxb p last).given = last.st.given ∧
      (afterFrames env rxb p last).readBehind = last.st.readBehind := by
    rw [afterFrames_eq held walked]
    split
    · exact ⟨walked.allocated, walked.freed, rfl, rfl, rfl⟩
    · exact ⟨walked.allocated, walked.freed, rfl, rfl, rfl⟩
  refine ⟨fun q => ?_, fun q => ?_, same.2.2.2.2.trans unread, ?_, ?_⟩
  · have owner := inv.owner q
    have after := @afterFrames_owners st rxb p env last taken held walked q
    rw [takenBy_add, one] at after
    rw [same.1, same.2.1]
    omega
  · have given := inv.given q
    have more := walked.given q
    have stacked := walked.stack q
    rw [same.2.1, same.2.2.1, same.2.2.2.1]
    dsimp only at more stacked
    omega
  · rw [afterFrames_eq held walked]
    split
    · rw [walked.page, walked.used]
      exact inv.unpaged
    · intro other member
      dsimp only at member ⊢
      rw [walked.page]
      dsimp only
      by_cases here : other = rxb
      · rw [here, Function.update_self]
      · rw [Function.update_of_ne here]
        rw [walked.used, List.mem_append, List.mem_singleton] at member
        exact inv.unpaged other (member.resolve_right here)
  · rw [afterFrames_eq held walked]
    split
    · rw [walked.used]
      exact inv.nodup
    · dsimp only
      rw [walked.used]
      refine List.Nodup.append inv.nodup (List.nodup_singleton rxb) ?_
      rw [List.disjoint_singleton]
      intro member
      rw [inv.unpaged rxb member] at held
      cases held

/-- **No taker or more than one** leaves a page without an owner, or with too many. -/
theorem handleRb_unowned (inv : PageInv st) (held : st.page rxb = some p)
    (walked : Walked p ⟨st, false⟩ last taken)
    (other : taken.length + (if taken.isEmpty && env.mapped then 1 else 0) ≠ 1) :
    ¬ PagesOwned (afterFrames env rxb p last) := by
  intro owned
  obtain ⟨below, _⟩ := inv.of_page held
  have owner := inv.owner p
  have after := @afterFrames_owners st rxb p env last taken held walked p
  have same : (afterFrames env rxb p last).allocated = st.allocated ∧
      (afterFrames env rxb p last).freed = st.freed := by
    rw [afterFrames_eq held walked]
    split
    · exact ⟨walked.allocated, walked.freed⟩
    · exact ⟨walked.allocated, walked.freed⟩
  have one := owned.owner p (by rw [same.1]; exact below)
  rw [same.2] at one
  rw [if_pos rfl, if_pos rfl, takenBy_add] at after
  rw [if_pos below] at owner
  omega

/-- **Where the condition is met** the page is handed on once, and not read behind that. -/
theorem takenOnce_inv (inv : PageInv st) (held : st.page rxb = some p)
    (ran : run (rbTurn noReclaimCmds cmdQueue env p) (rxFuel env.content) (0, ⟨st, false⟩) = some last)
    (walked : Walked p ⟨st, false⟩ last
      (takers noReclaimCmds cmdQueue env.passes st.wanted (frames env.content)))
    (once : takenOnce env (takers noReclaimCmds cmdQueue env.passes st.wanted (frames env.content)) = true) :
    PageInv (afterFrames env rxb p last) := by
  obtain ⟨none, one⟩ := run_unread (inv.of_page held).2.2.2.2.2 ran
  unfold frames at walked once
  dsimp only at none one
  generalize takers noReclaimCmds cmdQueue env.passes st.wanted
    (framesFrom env.content (rxFuel env.content) 0) = taken at walked once none one
  have calm : last.st.readBehind = st.readBehind → last.st.readBehind = false :=
    fun same => same.trans inv.unread
  rcases taken with _ | ⟨⟨who, pkt⟩, _ | ⟨second, more⟩⟩
  · exact handleRb_inv inv held walked (by rw [show env.mapped = true from once]; rfl) (calm (none rfl))
  · cases who with
    | issuer => exact handleRb_inv inv held walked rfl (calm (none rfl))
    | stack =>
      refine handleRb_inv inv held walked rfl ?_
      rw [one pkt rfl, inv.unread, Bool.false_or]
      exact (Bool.not_eq_true' _).mp once
  · cases who <;> exact (nomatch once)

/-- **Where it is not met** the page has no owner or too many, or it is read behind the stack. -/
theorem takenOnce_unowned (inv : PageInv st) (held : st.page rxb = some p)
    (ran : run (rbTurn noReclaimCmds cmdQueue env p) (rxFuel env.content) (0, ⟨st, false⟩) = some last)
    (walked : Walked p ⟨st, false⟩ last
      (takers noReclaimCmds cmdQueue env.passes st.wanted (frames env.content)))
    (not : takenOnce env (takers noReclaimCmds cmdQueue env.passes st.wanted (frames env.content)) = false) :
    ¬ PagesOwned (afterFrames env rxb p last) := by
  obtain ⟨_, one⟩ := run_unread (inv.of_page held).2.2.2.2.2 ran
  unfold frames at walked not
  dsimp only at one
  generalize takers noReclaimCmds cmdQueue env.passes st.wanted
    (framesFrom env.content (rxFuel env.content) 0) = taken at walked not one
  rcases taken with _ | ⟨⟨who, pkt⟩, _ | ⟨second, more⟩⟩
  · exact handleRb_unowned inv held walked (by rw [show env.mapped = false from not]; decide)
  · cases who with
    | issuer => exact (nomatch not)
    | stack =>
      intro owned
      have room : decide (pkt.offset + frameStride pkt + minFrame < env.content.maxLen) = true :=
        (Bool.not_eq_false' _).mp not
      have read : (afterFrames env rxb p last).readBehind = last.st.readBehind := by
        rw [afterFrames_eq held walked]
        split <;> rfl
      have unread := owned.unread
      rw [read, one pkt rfl, room, Bool.or_true] at unread
      cases unread
  · refine handleRb_unowned inv held walked ?_
    rw [List.length_cons, List.length_cons]
    omega

end HandleRb

/-! ### Every run -/

theorem poolOf_nodup (numAlloc : Nat) : (poolOf numAlloc).Nodup := (List.nodup_finRange _).filter _

/-- The pages of the pool are forgotten. -/
theorem rxInit_eq (numAlloc : Nat) (st : PageState) :
    rxInit numAlloc st = { st with page := fun _ => none, used := poolOf numAlloc } := by
  have idle : ∀ (pool : List PoolIndex) (st : PageState), pool.foldl (fun st rxb =>
      match st.page rxb with
      | none => st
      | some p => iwlFreePacket p st) st = st := by
    intro pool st
    induction pool with
    | nil => rfl
    | cons rxb later ih =>
      rw [List.foldl_cons]
      cases held : st.page rxb with
      | none => exact ih
      | some p => exact ih
  unfold rxInit
  rw [idle]

theorem rxHandleRb_eq (env : RbEnv) (rxb : PoolIndex) (p : Page) (st : PageState) :
    ∃ last, rxHandleRb noReclaimCmds cmdQueue env rxb p st = some (afterFrames env rxb p last) ∧
      run (rbTurn noReclaimCmds cmdQueue env p) (rxFuel env.content) (0, ⟨st, false⟩) = some last ∧
      Walked p ⟨st, false⟩ last (takers noReclaimCmds cmdQueue env.passes st.wanted (frames env.content)) := by
  obtain ⟨last, ran, walked⟩ := @run_rbTurn noReclaimCmds cmdQueue env p (rxFuel env.content) 0 ⟨st, false⟩
    (by unfold rxFuel; omega)
  refine ⟨last, ?_, ran, walked⟩
  unfold rxHandleRb
  rw [ran]
  rfl

/-- **A new page** has its descriptor for an owner, if it is mapped. -/
theorem allocPage_inv {st : PageState} (inv : PageInv st) {mapped : Bool}
    (keeps : (mapped || st.used.isEmpty) = true) : PageInv (allocPage mapped st) := by
  unfold allocPage
  cases waiting : st.used with
  | nil => exact inv
  | cons rxb rest =>
    rw [waiting, List.isEmpty_cons, Bool.or_false] at keeps
    dsimp only
    rw [keeps, if_pos rfl]
    have unpaged : ∀ other ∈ rxb :: rest, st.page other = none := waiting ▸ inv.unpaged
    have nodup : (rxb :: rest).Nodup := waiting ▸ inv.nodup
    refine ⟨fun p => ?_, inv.given, inv.unread, fun other member => ?_, (List.nodup_cons.mp nodup).2⟩
    · have owner := inv.owner p
      have moved := tally_update st.page rxb (some st.allocated) p
      rw [unpaged rxb List.mem_cons_self] at moved
      simp only [reduceCtorEq, if_false, Nat.add_zero, Option.some.injEq] at moved
      unfold PageState.owners at owner ⊢
      dsimp only
      rw [moved]
      obtain rfl | new := eq_or_ne st.allocated p
      · rw [if_neg (Nat.lt_irrefl _)] at owner
        rw [if_pos rfl, if_pos (Nat.lt_succ_self _)]
        omega
      · have old : p < st.allocated + 1 ↔ p < st.allocated :=
          ⟨fun below => Nat.lt_of_le_of_ne (Nat.le_of_lt_succ below) new.symm, Nat.lt_succ_of_lt⟩
        rw [if_neg new, Nat.add_zero, owner, if_congr old rfl rfl]
    · dsimp only
      have differ : other ≠ rxb := by
        rintro rfl
        exact (List.nodup_cons.mp nodup).1 member
      rw [Function.update_of_ne differ]
      exact unpaged other (List.mem_cons_of_mem _ member)

/-- **The stack frees** a page that it has. -/
theorem stackFrees_inv {st : PageState} (inv : PageInv st) {p : Page} (member : p ∈ st.stack) :
    PageInv { st with stack := st.stack.erase p, freed := st.freed ++ [p] } := by
  have moved : ∀ q, (st.stack.erase p).count q + (st.freed ++ [p]).count q =
      st.stack.count q + st.freed.count q := by
    intro q
    have := List.count_pos_iff.mpr member
    rw [count_handed]
    by_cases same : p = q
    · rw [← same, List.count_erase_self, if_pos rfl]
      omega
    · rw [List.count_erase_of_ne (Ne.symm same), if_neg same]
      omega
  refine ⟨fun q => ?_, fun q => ?_, inv.unread, inv.unpaged, inv.nodup⟩
  · have owner := inv.owner q
    have moved := moved q
    unfold PageState.owners at owner ⊢
    dsimp only at owner ⊢
    omega
  · rw [moved q]
    exact inv.given q

theorem pageStep_inv {st next : PageState} {act : PageAct} (inv : PageInv st)
    (keeps : keepsOwners noReclaimCmds cmdQueue st act = true)
    (stepped : pageStep noReclaimCmds cmdQueue st act = some next) : PageInv next := by
  cases act with
  | alloc mapped =>
    cases stepped
    exact allocPage_inv inv keeps
  | handleRb rxb env =>
    unfold pageStep at stepped
    dsimp only at stepped
    cases held : st.page rxb with
    | none =>
      rw [held] at stepped
      cases stepped
      exact inv
    | some p =>
      rw [held] at stepped
      dsimp only at stepped
      obtain ⟨last, handled, ran, walked⟩ := @rxHandleRb_eq noReclaimCmds cmdQueue env rxb p st
      rw [handled] at stepped
      cases stepped
      unfold keepsOwners at keeps
      have once := (of_decide_eq_true keeps).resolve_left (by rw [held]; exact Option.some_ne_none p)
      exact takenOnce_inv inv held ran walked once
  | enqueue slot wantSkb =>
    cases stepped
    exact ⟨inv.owner, inv.given, inv.unread, inv.unpaged, inv.nodup⟩
  | cancel slot =>
    cases stepped
    exact ⟨inv.owner, inv.given, inv.unread, inv.unpaged, inv.nodup⟩
  | freeResp p =>
    cases stepped
    rw [if_neg (of_decide_eq_true keeps)]
    exact inv
  | stackFrees p =>
    cases stepped
    split
    case isFalse _ => exact inv
    case isTrue member => exact stackFrees_inv inv member
  | init numAlloc =>
    cases stepped
    unfold keepsOwners at keeps
    have empty : ∀ rxb, st.page rxb = none := of_decide_eq_true keeps
    have same : (fun _ => none) = st.page := (funext empty).symm
    rw [rxInit_eq, same]
    refine ⟨fun p => ?_, inv.given, inv.unread, fun rxb _ => empty rxb, ?_⟩
    · have owner := inv.owner p
      unfold PageState.owners at owner ⊢
      exact owner
    · dsimp only
      exact poolOf_nodup numAlloc

/-- **A new page that is not mapped** has no owner. -/
theorem allocPage_unowned {st : PageState} (inv : PageInv st) (waits : st.used.isEmpty = false) :
    ¬ PagesOwned (allocPage false st) := by
  unfold allocPage
  cases waiting : st.used with
  | nil =>
    rw [waiting] at waits
    cases waits
  | cons rxb rest =>
    dsimp only
    rw [if_neg Bool.false_ne_true]
    intro owned
    have unpaged : st.page rxb = none := inv.unpaged rxb (waiting ▸ List.mem_cons_self)
    have owner := inv.owner st.allocated
    have one := owned.owner st.allocated (Nat.lt_succ_self st.allocated)
    have moved := tally_update st.page rxb none st.allocated
    rw [unpaged] at moved
    unfold iwlFreePacket PageState.owners at one
    unfold PageState.owners at owner
    dsimp only at one
    rw [if_neg (Nat.lt_irrefl _)] at owner
    omega

/-- **A response that its issuer lets go** is not freed. -/
theorem freeResp_unowned {st : PageState} (inv : PageInv st) {p : Page} (member : p ∈ st.issuers) :
    ¬ PagesOwned { iwlFreeResp p st with issuers := st.issuers.erase p } := by
  intro owned
  have held := List.count_pos_iff.mpr member
  have owner := inv.owner p
  unfold PageState.owners at owner
  split at owner
  case isTrue below =>
    have one := owned.owner p below
    unfold iwlFreeResp PageState.owners at one
    dsimp only at one
    rw [List.count_erase_self] at one
    omega
  case isFalse _ => omega

/-- **A page that the pool has** when it is made anew is forgotten. -/
theorem rxInit_unowned {st : PageState} (inv : PageInv st) {rxb : PoolIndex} {p : Page}
    (held : st.page rxb = some p) (numAlloc : Nat) : ¬ PagesOwned (rxInit numAlloc st) := by
  rw [rxInit_eq]
  intro owned
  obtain ⟨below, _, stack, issuers, freed, _⟩ := inv.of_page held
  have one := owned.owner p below
  unfold PageState.owners at one
  rw [tally_empty] at one
  dsimp only at one
  omega

/-- **The other steps leave a page unowned**, or owned twice, or read behind the stack. -/
theorem pageStep_unowned {st next : PageState} {act : PageAct} (inv : PageInv st)
    (loses : keepsOwners noReclaimCmds cmdQueue st act = false)
    (stepped : pageStep noReclaimCmds cmdQueue st act = some next) : ¬ PagesOwned next := by
  cases act with
  | alloc mapped =>
    cases stepped
    unfold keepsOwners at loses
    obtain ⟨rfl, waits⟩ := Bool.or_eq_false_iff.mp loses
    exact allocPage_unowned inv waits
  | handleRb rxb env =>
    unfold pageStep at stepped
    dsimp only at stepped
    have not := not_or.mp (of_decide_eq_false loses)
    cases held : st.page rxb with
    | none => exact absurd held not.1
    | some p =>
      rw [held] at stepped
      dsimp only at stepped
      obtain ⟨last, handled, ran, walked⟩ := @rxHandleRb_eq noReclaimCmds cmdQueue env rxb p st
      rw [handled] at stepped
      cases stepped
      exact takenOnce_unowned inv held ran walked (Bool.eq_false_of_not_eq_true not.2)
  | enqueue slot wantSkb => exact (nomatch loses)
  | cancel slot => exact (nomatch loses)
  | freeResp p =>
    cases stepped
    have member : p ∈ st.issuers := not_not.mp (of_decide_eq_false loses)
    rw [if_pos member]
    exact freeResp_unowned inv member
  | stackFrees p => exact (nomatch loses)
  | init numAlloc =>
    cases stepped
    unfold keepsOwners at loses
    obtain ⟨rxb, paged⟩ := not_forall.mp (of_decide_eq_false loses)
    obtain ⟨p, held⟩ := Option.ne_none_iff_exists'.mp paged
    exact rxInit_unowned inv held numAlloc

theorem pageStep_total (st : PageState) (act : PageAct) :
    ∃ next, pageStep noReclaimCmds cmdQueue st act = some next := by
  cases act with
  | handleRb rxb env =>
    unfold pageStep
    dsimp only
    split
    · exact ⟨_, rfl⟩
    case h_2 p _ =>
      obtain ⟨last, handled, _⟩ := @rxHandleRb_eq noReclaimCmds cmdQueue env rxb p st
      exact ⟨_, handled⟩
  | alloc _ => exact ⟨_, rfl⟩
  | enqueue _ _ => exact ⟨_, rfl⟩
  | cancel _ => exact ⟨_, rfl⟩
  | freeResp _ => exact ⟨_, rfl⟩
  | stackFrees _ => exact ⟨_, rfl⟩
  | init _ => exact ⟨_, rfl⟩

theorem pagesStart_inv : PageInv pagesStart :=
  ⟨fun _ => by unfold PageState.owners pagesStart; rw [tally_empty]; rfl, fun _ => Nat.le_refl 0, rfl,
    fun _ member => (nomatch member), List.nodup_nil⟩

/-- **Every page has one owner** all along exactly the runs where at most one frame of a page takes it, the
page is mapped again if none does, no header is read behind a frame for the stack, and no page comes to
`iwl_free_packet` or `iwl_free_resp` for good. -/
theorem pagesOwned_iff (noReclaimCmds : List Nat) (cmdQueue : Nat) (acts : List PageAct) :
    Always (pageStep noReclaimCmds cmdQueue) PagesOwned pagesStart acts ↔
      allowed (pageStep noReclaimCmds cmdQueue) (keepsOwners noReclaimCmds cmdQueue) pagesStart acts =
        true :=
  always_iff_allowed PageInv (fun _ _ _ inv keeps stepped => pageStep_inv inv keeps stepped)
    (fun _ inv => inv.sound) (fun _ _ _ inv loses stepped => pageStep_unowned inv loses stepped)
    pageStep_total pagesStart_inv

/-- An MPDU of 60 bytes. -/
def shortMpdu : Frame where
  lenNFlags := 60
  contents := [0xc1, 0, 0, 0x80] ++ List.replicate 56 0
  word := by decide
  notMarker := by decide
  length_eq := by decide

theorem order_zero : 0 < 20 := by decide

/-- Two of them arrive in one page. -/
def twoMpdus : List PageAct :=
  [.init 1, .alloc true,
    .handleRb ⟨0, by decide⟩ ⟨layPage 0 order_zero [shortMpdu, shortMpdu], fun pkt => pkt.cmd == 0xc1, true⟩]

theorem twoMpdus_givenTwice : ¬ Always (pageStep [] 9) PagesOwned pagesStart twoMpdus := by
  intro always
  have given : (IntelWifi.Machine.run (pageStep [] 9) pagesStart twoMpdus).map PageState.given =
      some [0, 0] := by decide +kernel
  obtain ⟨last, ran, twice⟩ := Option.map_eq_some_iff.mp given
  have once := (always_last always ran).once
  rw [twice] at once
  revert once
  decide

end IntelWifi.Pcie.RxPages
