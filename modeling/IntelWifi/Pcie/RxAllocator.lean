/-
**The allocator, page by page.**

`iwl_pcie_rx_allocator` is called by `iwl_pcie_rx_reuse_rbd` on the work loop of the interrupt, where nothing
else touches the lists and the counters meanwhile. For each request it wants eight pages: where a page is not
allocated or not mapped, the `for` loop begins anew with the same descriptor.

What the attempts come to is an infinite sequence. A turn here is one of the `for` loop, or the end of a
request; `attempts` says how many answers of the sequence were used.

* `rxAllocator_iff`: the call returns, with its descriptors in `rbd_empty` or `rbd_allocated`, exactly when the
  sequence has a page for each descriptor that the requests ask for.
* `rxAllocator_attempts`: with pages from some point on, it does what `Rxq.iwlPcieRxAllocator` does.
-/

import IntelWifi.Lib.Retry
import IntelWifi.Pcie.RxConservation

namespace IntelWifi.Pcie.RxAllocator

open IntelWifi.Loop Rxq

/-- The variables of `iwl_pcie_rx_allocator`. `pending` is a word that is counted down, so that a negative number of
requests is a large one. -/
structure AllocatorPass where
  st : RxState
  pending : Nat
  localEmpty : List Rxb
  localAllocated : List Rxb
  i : Nat
  attempts : Nat

/-- The end of a request: `pending` is counted down and `req_pending` read again, and the lists are
concatenated. -/
def endRequest (pass : AllocatorPass) : AllocatorPass :=
  { pass with
    st := { pass.st with
      reqPending := if pass.pending - 1 = 0 then 0 else pass.st.reqPending
      rbdAllocated := pass.st.rbdAllocated ++ pass.localAllocated
      rbdEmpty := []
      reqReady := pass.st.reqReady + 1 }
    pending := if pass.pending - 1 = 0 then pass.st.reqPending else pass.pending - 1
    localEmpty := pass.localEmpty ++ pass.st.rbdEmpty
    localAllocated := []
    i := 0 }

/-- The attempt at a page for the first descriptor of `local_empty`. -/
def attempt (pass : AllocatorPass) (rxb : Rxb) (rest : List Rxb) : PageAttempt → AllocatorPass
  | .page =>
    { pass with
      st := { pass.st with page := Function.update pass.st.page rxb true }
      localEmpty := rest
      localAllocated := pass.localAllocated ++ [rxb]
      i := pass.i + 1
      attempts := pass.attempts + 1 }
  | .noPage => { pass with attempts := pass.attempts + 1 }
  | .notMapped =>
    { pass with
      st := { pass.st with page := Function.update pass.st.page rxb false }
      attempts := pass.attempts + 1 }

/-- One turn. -/
def allocatorTurn (outcomes : Nat → PageAttempt) (pass : AllocatorPass) : Turn AllocatorPass RxState :=
  if pass.pending = 0 then .leave { pass.st with rbdEmpty := pass.st.rbdEmpty ++ pass.localEmpty }
  else if pass.i < rxClaimReqAlloc then
    match pass.localEmpty with
    | [] => .again (endRequest pass)
    | rxb :: rest => .again (attempt pass rxb rest (outcomes pass.attempts))
  else .again (endRequest pass)

/-- The lists and the counter are swapped out. -/
def allocatorStart (st : RxState) : AllocatorPass where
  st := { st with reqPending := 0, rbdEmpty := [] }
  pending := st.reqPending
  localEmpty := st.rbdEmpty
  localAllocated := []
  i := 0
  attempts := 0

/-- `iwl_pcie_rx_allocator` with at most `fuel` turns. -/
def iwlPcieRxAllocator (outcomes : Nat → PageAttempt) (fuel : Nat) (st : RxState) : Option RxState :=
  run (allocatorTurn outcomes) fuel (allocatorStart st)

/-! ### The property and its condition -/

/-- **The call returns**, with each descriptor of the two lists of the allocator in one of them. -/
def Returns (outcomes : Nat → PageAttempt) (st : RxState) : Prop :=
  ∃ fuel after, iwlPcieRxAllocator outcomes fuel st = some after ∧
    (after.rbdEmpty ++ after.rbdAllocated).Perm (st.rbdEmpty ++ st.rbdAllocated)

/-- The descriptors that the requests ask for and the list has. -/
def asked (st : RxState) : Nat := min (rxClaimReqAlloc * st.reqPending) st.rbdEmpty.length

/-- **The condition**: so many of the attempts come to a page. -/
def EnoughPages (outcomes : Nat → PageAttempt) (st : RxState) : Prop :=
  ∃ n, asked st ≤ Nat.count (fun k => outcomes k = .page) n

/-! ### One turn -/

variable {outcomes : Nat → PageAttempt} {pass next : AllocatorPass}

/-- What a turn that does not leave does. -/
theorem allocatorTurn_again (turn : allocatorTurn outcomes pass = .again next) :
    0 < pass.pending ∧
      ((rxClaimReqAlloc ≤ pass.i ∨ pass.localEmpty = []) ∧ next = endRequest pass ∨
        ∃ rxb rest, pass.i < rxClaimReqAlloc ∧ pass.localEmpty = rxb :: rest ∧
          next = attempt pass rxb rest (outcomes pass.attempts)) := by
  unfold allocatorTurn at turn
  by_cases done : pass.pending = 0
  · rw [if_pos done] at turn
    cases turn
  refine ⟨Nat.pos_of_ne_zero done, ?_⟩
  rw [if_neg done] at turn
  by_cases more : pass.i < rxClaimReqAlloc
  · rw [if_pos more] at turn
    cases empty : pass.localEmpty with
    | nil =>
      rw [empty] at turn
      exact .inl ⟨.inr rfl, (Turn.again.inj turn).symm⟩
    | cons rxb rest =>
      rw [empty] at turn
      exact .inr ⟨rxb, rest, more, rfl, (Turn.again.inj turn).symm⟩
  · rw [if_neg more] at turn
    exact .inl ⟨.inl (not_lt.mp more), (Turn.again.inj turn).symm⟩

theorem allocatorTurn_leave {after : RxState} (turn : allocatorTurn outcomes pass = .leave after) :
    pass.pending = 0 ∧ after = { pass.st with rbdEmpty := pass.st.rbdEmpty ++ pass.localEmpty } := by
  unfold allocatorTurn at turn
  by_cases done : pass.pending = 0
  · rw [if_pos done] at turn
    exact ⟨done, (Turn.leave.inj turn).symm⟩
  · rw [if_neg done] at turn
    split_ifs at turn
    · split at turn <;> cases turn

/-- Nothing was requested and nothing put into `rbd_empty` since the call began, and `local_allocated` holds
what this request moved. -/
structure Inside (all : List Rxb) (pass : AllocatorPass) : Prop where
  quiet : pass.st.reqPending = 0
  empty : pass.st.rbdEmpty = []
  most : pass.i ≤ rxClaimReqAlloc
  none : pass.pending = 0 → pass.localAllocated = []
  kept : (pass.localEmpty ++ (pass.st.rbdAllocated ++ pass.localAllocated)).Perm all

theorem inside_start (st : RxState) : Inside (st.rbdEmpty ++ st.rbdAllocated) (allocatorStart st) :=
  ⟨rfl, rfl, Nat.zero_le _, fun _ => rfl, by rw [allocatorStart, List.append_nil]⟩

/-- **A turn loses no descriptor.** -/
theorem Inside.again {all : List Rxb} (inside : Inside all pass)
    (turn : allocatorTurn outcomes pass = .again next) : Inside all next := by
  obtain ⟨pending, ⟨-, rfl⟩ | ⟨rxb, rest, more, first, rfl⟩⟩ := allocatorTurn_again turn
  · refine ⟨?_, rfl, Nat.zero_le _, fun _ => rfl, ?_⟩
    · dsimp only [endRequest]
      rw [inside.quiet, ite_self]
    · dsimp only [endRequest]
      rw [inside.empty, List.append_nil, List.append_nil]
      exact inside.kept
  · cases outcomes pass.attempts with
    | page =>
      refine ⟨inside.quiet, inside.empty, more, fun done => absurd done pending.ne', ?_⟩
      have kept := inside.kept
      rw [first] at kept
      refine List.Perm.trans ?_ kept
      dsimp only [attempt]
      rw [← List.append_assoc, ← List.append_assoc, List.cons_append, ← List.append_assoc]
      exact List.perm_append_singleton ..
    | noPage => exact ⟨inside.quiet, inside.empty, inside.most, inside.none, inside.kept⟩
    | notMapped => exact ⟨inside.quiet, inside.empty, inside.most, inside.none, inside.kept⟩

/-- What the rest of the call needs. -/
def need (pass : AllocatorPass) : Nat :=
  min (rxClaimReqAlloc * pass.pending - pass.i) pass.localEmpty.length

/-- The end of a request changes nothing in what is needed. -/
theorem need_endRequest {all : List Rxb} (inside : Inside all pass) (pending : 0 < pass.pending)
    (ended : rxClaimReqAlloc ≤ pass.i ∨ pass.localEmpty = []) : need (endRequest pass) = need pass := by
  have next : (endRequest pass).pending = pass.pending - 1 := by
    dsimp only [endRequest]
    rw [inside.quiet]
    split_ifs with last
    · exact last.symm
    · rfl
  have empty : (endRequest pass).localEmpty = pass.localEmpty := by
    dsimp only [endRequest]
    rw [inside.empty, List.append_nil]
  rw [need, need, next, empty, show (endRequest pass).i = 0 from rfl]
  rcases ended with full | none
  · have most := inside.most
    unfold rxClaimReqAlloc at *
    omega
  · rw [none, List.length_nil, Nat.min_zero, Nat.min_zero]

/-- **The allocator retries**: a page is what lowers its need. -/
theorem allocator_retries (outcomes : Nat → PageAttempt) (all : List Rxb) :
    Retries (allocatorTurn outcomes) (fun k => outcomes k = .page) (Inside all) AllocatorPass.attempts need
      AllocatorPass.pending where
  keeps _ _ inside turn := inside.again turn
  turn pass next inside turn := by
    obtain ⟨pending, ⟨ended, rfl⟩ | ⟨rxb, rest, more, first, rfl⟩⟩ := allocatorTurn_again turn
    · refine .inr ⟨rfl, need_endRequest inside pending ended, ?_⟩
      dsimp only [endRequest]
      rw [inside.quiet]
      split_ifs <;> omega
    · have needs : 0 < need pass := by
        rw [need, first, List.length_cons]
        unfold rxClaimReqAlloc at *
        omega
      refine .inl ?_
      cases outcomes pass.attempts with
      | page =>
        refine ⟨rfl, rfl, needs, ?_⟩
        rw [if_pos rfl, need, need, first, List.length_cons]
        dsimp only [attempt]
        unfold rxClaimReqAlloc at *
        omega
      | noPage => exact ⟨rfl, rfl, needs, rfl⟩
      | notMapped => exact ⟨rfl, rfl, needs, rfl⟩
  leaves pass after inside turn := by
    rw [need, (allocatorTurn_leave turn).1, Nat.mul_zero, Nat.zero_sub, Nat.zero_min]

/-! ### The call -/

/-- **Where the call returns, no descriptor is lost.** -/
theorem rxAllocator_kept {fuel : Nat} {st after : RxState}
    (ran : iwlPcieRxAllocator outcomes fuel st = some after) :
    (after.rbdEmpty ++ after.rbdAllocated).Perm (st.rbdEmpty ++ st.rbdAllocated) := by
  refine run_of_heads (Inside (st.rbdEmpty ++ st.rbdAllocated))
    (fun after => (after.rbdEmpty ++ after.rbdAllocated).Perm (st.rbdEmpty ++ st.rbdAllocated))
    (inside_start st) (fun _ _ inside turn => inside.again turn) ?_ ran
  rintro pass after inside turn
  obtain ⟨done, rfl⟩ := allocatorTurn_leave turn
  have kept := inside.kept
  rw [inside.none done, List.append_nil] at kept
  dsimp only
  rw [inside.empty, List.nil_append]
  exact kept

theorem rxAllocator_returns_iff (outcomes : Nat → PageAttempt) (st : RxState) :
    (∃ fuel after, iwlPcieRxAllocator outcomes fuel st = some after) ↔ EnoughPages outcomes st :=
  (allocator_retries outcomes _).returns_iff rfl (inside_start st)

/-- **The calls that return**: the attempts come to a page once for each descriptor asked for. -/
theorem rxAllocator_iff (outcomes : Nat → PageAttempt) (st : RxState) :
    Returns outcomes st ↔ EnoughPages outcomes st := by
  rw [← rxAllocator_returns_iff]
  constructor
  · rintro ⟨fuel, after, ran, -⟩
    exact ⟨fuel, after, ran⟩
  · rintro ⟨fuel, after, ran⟩
    exact ⟨fuel, after, ran, rxAllocator_kept ran⟩

/-- The allocator has its pool and two descriptors that were used, and `iwl_pcie_rx_reuse_rbd` has posted the
request. -/
def oneRequest : RxState := { handOver { rxPools [] with rxUsed := [6, 7] } with reqPending := 1 }

/-- **With no page to be had the first request never ends.** -/
theorem rxAllocator_stuck : ¬ Returns (fun _ => .noPage) oneRequest := by
  rintro ⟨fuel, after, ran, -⟩
  obtain ⟨n, enough⟩ := (rxAllocator_returns_iff _ _).mp ⟨fuel, after, ran⟩
  rw [Nat.count_of_forall_not fun _ _ => PageAttempt.noConfusion] at enough
  revert enough
  decide

/-! ### With pages from some point on -/

/-- The attempts of a list, and pages behind its end. -/
def outcomesOf (attempts : List PageAttempt) (k : Nat) : PageAttempt := attempts[k]?.getD .page

/-- The pass is in this state, in which the attempts that were used are off the list. -/
structure Follows (attempts : List PageAttempt) (pass : AllocatorPass) (st : RxState) : Prop where
  state : pass.st = { st with attempts := attempts }
  left : st.attempts = attempts.drop pass.attempts

section Follows

variable {attempts : List PageAttempt} {st : RxState} {rxb : Rxb} {rest : List Rxb}

theorem outcomesOf_of_drop {k : Nat} {outcome : PageAttempt} {left : List PageAttempt}
    (here : attempts.drop k = outcome :: left) : outcomesOf attempts k = outcome := by
  rw [outcomesOf, ← List.head?_drop, here]
  rfl

theorem allocatorTurn_attempt (pending : 0 < pass.pending) (more : pass.i < rxClaimReqAlloc)
    (first : pass.localEmpty = rxb :: rest) {outcome : PageAttempt}
    (here : outcomes pass.attempts = outcome) :
    allocatorTurn outcomes pass = .again (attempt pass rxb rest outcome) := by
  rw [allocatorTurn, if_neg pending.ne', if_pos more, first, ← here]

theorem allocatorTurn_end (pending : 0 < pass.pending)
    (ended : rxClaimReqAlloc ≤ pass.i ∨ pass.localEmpty = []) :
    allocatorTurn outcomes pass = .again (endRequest pass) := by
  rw [allocatorTurn, if_neg pending.ne']
  rcases ended with full | none
  · rw [if_neg (not_lt.mpr full)]
  · rw [none, ite_self]

/-- **One descriptor**: its page comes when the attempts up to it are used. -/
theorem heads_page (pending : 0 < pass.pending) (more : pass.i < rxClaimReqAlloc)
    (first : pass.localEmpty = rxb :: rest) {left : List PageAttempt} (here : attempts.drop pass.attempts = left) :
    ∃ used, attempts.drop used = untilPage left ∧
      Heads (allocatorTurn (outcomesOf attempts)) pass
        { attempt pass rxb rest .page with attempts := used } := by
  induction left generalizing pass with
  | nil =>
    have last : outcomesOf attempts pass.attempts = .page := by
      rw [outcomesOf, ← List.head?_drop, here]
      rfl
    refine ⟨pass.attempts + 1, ?_, .again .start (allocatorTurn_attempt pending more first last)⟩
    rw [← List.tail_drop, here]
    rfl
  | cons outcome left ih =>
    have turn := allocatorTurn_attempt pending more first (outcomesOf_of_drop here)
    have later : attempts.drop (pass.attempts + 1) = left := by
      rw [← List.tail_drop, here]
      rfl
    cases outcome with
    | page => exact ⟨pass.attempts + 1, later, .again .start turn⟩
    | noPage =>
      obtain ⟨used, same, heads⟩ := @ih (attempt pass rxb rest .noPage) pending more first later
      exact ⟨used, same, heads.cons turn⟩
    | notMapped =>
      obtain ⟨used, same, heads⟩ := @ih (attempt pass rxb rest .notMapped) pending more first later
      refine ⟨used, same, ?_⟩
      have heads := heads.cons turn
      dsimp only [attempt] at heads ⊢
      rwa [Function.update_idem] at heads

/-- **One request.** -/
theorem heads_batch {wanted : Nat} (pending : 0 < pass.pending) (room : pass.i + wanted = rxClaimReqAlloc)
    (follows : Follows attempts pass st) {batch : RxState × List Rxb × List Rxb}
    (ran : allocatorBatch wanted st pass.localEmpty pass.localAllocated = batch) :
    ∃ last, Heads (allocatorTurn (outcomesOf attempts)) pass (endRequest last) ∧
      Follows attempts last batch.1 ∧ last.pending = pass.pending ∧ last.localEmpty = batch.2.1 ∧
      last.localAllocated = batch.2.2 := by
  induction wanted generalizing pass st with
  | zero =>
    rw [allocatorBatch] at ran
    · subst ran
      exact ⟨pass, .again .start (allocatorTurn_end pending (.inl room.ge)), follows, rfl, rfl, rfl⟩
    · intro _ _ _ none
      cases none
  | succ wanted ih =>
    cases first : pass.localEmpty with
    | nil =>
      rw [first, allocatorBatch] at ran
      · subst ran
        exact ⟨pass, .again .start (allocatorTurn_end pending (.inr first)), follows, rfl, first, rfl⟩
      · intro _ _ _ _ none
        cases none
    | cons rxb rest =>
      rw [first, allocatorBatch] at ran
      obtain ⟨used, left, heads⟩ := heads_page pending (show pass.i < rxClaimReqAlloc by omega) first
        follows.left.symm
      obtain ⟨last, later, rest⟩ := @ih { attempt pass rxb rest .page with attempts := used } _ pending
        (by dsimp only [attempt]; omega) ⟨by dsimp only [attempt]; rw [follows.state], left.symm⟩ ran
      exact ⟨last, heads.trans later, rest⟩

/-- **All requests.** -/
theorem heads_loop {bound : Nat} (fits : pass.pending ≤ bound) (quiet : st.reqPending = 0)
    (fresh : pass.i = 0 ∧ pass.localAllocated = []) (follows : Follows attempts pass st)
    {ends : RxState × List Rxb} (ran : allocatorLoop bound pass.pending st pass.localEmpty = ends) :
    ∃ last, Heads (allocatorTurn (outcomesOf attempts)) pass last ∧ last.pending = 0 ∧
      Follows attempts last ends.1 ∧ last.localEmpty = ends.2 := by
  induction bound generalizing pass st with
  | zero =>
    rw [allocatorLoop] at ran
    · subst ran
      exact ⟨pass, .start, Nat.le_zero.mp fits, follows, rfl⟩
    · intro _ _ none
      cases none
  | succ bound ih =>
    cases requests : pass.pending with
    | zero =>
      rw [requests, allocatorLoop] at ran
      · subst ran
        exact ⟨pass, .start, requests, follows, rfl⟩
      · intro _ _ _ none
        cases none
    | succ later =>
      obtain ⟨page, left, batch⟩ := allocatorBatch_eq rxClaimReqAlloc st pass.localEmpty []
      rw [requests, allocatorLoop, batch] at ran
      obtain ⟨last, heads, state, pending, empty, allocated⟩ := heads_batch
        (show 0 < pass.pending by omega) (by rw [fresh.1, Nat.zero_add]) follows (fresh.2 ▸ batch)
      rw [requests] at pending
      have again : (endRequest last).pending = if later = 0 then st.reqPending else later := by
        rw [endRequest, pending, state.state, Nat.add_sub_cancel]
      have sameEmpty : (endRequest last).localEmpty = pass.localEmpty.drop rxClaimReqAlloc ++ st.rbdEmpty := by
        rw [endRequest, empty, state.state]
      have served : Follows attempts (endRequest last) { st with
          reqPending := if later = 0 then 0 else st.reqPending
          rbdAllocated := st.rbdAllocated ++ pass.localEmpty.take rxClaimReqAlloc
          rbdEmpty := []
          reqReady := st.reqReady + 1
          page := page
          attempts := left } := by
        refine ⟨?_, state.left⟩
        rw [endRequest, pending, allocated, state.state, fresh.2, Nat.add_sub_cancel]
        rfl
      obtain ⟨final, rest, ends⟩ := ih (by rw [again, quiet]; split_ifs <;> omega)
        (by dsimp only; rw [quiet, ite_self]) ⟨rfl, rfl⟩ served (by rw [again, sameEmpty]; exact ran)
      exact ⟨final, heads.trans rest, ends⟩

end Follows

/-- **With pages behind the attempts of a list** the call does what `Rxq.iwlPcieRxAllocator` does. -/
theorem rxAllocator_attempts (st : RxState) :
    ∃ fuel, iwlPcieRxAllocator (outcomesOf st.attempts) fuel st =
      some { Rxq.iwlPcieRxAllocator st with attempts := st.attempts } := by
  obtain ⟨last, heads, done, follows, rest⟩ := @heads_loop (allocatorStart st) _
    { st with reqPending := 0, rbdEmpty := [] } _ le_rfl rfl ⟨rfl, rfl⟩ ⟨rfl, rfl⟩ _ rfl
  obtain ⟨turns, same⟩ := heads.run_eq
  refine ⟨1 + turns, ?_⟩
  rw [iwlPcieRxAllocator, same, run_leave (by rw [allocatorTurn, if_pos done]), follows.state, rest]
  rfl

end IntelWifi.Pcie.RxAllocator
