/-
**What the calls of power modes and commits do.**

Each function gets one lemma that says all that a call can come to; the lemmas after these cite it. A commit and a
context's turn in `iwl_update_chain_flags` are taken apart from the power mode in their end, with which they nest.

* `setTxPower_cases`, `committed_cases`, `powerSetMode_cases`: what a call does.
* `commitRxon_update`, `updateChain_update`: when it goes on to update the power mode.
* `powerSetMode_keeps`: what each turn keeps, `iwl_power_set_mode` keeps.
-/

import IntelWifi.Dvm.PowerCommit

namespace IntelWifi.Dvm.Power

open Rxon

variable (dev : Device) (env : Setup)

/-! ### One commit -/

/-- What a call of `iwl_set_tx_power` comes to. -/
inductive SetsTxPower (st : Priv) (txPower : Int) (force : Bool) : Ret × Priv → Prop
  | disabled : dev.calibDisabled = true → SetsTxPower st txPower force (.ok, st)
  | unchanged : dev.calibDisabled = false → st.tx.txPowerUserLmt = txPower → force = false →
      SetsTxPower st txPower force (.ok, st)
  | outOfRange : dev.inRange txPower = false → SetsTxPower st txPower force (.einval, st)
  | refused : dev.readyRf = false → SetsTxPower st txPower force (.eio, st)
  | deferred : dev.calibDisabled = false → dev.inRange txPower = true → dev.readyRf = true →
      (st.phase ≠ .none ∨ ¬ st.bssEqual) → force = false → st.tx.txPowerUserLmt ≠ txPower →
      SetsTxPower st txPower force (.ok, { st with tx := { st.tx with txPowerNext := txPower } })
  /-- The device scans, and the command was to be sent at once: what was requested is dropped. -/
  | scans : force = true → st.phase = .hw → dev.inRange txPower = true →
      SetsTxPower st txPower force (.eagain, { st with tx := { st.tx with txPowerNext := st.tx.txPowerUserLmt } })
  | failed : env.txPowerReply st.tx.sent = false →
      SetsTxPower st txPower force (.failed, { st with tx := { st.tx with
        txPowerNext := st.tx.txPowerUserLmt, sent := st.tx.sent + 1 } })
  | sent : dev.calibDisabled = false → dev.inRange txPower = true → dev.readyRf = true → st.phase ≠ .hw →
      env.txPowerReply st.tx.sent = true → SetsTxPower st txPower force (.ok, { st with tx := {
        txPowerUserLmt := txPower, txPowerNext := txPower
        globalLmt := some (globalLmt dev txPower), sent := st.tx.sent + 1 } })

/-- **What a call of `iwl_set_tx_power` does.** -/
theorem setTxPower_cases (st : Priv) (txPower : Int) (force : Bool) :
    SetsTxPower dev env st txPower force (iwlSetTxPower dev env st txPower force) := by
  unfold iwlSetTxPower
  cases calib : dev.calibDisabled with
  | true => exact .disabled calib
  | false =>
    rw [if_neg Bool.false_ne_true]
    by_cases same : st.tx.txPowerUserLmt = txPower ∧ force = false
    · rw [if_pos same]
      exact .unchanged calib same.1 same.2
    · rw [if_neg same]
      cases range : dev.inRange txPower with
      | false => exact .outOfRange range
      | true =>
        cases ready : dev.readyRf with
        | false => exact .refused ready
        | true =>
          rw [Bool.not_true, if_neg Bool.false_ne_true, if_neg Bool.false_ne_true]
          dsimp only
          split
          case isTrue defer => exact .deferred calib range ready defer.1 defer.2 fun equal => same ⟨equal, defer.2⟩
          case isFalse defer =>
            unfold iwlagnSendTxPower
            dsimp only
            by_cases hw : st.phase = .hw
            · rw [if_pos hw]
              refine .scans ?_ hw range
              by_contra plain
              refine defer ⟨Or.inl fun idle => ?_, Bool.eq_false_iff.mpr plain⟩
              rw [hw] at idle
              cases idle
            · rw [if_neg hw]
              cases reply : env.txPowerReply st.tx.sent with
              | false => exact .failed reply
              | true => exact .sent calib range ready hw reply

/-- It changes TX data only. -/
theorem setTxPower_tx (st : Priv) (txPower : Int) (force : Bool) :
    ∃ tx, (iwlSetTxPower dev env st txPower force).2 = { st with tx := tx } := by
  have cases := setTxPower_cases dev env st txPower force
  generalize iwlSetTxPower dev env st txPower force = result at cases
  cases cases <;> exact ⟨_, rfl⟩

/-- `iwlagn_commit_rxon` gets past its checks. -/
def Setup.committable (st : Priv) (ctx : CtxId) : Bool :=
  let call := env.call st ctx
  call.alive && call.isActive && iwlCheckRxonCmd call.prepared

/-- Only a full RXON can set what is staged. -/
def Setup.full (st : Priv) (ctx : CtxId) : Bool :=
  iwlFullRxonRequired (env.call st ctx).prepared (st.rxon.active ctx)

/-- The commit of a context gets to RXON_ASSOC, and the command passes. -/
def Setup.fast (st : Priv) (ctx : CtxId) : Bool :=
  let call := env.call st ctx
  env.committable st ctx && !env.full st ctx &&
    (sameRxonAssoc call.prepared (st.rxon.active ctx) || (call.reply .rxonAssoc).passed)

/-- What a commit does before it updates the power mode. -/
def committed (st : Priv) (ctx : CtxId) : Priv :=
  let call := env.call st ctx
  let st := st.count
  if !(call.alive && call.isActive) then st
  else if !iwlCheckRxonCmd call.prepared then st.stage ctx call.prepared
  else if !iwlFullRxonRequired call.prepared (st.rxon.active ctx) then
    (fastRxon dev env call (st.stage ctx call.prepared)).2
  else (fullRxon dev env call (st.stage ctx call.image)).2

theorem sendRxonAssoc_failed (call : CommitCall) (st : RxonState) : (iwlagnSendRxonAssoc call st).1.isSome =
    !(sameRxonAssoc call.prepared (st.active call.ctx) || (call.reply .rxonAssoc).passed) := by
  unfold iwlagnSendRxonAssoc
  cases sameRxonAssoc call.prepared (st.active call.ctx) with
  | true => rfl
  | false => cases (call.reply .rxonAssoc).passed <;> rfl

theorem sendRxonAssoc_active (call : CommitCall) (st : RxonState) :
    (iwlagnSendRxonAssoc call st).2.active = st.active := by
  unfold iwlagnSendRxonAssoc
  cases sameRxonAssoc call.prepared (st.active call.ctx) with
  | true => rfl
  | false => cases (call.reply .rxonAssoc).passed <;> rfl

/-- The fast path's return value. -/
theorem fastRxon_ret (call : CommitCall) (st : Priv) : (fastRxon dev env call st).1 =
    if sameRxonAssoc call.prepared (st.rxon.active call.ctx) || (call.reply .rxonAssoc).passed then .ok
    else .failed := by
  unfold fastRxon
  dsimp only
  rw [sendRxonAssoc_failed]
  cases (sameRxonAssoc call.prepared (st.rxon.active call.ctx) || (call.reply .rxonAssoc).passed) <;> rfl

/-- **A commit, apart from the power mode**: only after an RXON_ASSOC it is updated. -/
theorem commitRxon_update (update : Priv → Option Priv) (st : Priv) (ctx : CtxId) :
    (iwlagnCommitRxon dev env update st ctx).map Prod.snd =
      if env.fast st ctx then update (committed dev env st ctx) else some (committed dev env st ctx) := by
  cases alive : (env.call st ctx).alive with
  | false => simp [iwlagnCommitRxon, committed, Setup.fast, Setup.committable, alive]
  | true =>
    cases isActive : (env.call st ctx).isActive with
    | false => simp [iwlagnCommitRxon, committed, Setup.fast, Setup.committable, alive, isActive]
    | true =>
      cases check : iwlCheckRxonCmd (env.call st ctx).prepared with
      | false => simp [iwlagnCommitRxon, committed, Setup.fast, Setup.committable, alive, isActive, check]
      | true =>
        cases full : iwlFullRxonRequired (env.call st ctx).prepared (st.rxon.active ctx) with
        | true =>
          simp [iwlagnCommitRxon, committed, Setup.fast, Setup.full, Priv.count, alive, isActive, check, full]
        | false =>
          have ret := fastRxon_ret dev env (env.call st ctx) (st.count.stage ctx (env.call st ctx).prepared)
          generalize ran : fastRxon dev env (env.call st ctx) (st.count.stage ctx (env.call st ctx).prepared) = result
            at ret
          obtain ⟨_, mid⟩ := result
          have same : st.count.rxon = st.rxon := rfl
          have fast : env.fast st ctx = (sameRxonAssoc (env.call st ctx).prepared (st.rxon.active ctx) ||
              ((env.call st ctx).reply .rxonAssoc).passed) := by
            simp [Setup.fast, Setup.committable, Setup.full, alive, isActive, check, full]
          have mid_eq : committed dev env st ctx = mid := by
            simp [committed, alive, isActive, check, full, same, ran]
          rw [show (sameRxonAssoc (env.call st ctx).prepared
            ((st.count.stage ctx (env.call st ctx).prepared).rxon.active (env.call st ctx).ctx) ||
              ((env.call st ctx).reply .rxonAssoc).passed) = env.fast st ctx from fast.symm] at ret
          rw [mid_eq]
          cases passes : env.fast st ctx with
          | false =>
            rw [passes] at ret
            dsimp only at ret
            subst ret
            simp [iwlagnCommitRxon, alive, isActive, check, full, same, ran]
          | true =>
            rw [passes] at ret
            dsimp only at ret
            subst ret
            simp [iwlagnCommitRxon, alive, isActive, check, full, same, ran]

/-- What a commit of a context makes of a state, before it updates the power mode. -/
inductive Commits (st : Priv) (ctx : CtxId) : Priv → Prop
  | idle : ((env.call st ctx).alive && (env.call st ctx).isActive) = false → Commits st ctx st.count
  | invalid : iwlCheckRxonCmd (env.call st ctx).prepared = false →
      Commits st ctx (st.count.stage ctx (env.call st ctx).prepared)
  /-- RXON_ASSOC is not sent. -/
  | unsent (rxon : RxonState) : env.fast st ctx = false → ((env.call st ctx).reply .rxonAssoc).passed = false →
      rxon.active = st.rxon.active →
      Commits st ctx { st.count.stage ctx (env.call st ctx).prepared with rxon := rxon }
  | fast (rxon : RxonState) : env.fast st ctx = true →
      rxon.active = Function.update st.rxon.active ctx (env.call st ctx).prepared →
      Commits st ctx (iwlSetTxPower dev env { st.count.stage ctx (env.call st ctx).prepared with rxon := rxon }
        st.tx.txPowerNext false).2
  /-- The disconnection fails. -/
  | undone (rxon : RxonState) : env.full st ctx = true → (env.call st ctx).disconnects = false →
      rxon.active = st.rxon.active →
      Commits st ctx { st.count.stage ctx (env.call st ctx).image with rxon := rxon }
  /-- No connection follows, or it fails. -/
  | disconnected (rxon : RxonState) : env.committable st ctx = true → env.full st ctx = true →
      ((env.call st ctx).staging.assoc = true → ∃ command, (env.call st ctx).reply command ≠ .ok) →
      rxon.active = Function.update st.rxon.active ctx (env.call st ctx).image →
      Commits st ctx { st.count.stage ctx (env.call st ctx).image with rxon := rxon }
  | connected (rxon : RxonState) : env.committable st ctx = true → env.full st ctx = true →
      (env.call st ctx).staging.assoc = true →
      rxon.active = Function.update st.rxon.active ctx (env.call st ctx).image →
      Commits st ctx (iwlSetTxPower dev env { st.count.stage ctx (env.call st ctx).image with rxon := rxon }
        st.tx.txPowerNext true).2

/-- The connection: what is active, and that it ends with the TX power unless a command fails. -/
theorem rxonConnect_active (call : CommitCall) (st : RxonState) (already : st.active call.ctx = call.image) :
    (iwlagnRxonConnect call st).2.active = st.active ∧
      ((iwlagnRxonConnect call st).1.isSome = true → ∃ command, call.reply command ≠ .ok) := by
  have again (held : RxonState) (same : held.active = st.active) :
      (held.activate call.ctx call.image).active = st.active := by
    unfold RxonState.activate
    rw [same, ← already, Function.update_eq_self]
  have sent : (sendRxon call .connectRxon call.image st).active = st.active := by
    rw [sendRxon_eq]
    rfl
  have fails {command : CommitCommand} (failed : (call.reply command).passed = false) :
      ∃ command, call.reply command ≠ .ok :=
    ⟨command, fun ok => by rw [ok] at failed; cases failed⟩
  unfold iwlagnRxonConnect
  by_cases timing : call.ctx = .bss ∧ (call.reply .connectTiming).passed = false
  · rw [if_pos timing]
    exact ⟨rfl, fun _ => fails timing.2⟩
  · rw [if_neg timing]
    dsimp only
    cases rxon : (call.reply .connectRxon).passed with
    | false => exact ⟨sent, fun _ => fails rxon⟩
    | true =>
      cases power : (call.reply .txPower).passed with
      | false => exact ⟨again _ sent, fun _ => fails power⟩
      | true => exact ⟨again _ sent, fun failed => absurd failed Bool.false_ne_true⟩

/-- **The full RXON.** -/
theorem fullRxon_cases (call : CommitCall) (st : Priv) :
    (call.disconnects = false ∧ ∃ rxon : RxonState, rxon.active = st.rxon.active ∧
      (fullRxon dev env call st).2 = { st with rxon := rxon }) ∨
    ∃ rxon : RxonState, rxon.active = Function.update st.rxon.active call.ctx call.image ∧
      ((fullRxon dev env call st).2 = { st with rxon := rxon } ∧
          (call.staging.assoc = true → ∃ command, call.reply command ≠ .ok) ∨
        (fullRxon dev env call st).2 =
            (iwlSetTxPower dev env { st with rxon := rxon } st.tx.txPowerNext true).2 ∧
          call.staging.assoc = true) := by
  obtain ⟨passes, fails⟩ := rxonDisconn_spec call st.rxon
  cases disconnects : call.disconnects with
  | false =>
    obtain ⟨failed, after⟩ := fails disconnects
    refine Or.inl ⟨rfl, (iwlagnRxonDisconn call st.rxon).2, ?_, ?_⟩
    · rw [after]
      rfl
    · simp [fullRxon, failed]
  | true =>
    have after := passes disconnects
    generalize rxonOf : (st.rxon.hold call.ctx (call.disconnected (st.rxon.firmware call.ctx))).activate call.ctx
      call.image = rxon at after
    have active : rxon.active = Function.update st.rxon.active call.ctx call.image := rxonOf ▸ rfl
    refine Or.inr ?_
    cases pan : call.panActive && !(call.reply .panParams).passed with
    | true =>
      refine ⟨rxon, active, Or.inl ⟨?_, fun _ => ⟨.panParams, fun ok => ?_⟩⟩⟩
      · simp only [fullRxon, after, Option.isSome_none, Bool.false_eq_true, if_false, pan, if_true]
      · rw [ok, show Reply.ok.passed = true from rfl, Bool.not_true, Bool.and_false] at pan
        cases pan
    | false =>
      cases assoc : call.staging.assoc with
      | false =>
        refine ⟨rxon, active, Or.inl ⟨?_, fun other => absurd other Bool.false_ne_true⟩⟩
        simp only [fullRxon, after, Option.isSome_none, Bool.false_eq_true, if_false, pan, assoc]
      | true =>
        have already : rxon.active call.ctx = call.image := by
          rw [active, Function.update_self]
        obtain ⟨kept, fails⟩ := rxonConnect_active call rxon already
        refine ⟨(iwlagnRxonConnect call rxon).2, kept.trans active, ?_⟩
        cases failed : (iwlagnRxonConnect call rxon).1.isSome with
        | true =>
          refine Or.inl ⟨?_, fun _ => fails failed⟩
          simp only [fullRxon, after, Option.isSome_none, Bool.false_eq_true, if_false, pan, assoc, if_true, failed]
        | false =>
          refine Or.inr ⟨?_, rfl⟩
          simp only [fullRxon, after, Option.isSome_none, Bool.false_eq_true, if_false, pan, assoc, if_true, failed]

/-- **What a commit does** before it updates the power mode. -/
theorem committed_cases (st : Priv) (ctx : CtxId) : Commits dev env st ctx (committed dev env st ctx) := by
  cases ready : (env.call st ctx).alive && (env.call st ctx).isActive with
  | false =>
    rw [show committed dev env st ctx = st.count by simp only [committed, ready, Bool.not_false, if_true]]
    exact .idle ready
  | true =>
    cases check : iwlCheckRxonCmd (env.call st ctx).prepared with
    | false =>
      rw [show committed dev env st ctx = st.count.stage ctx (env.call st ctx).prepared by
        simp only [committed, ready, check, Bool.not_true, Bool.not_false, Bool.false_eq_true, if_false, if_true]]
      exact .invalid check
    | true =>
      have committable : env.committable st ctx = true := by
        simp only [Setup.committable, ready, check, Bool.and_self]
      cases full : iwlFullRxonRequired (env.call st ctx).prepared (st.rxon.active ctx) with
      | false =>
        rw [show committed dev env st ctx =
            (fastRxon dev env (env.call st ctx) (st.count.stage ctx (env.call st ctx).prepared)).2 by
          simp only [committed, ready, check, Bool.not_true, Bool.not_false, Bool.false_eq_true, if_false, if_true,
            show st.count.rxon = st.rxon from rfl, full]]
        have failed : (iwlagnSendRxonAssoc (env.call st ctx) st.rxon).1.isSome =
            !(sameRxonAssoc (env.call st ctx).prepared (st.rxon.active ctx) ||
              ((env.call st ctx).reply .rxonAssoc).passed) := sendRxonAssoc_failed (env.call st ctx) st.rxon
        have kept := sendRxonAssoc_active (env.call st ctx) st.rxon
        cases passes : sameRxonAssoc (env.call st ctx).prepared (st.rxon.active ctx) ||
            ((env.call st ctx).reply .rxonAssoc).passed with
        | false =>
          rw [passes] at failed
          have fast : env.fast st ctx = false := by
            simp only [Setup.fast, passes, Bool.and_false]
          rw [show (fastRxon dev env (env.call st ctx) (st.count.stage ctx (env.call st ctx).prepared)).2 =
              { st.count.stage ctx (env.call st ctx).prepared with
                rxon := (iwlagnSendRxonAssoc (env.call st ctx) st.rxon).2 } by
            simp only [fastRxon, show (st.count.stage ctx (env.call st ctx).prepared).rxon = st.rxon from rfl, failed,
              Bool.not_false, if_true]]
          exact .unsent _ fast (Bool.or_eq_false_iff.mp passes).2 kept
        | true =>
          rw [passes] at failed
          have fast : env.fast st ctx = true := by
            simp only [Setup.fast, committable, Setup.full, full, passes, Bool.not_false, Bool.and_self]
          rw [show (fastRxon dev env (env.call st ctx) (st.count.stage ctx (env.call st ctx).prepared)).2 =
              (iwlSetTxPower dev env { st.count.stage ctx (env.call st ctx).prepared with
                rxon := (iwlagnSendRxonAssoc (env.call st ctx) st.rxon).2.activate ctx (env.call st ctx).prepared }
                st.tx.txPowerNext false).2 by
            simp only [fastRxon, show (st.count.stage ctx (env.call st ctx).prepared).rxon = st.rxon from rfl, failed,
              Bool.not_true, Bool.false_eq_true, if_false]
            rfl]
          refine .fast _ fast ?_
          show Function.update _ ctx _ = _
          rw [kept]
      | true =>
        rw [show committed dev env st ctx =
            (fullRxon dev env (env.call st ctx) (st.count.stage ctx (env.call st ctx).image)).2 by
          simp only [committed, ready, check, Bool.not_true, Bool.false_eq_true, if_false,
            show st.count.rxon = st.rxon from rfl, full]]
        obtain ⟨fails, rxon, active, ends⟩ | ⟨rxon, active, ⟨ends, none⟩ | ⟨ends, assoc⟩⟩ := fullRxon_cases dev env
          (env.call st ctx) (st.count.stage ctx (env.call st ctx).image)
        · rw [ends]
          exact .undone rxon full fails active
        · rw [ends]
          exact .disconnected rxon committable full none active
        · rw [ends]
          exact .connected rxon committable full assoc active

section Commits

theorem prepared_rxChain (call : CommitCall) : call.prepared.rxChain = call.staging.rxChain := by
  unfold CommitCall.prepared
  dsimp only
  split <;> split <;> rfl

theorem image_rxChain (call : CommitCall) : call.image.rxChain = call.staging.rxChain := by
  rw [← prepared_rxChain]
  unfold CommitCall.image iwlSetRxonHwcrypto
  split <;> rfl

variable {dev env} {st mid : Priv} {ctx : CtxId}

theorem fast_cases (fast : env.fast st ctx = true) :
    ((env.call st ctx).alive && (env.call st ctx).isActive) = true ∧
      iwlCheckRxonCmd (env.call st ctx).prepared = true ∧ env.full st ctx = false := by
  unfold Setup.fast Setup.committable at fast
  simp only [Bool.and_eq_true, Bool.not_eq_true'] at fast
  obtain ⟨⟨⟨ready, check⟩, full⟩, _⟩ := fast
  exact ⟨Bool.and_eq_true_iff.mpr ready, check, full⟩

/-- **A commit's frame**: besides the TX data it changes its context only, and makes active what is staged, or
nothing; the fast path makes it active. -/
theorem Commits.frame (commits : Commits dev env st ctx mid) : ∃ (image : RxonCmd) (rxon : RxonState) (tx : TxData),
    mid = { st.count.stage ctx image with rxon := rxon, tx := tx } ∧ image.rxChain = (st.staging ctx).rxChain ∧
      (rxon.active = st.rxon.active ∨ rxon.active = Function.update st.rxon.active ctx image) ∧
      (env.fast st ctx = true → rxon.active = Function.update st.rxon.active ctx image) := by
  cases commits with
  | idle idle =>
    refine ⟨st.staging ctx, st.rxon, st.tx, ?_, rfl, Or.inl rfl, fun fast => ?_⟩
    · unfold Priv.stage Priv.count
      dsimp only
      rw [Function.update_eq_self]
    · rw [(fast_cases fast).1] at idle
      cases idle
  | invalid invalid =>
    refine ⟨_, st.rxon, st.tx, rfl, prepared_rxChain _, Or.inl rfl, fun fast => ?_⟩
    rw [(fast_cases fast).2.1] at invalid
    cases invalid
  | unsent rxon slow _ kept =>
    refine ⟨_, rxon, st.tx, rfl, prepared_rxChain _, Or.inl kept, fun fast => ?_⟩
    rw [fast] at slow
    cases slow
  | fast rxon _ active =>
    obtain ⟨tx, changed⟩ := setTxPower_tx dev env
      { st.count.stage ctx (env.call st ctx).prepared with rxon := rxon } st.tx.txPowerNext false
    exact ⟨_, rxon, tx, changed, prepared_rxChain _, Or.inr active, fun _ => active⟩
  | undone rxon full _ kept =>
    refine ⟨_, rxon, st.tx, rfl, image_rxChain _, Or.inl kept, fun fast => ?_⟩
    rw [(fast_cases fast).2.2] at full
    cases full
  | disconnected rxon _ _ _ active => exact ⟨_, rxon, st.tx, rfl, image_rxChain _, Or.inr active, fun _ => active⟩
  | connected rxon _ _ _ active =>
    obtain ⟨tx, changed⟩ := setTxPower_tx dev env
      { st.count.stage ctx (env.call st ctx).image with rxon := rxon } st.tx.txPowerNext true
    exact ⟨_, rxon, tx, changed, image_rxChain _, Or.inr active, fun _ => active⟩

end Commits

/-! ### One turn of `iwl_update_chain_flags` -/

/-- The `rx_chain` that would be staged is not the active one. -/
def Setup.differs (st : Priv) (ctx : CtxId) : Bool := (st.rxon.active ctx).rxChain != rxChain env.chains st.power.pmi

/-- A context's turn goes on to update the power mode. -/
def Setup.reenters (st : Priv) (ctx : CtxId) : Bool :=
  env.valid ctx && env.differs st ctx && env.fast (iwlagnSetRxonChain env st ctx) ctx

/-- A context's turn, apart from that. -/
def chainTurn (st : Priv) (ctx : CtxId) : Priv :=
  if env.valid ctx then
    if env.differs st ctx then committed dev env (iwlagnSetRxonChain env st ctx) ctx
    else iwlagnSetRxonChain env st ctx
  else st

theorem setRxonChain_staging (st : Priv) (ctx : CtxId) :
    ((iwlagnSetRxonChain env st ctx).staging ctx).rxChain = rxChain env.chains st.power.pmi := by
  unfold iwlagnSetRxonChain Priv.stage
  dsimp only
  rw [Function.update_self]

/-- **A turn, apart from the power mode.** -/
theorem updateChain_update (update : Priv → Option Priv) (st : Priv) (ctx : CtxId) :
    updateChain dev env update st ctx =
      if env.reenters st ctx then update (chainTurn dev env st ctx) else some (chainTurn dev env st ctx) := by
  unfold updateChain chainTurn Setup.reenters
  dsimp only
  rw [setRxonChain_staging, commitRxon_update]
  cases env.valid ctx with
  | false => rfl
  | true =>
    have active : (iwlagnSetRxonChain env st ctx).rxon = st.rxon := rfl
    rw [Bool.not_true, if_neg Bool.false_ne_true, active, if_pos rfl, Bool.true_and]
    cases differs : env.differs st ctx with
    | false => rw [if_neg fun other => (bne_iff_ne.mpr other).symm.trans differs |> Bool.noConfusion]; rfl
    | true => rw [if_pos (bne_iff_ne.mp differs), if_pos rfl, Bool.true_and]

/-- **A turn's frame**: its context only, where the chain that goes with PMI is staged and what is staged becomes
active, or nothing. -/
theorem chainTurn_frame (st : Priv) (ctx : CtxId) : ∃ (image : RxonCmd) (rxon : RxonState) (tx : TxData),
    chainTurn dev env st ctx = { st.stage ctx image with
      rxon := rxon, tx := tx, commits := st.commits + if env.valid ctx && env.differs st ctx then 1 else 0 } ∧
      (env.valid ctx = true → image.rxChain = rxChain env.chains st.power.pmi) ∧
      (rxon.active = st.rxon.active ∨ rxon.active = Function.update st.rxon.active ctx image) ∧
      (env.reenters st ctx = true → rxon.active = Function.update st.rxon.active ctx image) := by
  unfold chainTurn Setup.reenters
  cases valid : env.valid ctx with
  | false =>
    refine ⟨st.staging ctx, st.rxon, st.tx, ?_, fun other => absurd other Bool.false_ne_true, Or.inl rfl,
      fun other => absurd other Bool.false_ne_true⟩
    rw [if_neg Bool.false_ne_true, Bool.false_and, if_neg Bool.false_ne_true]
    unfold Priv.stage
    rw [Function.update_eq_self]
    rfl
  | true =>
    have staged := setRxonChain_staging env st ctx
    cases differs : env.differs st ctx with
    | false =>
      exact ⟨_, st.rxon, st.tx, rfl, fun _ => rfl, Or.inl rfl, fun other => absurd other Bool.false_ne_true⟩
    | true =>
      rw [if_pos rfl, if_pos rfl]
      obtain ⟨image, rxon, tx, mid, chain, became, fast⟩ :=
        (committed_cases dev env (iwlagnSetRxonChain env st ctx) ctx).frame
      refine ⟨image, rxon, tx, ?_, fun _ => chain.trans staged, became, fast⟩
      rw [mid]
      unfold iwlagnSetRxonChain Priv.count Priv.stage
      dsimp only
      rw [Function.update_idem]
      rfl

/-! ### One call of `iwl_power_set_mode` -/

/-- The power data when a command is sent. -/
def PowerData.send (power : PowerData) (cmd : CmdPointer) : PowerData :=
  { power with sleepCmdNext := cmd.read power, requested := cmd.request power }.submit (cmd.read power)

/-- A command that is sent is accepted. -/
def Priv.accepted (st : Priv) (cmd : CmdPointer) : Priv :=
  { st with power := (st.power.send cmd).accept (cmd.read st.power) }

/-- What follows when it is accepted: the RX chains, with the power mode one level deeper, and the record. -/
def afterAccept (depth : Nat) (st : Priv) (cmd : CmdPointer) : Option (Ret × Priv) :=
  (if env.updateChains then iwlUpdateChainFlags dev env (iwlPowerUpdateMode dev env depth) st else some st).map
    fun st => (.ok, { st with power := { st.power with sleepCmd := cmd.read st.power } })

/-- What a call of `iwl_power_set_mode` comes to. -/
inductive SetsMode (depth : Nat) (st : Priv) (cmd : CmdPointer) (force : Bool) : Option (Ret × Priv) → Prop
  | unchanged : st.power.sleepCmd = cmd.read st.power → force = false → SetsMode depth st cmd force
      (some (.ok, { st with power := { st.power with requested := cmd.request st.power } }))
  | refused : dev.readyRf = false → (force = false → st.power.sleepCmd ≠ cmd.read st.power) →
      SetsMode depth st cmd force (some (.eio, st))
  | deferred : dev.readyRf = true → st.phase ≠ .none → force = false → st.power.sleepCmd ≠ cmd.read st.power →
      SetsMode depth st cmd force (some (.ok, { st with power := { st.power with
        sleepCmdNext := cmd.read st.power, requested := cmd.request st.power } }))
  | failed : dev.readyRf = true → (force = false → st.phase = .none) →
      (force = false → st.power.sleepCmd ≠ cmd.read st.power) → env.powerReply st.power.sent = false →
      SetsMode depth st cmd force (some (.failed, { st with power := { st.power.send cmd with failed := true } }))
  | sent : dev.readyRf = true → (force = false → st.phase = .none) →
      (force = false → st.power.sleepCmd ≠ cmd.read st.power) → env.powerReply st.power.sent = true →
      SetsMode depth st cmd force (afterAccept dev env depth (st.accepted cmd) cmd)

/-- What the pointer reaches is what is sent. -/
theorem read_send (power : PowerData) (cmd : CmdPointer) : cmd.read (power.send cmd) = cmd.read power := by
  cases cmd <;> rfl

/-- **What a call of `iwl_power_set_mode` does.** -/
theorem powerSetMode_cases (depth : Nat) (st : Priv) (cmd : CmdPointer) (force : Bool) :
    SetsMode dev env depth st cmd force (iwlPowerSetMode dev env (depth + 1) st cmd force) := by
  unfold iwlPowerSetMode
  by_cases same : st.power.sleepCmd = cmd.read st.power ∧ force = false
  · rw [if_pos same]
    exact .unchanged same.1 same.2
  · rw [if_neg same]
    have changed : force = false → st.power.sleepCmd ≠ cmd.read st.power := fun plain other => same ⟨other, plain⟩
    cases ready : dev.readyRf with
    | false => exact .refused ready changed
    | true =>
      rw [Bool.not_true, if_neg Bool.false_ne_true]
      dsimp only
      by_cases defer : st.phase ≠ .none ∧ force = false
      · rw [if_pos defer]
        exact .deferred ready defer.1 defer.2 (changed defer.2)
      · rw [if_neg defer]
        have idle : force = false → st.phase = .none := fun plain =>
          Decidable.byContradiction fun scanning => defer ⟨scanning, plain⟩
        cases reply : env.powerReply st.power.sent with
        | false => cases cmd <;> exact .failed ready idle changed reply
        | true => cases cmd <;> exact .sent ready idle changed reply

/-! ### What each turn keeps -/

/-- The command that `iwl_power_build_cmd` builds allows sleep. -/
def Setup.builtPmi : Bool := (iwlPowerBuildCmd env).allowsSleep

theorem accepted_pmi (st : Priv) (cmd : CmdPointer) :
    (st.accepted cmd).power.pmi = (cmd.read st.power).allowsSleep := by
  show ((st.power.pmi || (cmd.read st.power).allowsSleep) && (cmd.read st.power).allowsSleep) = _
  cases st.power.pmi <;> cases (cmd.read st.power).allowsSleep <;> rfl

section Keeps

variable {dev env} {allow : Bool → Prop} {Inv : Priv → Prop}

theorem chainTurn_power (st : Priv) (ctx : CtxId) : (chainTurn dev env st ctx).power = st.power := by
  obtain ⟨image, rxon, tx, turned, _⟩ := chainTurn_frame dev env st ctx
  rw [turned]
  rfl

/-- One turn, with the power mode in its end. -/
theorem updateChain_keeps {update : Priv → Option Priv}
    (ofTurn : ∀ st ctx, allow st.power.pmi → Inv st → Inv (chainTurn dev env st ctx))
    (ofUpdate : ∀ st next, update st = some next → allow st.power.pmi → Inv st → allow next.power.pmi ∧ Inv next)
    {st next : Priv} {ctx : CtxId} (ran : updateChain dev env update st ctx = some next)
    (allowed : allow st.power.pmi) (inv : Inv st) : allow next.power.pmi ∧ Inv next := by
  rw [updateChain_update] at ran
  have turned := ofTurn st ctx allowed inv
  have pmi : allow (chainTurn dev env st ctx).power.pmi := by
    rw [chainTurn_power]
    exact allowed
  split at ran
  · exact ofUpdate _ next ran pmi turned
  · cases ran
    exact ⟨pmi, turned⟩

/-- **The rule for `iwl_power_set_mode`**: what depends on no power data and each turn keeps, under the values of PMI
that the command and the built one leave, a call keeps. Induction on the depth. -/
theorem powerSetMode_keeps (ofPower : ∀ st power, Inv st → Inv { st with power := power })
    (ofTurn : env.updateChains = true → ∀ st ctx, allow st.power.pmi → Inv st → Inv (chainTurn dev env st ctx))
    (built : allow env.builtPmi) (depth : Nat) : ∀ (st : Priv) (cmd : CmdPointer) (force : Bool) (ret : Ret)
      (next : Priv), iwlPowerSetMode dev env depth st cmd force = some (ret, next) →
        allow (cmd.read st.power).allowsSleep → Inv st → (allow st.power.pmi → allow next.power.pmi) ∧ Inv next := by
  induction depth with
  | zero => exact fun _ _ _ _ _ ran => nomatch ran
  | succ depth ih =>
    intro st cmd force ret next ran allowed inv
    have cases := powerSetMode_cases dev env depth st cmd force
    generalize iwlPowerSetMode dev env (depth + 1) st cmd force = result at ran cases
    cases cases with
    | unchanged _ _ =>
      cases ran
      exact ⟨id, ofPower _ _ inv⟩
    | refused _ _ =>
      cases ran
      exact ⟨id, inv⟩
    | deferred _ _ _ _ =>
      cases ran
      exact ⟨id, ofPower _ _ inv⟩
    | failed _ _ _ _ =>
      cases ran
      refine ⟨fun pmi => ?_, ofPower _ _ inv⟩
      show allow (st.power.pmi || (cmd.read st.power).allowsSleep)
      cases was : st.power.pmi with
      | false => exact allowed
      | true =>
        rw [was] at pmi
        exact pmi
    | sent _ _ _ _ =>
      obtain ⟨last, chains, recorded⟩ := Option.map_eq_some_iff.mp ran
      cases recorded
      have pmi : allow (st.accepted cmd).power.pmi := by
        rw [accepted_pmi]
        exact allowed
      have start : Inv (st.accepted cmd) := ofPower _ _ inv
      suffices ended : allow last.power.pmi ∧ Inv last from ⟨fun _ => ended.1, ofPower _ _ ended.2⟩
      cases update : env.updateChains with
      | false =>
        rw [update] at chains
        cases chains
        exact ⟨pmi, start⟩
      | true =>
        rw [update, if_pos rfl] at chains
        obtain ⟨mid, bss, pan⟩ := Option.bind_eq_some_iff.mp chains
        have nested (st next : Priv) (ran : iwlPowerUpdateMode dev env depth st = some next)
            (pmi : allow st.power.pmi) (inv : Inv st) : allow next.power.pmi ∧ Inv next := by
          obtain ⟨⟨ret, after⟩, set, last⟩ := Option.map_eq_some_iff.mp ran
          cases last
          obtain ⟨kept, inv⟩ := ih st _ true ret after set built inv
          exact ⟨kept pmi, inv⟩
        obtain ⟨pmi, inv⟩ := updateChain_keeps (ofTurn update) nested bss pmi start
        exact updateChain_keeps (ofTurn update) nested pan pmi inv

/-- The same for a commit. -/
theorem commitRxon_keeps (ofPower : ∀ st power, Inv st → Inv { st with power := power })
    (ofTurn : env.updateChains = true → ∀ st ctx, allow st.power.pmi → Inv st → Inv (chainTurn dev env st ctx))
    (built : allow env.builtPmi) {depth : Nat} {st next : Priv} {ctx : CtxId}
    (ran : (iwlagnCommitRxon dev env (iwlPowerUpdateMode dev env depth) st ctx).map Prod.snd = some next)
    (committed : Inv (committed dev env st ctx)) : Inv next := by
  rw [commitRxon_update] at ran
  split at ran
  · obtain ⟨⟨ret, after⟩, set, last⟩ := Option.map_eq_some_iff.mp ran
    cases last
    exact (powerSetMode_keeps ofPower ofTurn built depth _ _ true ret after set built committed).2
  · cases ran
    exact committed

end Keeps

section Phase

variable {dev env} {depth : Nat} {st next : Priv}

theorem chainTurn_phase (st : Priv) (ctx : CtxId) : (chainTurn dev env st ctx).phase = st.phase := by
  obtain ⟨image, rxon, tx, turned, _⟩ := chainTurn_frame dev env st ctx
  rw [turned]
  rfl

/-- No call changes what the scan is at. -/
theorem powerSetMode_phase {cmd : CmdPointer} {force : Bool} {ret : Ret}
    (ran : iwlPowerSetMode dev env depth st cmd force = some (ret, next)) : next.phase = st.phase :=
  (@powerSetMode_keeps dev env (fun _ => True) (fun other => other.phase = st.phase) (fun _ _ same => same)
    (fun _ other ctx _ same => (chainTurn_phase other ctx).trans same) trivial depth st cmd force ret next ran trivial
    rfl).2

theorem commitRxon_phase {ctx : CtxId}
    (ran : (iwlagnCommitRxon dev env (iwlPowerUpdateMode dev env depth) st ctx).map Prod.snd = some next) :
    next.phase = st.phase := by
  refine @commitRxon_keeps dev env (fun _ => True) (fun other => other.phase = st.phase) (fun _ _ same => same)
    (fun _ other ctx _ same => (chainTurn_phase other ctx).trans same) trivial depth st next ctx ran ?_
  obtain ⟨image, rxon, tx, mid, _⟩ := (committed_cases dev env st ctx).frame
  rw [mid]
  rfl

end Phase

/-- **The steps of `iwlagn_post_scan`.** -/
theorem postScan_cases {depth : Nat} {st next : Priv} (ran : iwlagnPostScan dev env depth st = some next) :
    ∃ ret mid after, iwlPowerSetMode dev env depth st .next false = some (ret, mid) ∧
      recommit dev env (iwlPowerUpdateMode dev env depth) (iwlSetTxPower dev env mid mid.tx.txPowerNext false).2 .bss =
        some after ∧
      recommit dev env (iwlPowerUpdateMode dev env depth) after .pan = some next := by
  obtain ⟨⟨ret, mid⟩, set, rest⟩ := Option.bind_eq_some_iff.mp ran
  obtain ⟨after, bss, pan⟩ := Option.bind_eq_some_iff.mp rest
  exact ⟨ret, mid, after, set, bss, pan⟩

end IntelWifi.Dvm.Power
