/-
**Requests for a TX power.**

A request is sent, or put off while the device scans or BSS's staging image is not the active one, or answered at once
because `tx_power_user_lmt` is the same. Meant is that once nothing is in its way and `iwlagn_post_scan` ran, the limit
is that of the last request.

Three things go wrong. A request for what the limit is does not undo one that was put off. A connection while the
device scans, or a request that is forced then, drops what was put off. And the RXON without association that
`iwlagn_post_scan` makes last sends nothing.

* `setTxPower_good`: what a request keeps.
* `txLatest_of_safe`: in every run that avoids the three, the last request wins.
-/

import IntelWifi.Dvm.TxPowerReplay

namespace IntelWifi.Dvm.Power

open Rxon

variable (dev : Device)

/-! ### The run -/

/-- What the driver does, and what is done to it. -/
inductive TxAct where
  /-- `iwl_set_tx_power`. -/
  | request (env : Setup) (txPower : Int) (force : Bool)
  /-- A scan begins, goes on or ends. -/
  | scan (phase : ScanPhase)
  /-- A staging image is changed. -/
  | stage (ctx : CtxId) (image : RxonCmd)
  | commit (env : Setup) (ctx : CtxId)
  | postScan (env : Setup)

/-- The driver, and what was asked of it. -/
structure TxRun where
  st : Priv
  /-- The last request that was accepted. -/
  lastRequest : Option Int
  /-- `iwlagn_post_scan` ran since the last scan ended, and since the last request that was put off. -/
  replayed : Bool

/-- A request was answered. -/
def TxRun.answered (run : TxRun) (txPower : Int) (answer : Ret × Priv) : TxRun :=
  if answer.1 = .ok then
    ⟨answer.2, some txPower, run.replayed && run.st.phase == .none && run.st.bssEqual⟩
  else { run with st := answer.2 }

/-- One action, with commands that succeed. The calls have the depth that is always enough. -/
def txStep (run : TxRun) : TxAct → Option TxRun
  | .request env txPower force =>
    some (run.answered txPower (iwlSetTxPower dev env.succeeding run.st txPower force))
  | .scan phase => some { run with st := { run.st with phase := phase }, replayed := run.replayed && phase == .none }
  | .stage ctx image => some { run with st := run.st.stage ctx image }
  | .commit env ctx =>
    ((iwlagnCommitRxon dev env.succeeding (iwlPowerUpdateMode dev env.succeeding 3) run.st ctx).map Prod.snd).map
      fun st => { run with st := st }
  | .postScan env => (iwlagnPostScan dev env.succeeding 4 run.st).map
      fun st => { run with st := st, replayed := run.st.phase == .none }

/-- **What is meant**: with no scan under way and BSS's staging image active, once `iwlagn_post_scan` ran, the limit is
that of the last request; and it is the one that was sent last. -/
structure TxLatest (run : TxRun) : Prop where
  latest : run.replayed = true → run.st.phase = .none → run.st.bssEqual →
    ∀ txPower, run.lastRequest = some txPower → run.st.tx.txPowerUserLmt = txPower
  sent : ∀ lmt, run.st.tx.globalLmt = some lmt → lmt = globalLmt dev run.st.tx.txPowerUserLmt

/-- While the device scans, the commit of a context connects, or that of a context whose turn it goes on to. -/
def Setup.drops (env : Setup) (st : Priv) (ctx : CtxId) : Bool :=
  env.connects st ctx || env.fast st ctx && env.updateChains && [CtxId.bss, .pan].any fun c =>
    env.valid c && env.connects st c && (st.rxon.active c).rxChain != rxChain env.chains env.builtPmi

/-- What `iwlagn_post_scan` had to leave put off stays so: a commit of BSS sends it or is refused, and one of PAN does
not go on to the power mode. -/
def Setup.leaves (env : Setup) (st : Priv) : CtxId → Bool
  | .bss => (st.staging .bss).assoc || !env.committable st .bss
  | .pan => !env.fast st .pan

/-- **The condition on an action.** A request that is answered because nothing changes finds nothing else put off, and
neither does one that is forced while the device scans. Where something is put off, nothing connects while the device
scans, `iwlagn_post_scan` finds BSS equal, associated or not committable; and what it left, no restaging makes equal. -/
def txSafe (run : TxRun) (act : TxAct) : Bool :=
  let tx := run.st.tx
  let inForce := tx.txPowerUserLmt == tx.txPowerNext
  match act with
  | .request _ txPower force =>
    (!(dev.calibDisabled || tx.txPowerUserLmt == txPower && !force) || tx.txPowerNext == txPower) &&
      (!(force && run.st.phase == .hw && dev.inRange txPower) || inForce)
  | .scan _ => true
  | .stage ctx image => inForce || !(run.replayed && ctx == .bss && image == run.st.rxon.active .bss)
  | .commit env ctx =>
    let env := env.succeeding
    inForce || !(run.st.phase == .hw && env.drops run.st ctx) && (!run.replayed || env.leaves run.st ctx)
  | .postScan env =>
    let env := env.succeeding
    inForce || match run.st.phase with
      | .none => env.replays run.st
      | .scanning => true
      | .hw => [CtxId.bss, .pan].all fun c => !(env.valid c && env.connects run.st c)

/-- **No action gets stuck**: every call returns. -/
theorem txStep_returns (run : TxRun) (act : TxAct) : ∃ next, txStep dev run act = some next := by
  cases act with
  | request env txPower force => exact ⟨_, rfl⟩
  | scan phase => exact ⟨_, rfl⟩
  | stage ctx image => exact ⟨_, rfl⟩
  | commit env ctx =>
    obtain ⟨next, ran⟩ := commitRxon_returns dev env.succeeding (Nat.le_refl 3) run.st ctx
    exact ⟨_, congrArg (Option.map _) ran⟩
  | postScan env =>
    obtain ⟨next, ran⟩ := postScan_returns dev env.succeeding (Nat.le_refl 3) run.st
    exact ⟨_, congrArg (Option.map _) ran⟩

/-! ### The invariant -/

/-- **What holds of a run.** What is to be sent is the last request; and if `iwlagn_post_scan` left it, BSS's staging
image is not the active one. -/
structure TxRun.Good (run : TxRun) : Prop where
  holds : Holds dev run.st.tx.txPowerNext run.st.tx
  last : ∀ txPower, run.lastRequest = some txPower → run.st.tx.txPowerNext = txPower
  active : ActiveChecked run.st
  idle : run.replayed = true → run.st.phase = .none
  settled : run.replayed = true → run.st.tx.txPowerUserLmt = run.st.tx.txPowerNext ∨ ¬ run.st.bssEqual

section Good

variable {dev : Device} {run next : TxRun}

/-- What the calls keep, here: if it is in force now, it stays so. -/
theorem TxRun.Good.kept (good : run.Good dev) : TxKept dev run.st.tx.txPowerNext run.st.phase
    (run.st.tx.txPowerUserLmt = run.st.tx.txPowerNext) run.st := ⟨rfl, good.holds, id, good.active⟩

/-- After a call that keeps it, and no request. -/
theorem TxRun.Good.after (good : run.Good dev) {st : Priv} {replayed : Bool}
    (kept : TxKept dev run.st.tx.txPowerNext run.st.phase (run.st.tx.txPowerUserLmt = run.st.tx.txPowerNext) st)
    (idle : replayed = true → run.st.phase = .none)
    (settled : replayed = true → st.tx.txPowerUserLmt = run.st.tx.txPowerNext ∨ ¬ st.bssEqual) :
    TxRun.Good dev ⟨st, run.lastRequest, replayed⟩ := by
  have next := kept.holds.next
  refine ⟨?_, fun txPower last => next.trans (good.last txPower last), kept.active,
    fun set => kept.phase.trans (idle set), fun set => ?_⟩
  · dsimp only
    rw [next]
    exact kept.holds
  · dsimp only
    rw [next]
    exact settled set

/-- **A request keeps it**, where it meets the condition. -/
theorem setTxPower_good {env : Setup} {txPower : Int} {force : Bool} (succeeds : env.Succeeds) (good : run.Good dev)
    (alone : dev.calibDisabled = true ∨ run.st.tx.txPowerUserLmt = txPower ∧ force = false →
      run.st.tx.txPowerNext = txPower)
    (free : force = true → run.st.phase = .hw → dev.inRange txPower = true →
      run.st.tx.txPowerUserLmt = run.st.tx.txPowerNext) :
    (run.answered txPower (iwlSetTxPower dev env run.st txPower force)).Good dev := by
  obtain ⟨holds, last, active, idle, settled⟩ := good
  have replayed (set : (run.replayed && run.st.phase == .none && run.st.bssEqual) = true) :
      run.replayed = true ∧ run.st.phase = .none ∧ run.st.bssEqual := by
    rw [Bool.and_eq_true, Bool.and_eq_true, beq_iff_eq, decide_eq_true_eq] at set
    exact ⟨set.1.1, set.1.2, set.2⟩
  have cases := setTxPower_cases dev env run.st txPower force
  generalize iwlSetTxPower dev env run.st txPower force = result at cases
  cases cases with
  | disabled disabled =>
    exact ⟨holds, fun other same => (alone (Or.inl disabled)).trans (Option.some.inj same), active,
      fun set => (replayed set).2.1, fun set => settled (replayed set).1⟩
  | unchanged _ same plain =>
    exact ⟨holds, fun other last => (alone (Or.inr ⟨same, plain⟩)).trans (Option.some.inj last), active,
      fun set => (replayed set).2.1, fun set => settled (replayed set).1⟩
  | outOfRange _ => exact ⟨holds, last, active, idle, settled⟩
  | refused _ => exact ⟨holds, last, active, idle, settled⟩
  | deferred calib range ready defer _ _ =>
    refine ⟨⟨rfl, fun _ => ⟨calib, range, ready⟩, holds.sent⟩, fun other last => Option.some.inj last, active,
      fun set => (replayed set).2.1, fun set => ?_⟩
    obtain ⟨_, none, equal⟩ := replayed set
    exact (defer.elim (fun scanning => scanning none) fun differs => differs equal).elim
  | scans forced hw range =>
    have inForce := free forced hw range
    exact ⟨⟨rfl, fun differs => absurd rfl differs, holds.sent⟩, fun other same => inForce.trans (last other same),
      active, idle, fun _ => Or.inl rfl⟩
  | failed reply =>
    rw [succeeds.txPower] at reply
    cases reply
  | sent _ _ _ _ _ =>
    exact ⟨⟨rfl, fun differs => absurd rfl differs, fun lmt same => (Option.some.inj same).symm⟩,
      fun other last => Option.some.inj last, active, fun set => (replayed set).2.1, fun _ => Or.inl rfl⟩

/-- Nothing connects in a commit that drops nothing. -/
theorem drops_calm {env : Setup} {st : Priv} {ctx : CtxId} (none : env.drops st ctx = false) :
    env.connects st ctx = false ∧ (env.fast st ctx = true → env.updateChains = true → Calm env True st) := by
  unfold Setup.drops at none
  obtain ⟨connects, turns⟩ := Bool.or_eq_false_iff.mp none
  refine ⟨connects, fun fast chains c valid connects => ⟨trivial, ?_⟩⟩
  rw [fast, chains, Bool.true_and, Bool.true_and, List.any_eq_false] at turns
  have turn := turns c (by cases c <;> decide)
  rw [valid, connects, Bool.true_and, Bool.true_and, bne_iff_ne, not_not] at turn
  exact turn

/-- **And so does a commit.** -/
theorem commitRxon_good {env : Setup} {depth : Nat} {ctx : CtxId} {st : Priv} (succeeds : env.Succeeds)
    (good : run.Good dev)
    (safe : run.st.tx.txPowerUserLmt = run.st.tx.txPowerNext ∨
      (run.st.phase = .hw → env.drops run.st ctx = false) ∧ (run.replayed = true → env.leaves run.st ctx = true))
    (ran : (iwlagnCommitRxon dev env (iwlPowerUpdateMode dev env depth) run.st ctx).map Prod.snd = some st) :
    TxRun.Good dev { run with st := st } := by
  have kept := commitRxon_txKept succeeds good.kept
    (fun hw waits => drops_calm ((safe.resolve_left waits).1 hw)) ran
  refine good.after kept good.idle fun set => ?_
  by_cases inForce : run.st.tx.txPowerUserLmt = run.st.tx.txPowerNext
  · exact Or.inl (kept.inForce inForce)
  · have differs := (good.settled set).resolve_left inForce
    have leaves := (safe.resolve_left inForce).2 set
    have start := good.kept
    rw [good.idle set] at start
    cases ctx with
    | bss =>
      cases committable : env.committable run.st .bss with
      | true =>
        have assoc : (run.st.staging .bss).assoc = true := by
          unfold Setup.leaves at leaves
          dsimp only at leaves
          rw [committable, Bool.not_true, Bool.or_false] at leaves
          exact leaves
        exact Or.inl ((commitRxon_sends succeeds start committable assoc ran).inForce trivial)
      | false => exact Or.inr (commitRxon_refused succeeds start committable differs ran).2.1
    | pan =>
      refine Or.inr (commitPan_differs succeeds start differs (fun fast => ?_) ran)
      rw [show env.leaves run.st .pan = !env.fast run.st .pan from rfl, fast] at leaves
      cases leaves

/-- **And `iwlagn_post_scan`.** -/
theorem postScan_good {env : Setup} {depth : Nat} {st : Priv} (succeeds : env.Succeeds) (good : run.Good dev)
    (still : run.st.phase = .hw → run.st.tx.txPowerUserLmt ≠ run.st.tx.txPowerNext → Calm env False run.st)
    (replays : run.st.phase = .none →
      run.st.tx.txPowerUserLmt = run.st.tx.txPowerNext ∨ env.replays run.st = true)
    (ran : iwlagnPostScan dev env depth run.st = some st) :
    TxRun.Good dev { run with st := st, replayed := run.st.phase == .none } := by
  refine good.after (postScan_txKept succeeds good.kept still ran) beq_iff_eq.mp fun set => ?_
  have idle := beq_iff_eq.mp set
  have start := good.kept
  rw [idle] at start
  exact postScan_sends succeeds start (replays idle) ran

/-- **An image is staged**: BSS's may be the one in force only if the last request has been taken. -/
theorem stage_good {ctx : CtxId} {image : RxonCmd} (good : run.Good dev)
    (safe : txSafe dev run (.stage ctx image) = true) :
    TxRun.Good dev { run with st := run.st.stage ctx image } := by
  refine ⟨good.holds, good.last, good.active, good.idle, fun set => ?_⟩
  by_cases inForce : run.st.tx.txPowerUserLmt = run.st.tx.txPowerNext
  · exact Or.inl inForce
  · refine Or.inr fun equal => ?_
    cases ctx with
    | bss =>
      have active : image = run.st.rxon.active .bss := (stage_staging run.st .bss image).symm.trans equal.symm
      unfold txSafe at safe
      dsimp only at safe set
      rw [beq_eq_false_iff_ne.mpr inForce, set, active] at safe
      simp only [beq_self_eq_true, Bool.and_self, Bool.not_true, Bool.or_self, Bool.false_eq_true] at safe
    | pan =>
      have other : (run.st.stage .pan image).staging .bss = run.st.staging .bss := rfl
      exact (good.settled set).resolve_left inForce (equal.trans other)

/-- **Every action keeps it**, where it meets the condition. -/
theorem TxRun.Good.step {act : TxAct} (good : run.Good dev) (safe : txSafe dev run act = true)
    (stepped : txStep dev run act = some next) : next.Good dev := by
  cases act with
  | request env txPower force =>
    cases stepped
    unfold txSafe at safe
    simp only [Bool.and_eq_true, Bool.or_eq_true, Bool.not_eq_true', Bool.or_eq_false_iff, Bool.and_eq_false_iff,
      beq_iff_eq, beq_eq_false_iff_ne, Bool.not_eq_false'] at safe
    obtain ⟨alone, free⟩ := safe
    refine setTxPower_good (succeeding_succeeds env) good (fun answered => ?_) fun forced hw range => ?_
    · refine alone.resolve_left fun other => ?_
      obtain disabled | ⟨same, plain⟩ := answered
      · rw [disabled] at other
        cases other.1
      · obtain differs | forced := other.2
        · exact differs same
        · rw [plain] at forced
          cases forced
    · refine free.resolve_left fun other => ?_
      obtain (plain | elsewhere) | outside := other
      · rw [forced] at plain
        cases plain
      · exact elsewhere hw
      · rw [range] at outside
        cases outside
  | scan phase =>
    cases stepped
    refine ⟨good.holds, good.last, good.active, fun set => ?_, fun set => ?_⟩
    · exact beq_iff_eq.mp (Bool.and_eq_true_iff.mp set).2
    · exact good.settled (Bool.and_eq_true_iff.mp set).1
  | stage ctx image =>
    cases stepped
    exact stage_good good safe
  | commit env ctx =>
    obtain ⟨st, ran, last⟩ := Option.map_eq_some_iff.mp stepped
    cases last
    unfold txSafe at safe
    simp only [Bool.and_eq_true, Bool.or_eq_true, beq_iff_eq, Bool.not_eq_true', Bool.and_eq_false_iff,
      beq_eq_false_iff_ne] at safe
    refine commitRxon_good (succeeding_succeeds env) good
      (safe.imp_right fun safe => ⟨fun hw => ?_, fun set => ?_⟩) ran
    · exact safe.1.resolve_left fun elsewhere => elsewhere hw
    · refine safe.2.resolve_left fun unset => ?_
      rw [set] at unset
      cases unset
  | postScan env =>
    obtain ⟨st, ran, last⟩ := Option.map_eq_some_iff.mp stepped
    cases last
    unfold txSafe at safe
    simp only [Bool.or_eq_true, beq_iff_eq] at safe
    refine postScan_good (succeeding_succeeds env) good (fun hw waits => ?_) (fun idle => ?_) ran
    · have still := safe.resolve_left waits
      rw [hw] at still
      intro c valid connects
      have here := List.all_eq_true.mp still c (by cases c <;> decide)
      rw [valid, connects] at here
      cases here
    · rw [idle] at safe
      exact safe

end Good

/-- **The last request wins**: from a driver whose TX data and BSS image are as after its allocation, in every state of
every run whose actions all meet the condition. -/
theorem txLatest_of_safe (dev : Device) {start : Priv} (fresh : start.tx = Priv.zero.tx)
    (inactive : start.rxon.active .bss = .zero) {acts : List TxAct} {last : TxRun}
    (safe : Machine.allowed (txStep dev) (txSafe dev) ⟨start, none, start.phase == .none⟩ acts = true)
    (ran : Machine.run (txStep dev) ⟨start, none, start.phase == .none⟩ acts = some last) : TxLatest dev last := by
  have begins : TxRun.Good dev ⟨start, none, start.phase == .none⟩ := by
    refine ⟨?_, fun _ none => (nomatch none), Or.inl inactive, beq_iff_eq.mp, fun _ => Or.inl ?_⟩
    · dsimp only
      rw [fresh]
      exact ⟨rfl, fun differs => absurd rfl differs, fun _ none => (nomatch none)⟩
    · dsimp only
      rw [fresh]
      rfl
  have good := Machine.run_invariant_of_allowed (TxRun.Good dev)
    (fun _ _ _ good safe stepped => good.step safe stepped) begins safe ran
  refine ⟨fun set _ equal txPower request => ?_, good.holds.sent⟩
  rw [← good.last txPower request]
  exact (good.settled set).resolve_right fun differs => differs equal

/-- A request during a scan, which `iwlagn_post_scan` sends. -/
def deferredLimit : List TxAct :=
  [.request .plain 10 false, .scan .scanning, .request .plain 15 false, .scan .none, .postScan .plain]

theorem txLatest_of_safe_deferred : ∃ last,
    Machine.run (txStep readyDevice) ⟨.zero, none, true⟩ deferredLimit = some last ∧
      last.st.tx.globalLmt = some 30 ∧ TxLatest readyDevice last := by
  obtain ⟨last, ran⟩ :
    ∃ last, Machine.run (txStep readyDevice) ⟨.zero, none, true⟩ deferredLimit = some last := ⟨_, rfl⟩
  refine ⟨last, ran, ?_, txLatest_of_safe readyDevice rfl rfl (by decide +kernel) ran⟩
  have sent :
      (Machine.run (txStep readyDevice) ⟨.zero, none, true⟩ deferredLimit).bind (·.st.tx.globalLmt) = some 30 := by
    decide +kernel
  rw [ran] at sent
  exact sent

/-- The limit in force is requested again during a scan, after another one. -/
def limitTakenBack : List TxAct :=
  [.scan .scanning, .request .plain 15 false, .request .plain 0 false, .scan .none, .postScan .plain]

/-- BSS is connected while the device scans. -/
def limitDropped : List TxAct :=
  [.stage .bss onChannel6, .scan .hw, .request .plain 15 false, .commit .plain .bss, .scan .none, .postScan .plain]

/-- BSS's channel changes, without association. -/
def limitUnsent : List TxAct :=
  [.stage .bss { onChannel6 with filterFlags := 0 }, .request .plain 15 false, .postScan .plain]

/-- **The last request does not win**: one that was taken back is sent after the scan; one that was put off is dropped by
a connection; and one is not sent by the RXON that it waited for. -/
theorem txLatest_broken :
    (∃ last, Machine.run (txStep readyDevice) ⟨.zero, none, true⟩ limitTakenBack = some last ∧
      last.lastRequest = some 0 ∧ last.st.tx.txPowerUserLmt = 15 ∧ ¬ TxLatest readyDevice last) ∧
    (∃ last, Machine.run (txStep readyDevice) ⟨.zero, none, true⟩ limitDropped = some last ∧
      last.lastRequest = some 15 ∧ last.st.tx.txPowerUserLmt = 0 ∧ ¬ TxLatest readyDevice last) ∧
    (∃ last, Machine.run (txStep readyDevice) ⟨.zero, none, true⟩ limitUnsent = some last ∧
      last.lastRequest = some 15 ∧ last.st.tx.txPowerUserLmt = 0 ∧ ¬ TxLatest readyDevice last) := by
  refine ⟨⟨_, rfl, by decide +kernel, by decide +kernel, fun right => ?_⟩,
    ⟨_, rfl, by decide +kernel, by decide +kernel, fun right => ?_⟩,
    ⟨_, rfl, by decide +kernel, by decide +kernel, fun right => ?_⟩⟩
  · have latest := right.latest (by decide +kernel) (by decide +kernel) (by decide +kernel) 0 (by decide +kernel)
    revert latest
    decide +kernel
  · have latest := right.latest (by decide +kernel) (by decide +kernel) (by decide +kernel) 15 (by decide +kernel)
    revert latest
    decide +kernel
  · have latest := right.latest (by decide +kernel) (by decide +kernel) (by decide +kernel) 15 (by decide +kernel)
    revert latest
    decide +kernel

end IntelWifi.Dvm.Power
