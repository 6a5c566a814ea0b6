/-
**Requests for a power mode.**

A request is sent, or put off while the device scans, or answered at once because `sleep_cmd` is the same. What is put
off stays in `sleep_cmd_next`, which `iwlagn_post_scan` sends. Meant is that `sleep_cmd` is what the firmware accepted
last, and that, after the scan, this is what was requested last.

Two things go wrong. A request for what `sleep_cmd` is does not undo one that was put off before. And between the
acceptance of a command and its record the RX chains are updated, which may nest the built command: then the outer
command is recorded, though the nested one was accepted after it; or, in `iwlagn_post_scan`, whose command is
`sleep_cmd_next` itself, the nested one is recorded even if it failed.

* `powerUpdateMode_updates`: what the update of the power mode does to the power data.
* `chainFlags_nested`: what the update of the RX chains does to it.
* `powerLatest_of_safe`: in every run that avoids the two.
-/

import IntelWifi.Dvm.PowerNesting

namespace IntelWifi.Dvm.Power

open Rxon

variable (dev : Device) (env : Setup)

/-! ### The built command -/

/-- The built command is the last one that was requested and accepted, and the next one. -/
structure Built (power : PowerData) : Prop where
  accepted : power.accepted = some (iwlPowerBuildCmd env)
  next : power.sleepCmdNext = iwlPowerBuildCmd env
  requested : power.requested = some (iwlPowerBuildCmd env)
  pmi : power.pmi = env.builtPmi

/-- What an update of the power mode makes of a state. -/
inductive Updates (st : Priv) : Priv → Prop
  | refused : dev.readyRf = false → Updates st st
  | failed : dev.readyRf = true → env.powerReply st.power.sent = false →
      Updates st { st with power := { st.power.send (.given (iwlPowerBuildCmd env)) with failed := true } }
  | sent (next : Priv) : dev.readyRf = true → env.powerReply st.power.sent = true → Built env next.power →
      next.power.sleepCmd = iwlPowerBuildCmd env → (next.power.failed = false → st.power.failed = false) →
      Updates st next

section Updates

variable {dev env} {st next : Priv}

theorem Updates.failed_mono (updates : Updates dev env st next) (fine : next.power.failed = false) :
    st.power.failed = false := by
  cases updates with
  | refused _ => exact fine
  | failed _ _ => cases fine
  | sent _ _ _ _ _ mono => exact mono fine

/-- Once the built command was accepted, an update leaves it so. -/
theorem Updates.built (updates : Updates dev env st next) (built : Built env st.power) : Built env next.power := by
  cases updates with
  | refused _ => exact built
  | failed _ _ =>
    refine ⟨built.accepted, rfl, rfl, ?_⟩
    show (st.power.pmi || env.builtPmi) = env.builtPmi
    rw [built.pmi, Bool.or_self]
  | sent _ _ _ built _ _ => exact built

theorem Updates.sleepCmd (updates : Updates dev env st next) (same : st.power.sleepCmd = iwlPowerBuildCmd env) :
    next.power.sleepCmd = iwlPowerBuildCmd env := by
  cases updates with
  | refused _ => exact same
  | failed _ _ => exact same
  | sent _ _ _ _ recorded _ => exact recorded

/-- A turn after the built command was accepted. -/
theorem updateChain_built {update : Priv → Option Priv}
    (updates : ∀ st next, update st = some next → Updates dev env st next)
    {ctx : CtxId} (ran : updateChain dev env update st ctx = some next) (built : Built env st.power) :
    Built env next.power ∧ (next.power.failed = false → st.power.failed = false) ∧
      (st.power.sleepCmd = iwlPowerBuildCmd env → next.power.sleepCmd = iwlPowerBuildCmd env) := by
  rw [updateChain_update] at ran
  have power := @chainTurn_power dev env st ctx
  rw [← power] at built
  rw [← power]
  split at ran
  · have nested := updates _ next ran
    exact ⟨nested.built built, nested.failed_mono, nested.sleepCmd⟩
  · cases ran
    exact ⟨built, id, id⟩

end Updates

/-- **What an update of the power mode does.** Induction on the depth: what is nested in it only confirms the built
command. -/
theorem powerUpdateMode_updates (depth : Nat) : ∀ st next, iwlPowerUpdateMode dev env depth st = some next →
    Updates dev env st next := by
  induction depth with
  | zero => exact fun _ _ ran => nomatch ran
  | succ depth ih =>
    intro st next ran
    obtain ⟨⟨ret, after⟩, set, last⟩ := Option.map_eq_some_iff.mp ran
    cases last
    have cases := powerSetMode_cases dev env depth st (.given (iwlPowerBuildCmd env)) true
    generalize iwlPowerSetMode dev env (depth + 1) st (.given (iwlPowerBuildCmd env)) true = result at set cases
    cases cases with
    | unchanged _ plain => cases plain
    | refused ready _ =>
      cases set
      exact .refused ready
    | deferred _ _ plain _ => cases plain
    | failed ready _ _ reply =>
      cases set
      exact .failed ready reply
    | sent ready _ _ reply =>
      obtain ⟨last, chains, recorded⟩ := Option.map_eq_some_iff.mp set
      cases recorded
      have built : Built env (st.accepted (.given (iwlPowerBuildCmd env))).power := ⟨rfl, rfl, rfl, accepted_pmi st _⟩
      suffices ended : Built env last.power ∧ (last.power.failed = false → st.power.failed = false) from
        .sent _ ready reply ⟨ended.1.accepted, ended.1.next, ended.1.requested, ended.1.pmi⟩ rfl ended.2
      cases update : env.updateChains with
      | false =>
        rw [update] at chains
        cases chains
        exact ⟨built, id⟩
      | true =>
        rw [update, if_pos rfl] at chains
        obtain ⟨mid, bss, pan⟩ := Option.bind_eq_some_iff.mp chains
        obtain ⟨built, mono, _⟩ := updateChain_built ih bss built
        obtain ⟨built, mono', _⟩ := updateChain_built ih pan built
        exact ⟨built, fun fine => mono (mono' fine)⟩

/-! ### What is nested in another command -/

/-- A context's turn would nest a command, under this PMI and after so many commits. -/
def Setup.nests (st : Priv) (pmi : Bool) (commits : Nat) (ctx : CtxId) : Bool :=
  env.reenters { st with power := { st.power with pmi := pmi }, commits := commits } ctx

/-- BSS's turn commits, under this PMI. -/
def Setup.commitsBss (st : Priv) (pmi : Bool) : Bool := (st.rxon.active .bss).rxChain != rxChain env.chains pmi

/-- **What becomes of the commands that are nested in this one**: whether one of them is accepted, if there are any. -/
def Setup.nested (st : Priv) (cmd : PowertableCmd) : Option Bool :=
  let pmi := cmd.allowsSleep
  let sent := st.power.sent + 1
  if !env.updateChains then none
  else if env.nests st pmi st.commits .bss then
    if env.powerReply sent then some true
    else if env.nests st (pmi || env.builtPmi) (st.commits + 1) .pan then some (env.powerReply (sent + 1))
    else some false
  else if env.nests st pmi (st.commits + if env.commitsBss st pmi then 1 else 0) .pan then some (env.powerReply sent)
  else none

/-- What that leaves in the power data. -/
inductive Nests (st : Priv) (cmd : CmdPointer) (power : PowerData) : Option Bool → Prop
  | none : power = (st.accepted cmd).power → Nests st cmd power none
  | accepted : Built env power → (power.failed = false → st.power.failed = false) → Nests st cmd power (some true)
  | refused : power.accepted = some (cmd.read st.power) → power.sleepCmdNext = iwlPowerBuildCmd env →
      power.failed = true → ((cmd.read st.power).allowsSleep = true → power.pmi = true) →
      Nests st cmd power (some false)

theorem reenters_congr {st st' : Priv} {ctx : CtxId} (staging : st.staging ctx = st'.staging ctx)
    (active : st.rxon.active ctx = st'.rxon.active ctx) (pmi : st.power.pmi = st'.power.pmi)
    (commits : st.commits = st'.commits) : env.reenters st ctx = env.reenters st' ctx := by
  have call : env.call (iwlagnSetRxonChain env st ctx) ctx = env.call (iwlagnSetRxonChain env st' ctx) ctx := by
    unfold Setup.call iwlagnSetRxonChain Priv.stage
    dsimp only
    rw [Function.update_self, Function.update_self, staging, pmi, commits]
  unfold Setup.reenters Setup.differs Setup.fast Setup.full Setup.committable
  rw [call, pmi, active, show (iwlagnSetRxonChain env st ctx).rxon.active ctx = st'.rxon.active ctx from active,
    show (iwlagnSetRxonChain env st' ctx).rxon.active ctx = st'.rxon.active ctx from rfl]

/-- **PAN's turn after BSS's**: what it finds of its own is what the call found. -/
theorem chainTurn_pan (st : Priv) (power : PowerData) :
    env.reenters { chainTurn dev env st .bss with power := power } .pan =
      env.nests st power.pmi (st.commits + if env.differs st .bss then 1 else 0) .pan := by
  obtain ⟨image, rxon, tx, turned, _, became, _⟩ := chainTurn_frame dev env st .bss
  have apart : CtxId.pan ≠ CtxId.bss := fun same => nomatch same
  rw [turned]
  refine reenters_congr env ?_ ?_ rfl rfl
  · exact Function.update_of_ne apart image st.staging
  · obtain same | same := became
    · exact congrFun same .pan
    · show rxon.active .pan = _
      rw [same, Function.update_of_ne apart]

/-- What a context's turn makes of a state. -/
inductive Turns (st : Priv) (ctx : CtxId) : Priv → Prop
  | quiet : env.reenters st ctx = false → Turns st ctx (chainTurn dev env st ctx)
  | failed : env.reenters st ctx = true → env.powerReply st.power.sent = false → Turns st ctx
      { chainTurn dev env st ctx with power := { st.power.send (.given (iwlPowerBuildCmd env)) with failed := true } }
  | sent (next : Priv) : env.reenters st ctx = true → env.powerReply st.power.sent = true → Built env next.power →
      (next.power.failed = false → st.power.failed = false) → Turns st ctx next

/-- **A turn, with the power mode that it goes on to.** -/
theorem updateChain_turns {depth : Nat} {st next : Priv} {ctx : CtxId} (ready : dev.readyRf = true)
    (ran : updateChain dev env (iwlPowerUpdateMode dev env depth) st ctx = some next) : Turns dev env st ctx next := by
  rw [updateChain_update] at ran
  have power := @chainTurn_power dev env st ctx
  cases reenters : env.reenters st ctx with
  | false =>
    rw [reenters, if_neg Bool.false_ne_true] at ran
    cases ran
    exact .quiet reenters
  | true =>
    rw [reenters, if_pos rfl] at ran
    cases powerUpdateMode_updates dev env depth _ _ ran with
    | refused unready =>
      rw [ready] at unready
      cases unready
    | failed _ reply =>
      rw [power] at reply ⊢
      exact .failed reenters reply
    | sent _ _ reply built _ mono =>
      rw [power] at reply mono
      exact .sent _ reenters reply built mono

/-- PAN's turn once the command is accepted and BSS's turn is over. -/
theorem accepted_pan (st : Priv) (cmd : CmdPointer) (power : PowerData) :
    env.reenters { chainTurn dev env (st.accepted cmd) .bss with power := power } .pan = env.nests st power.pmi
      (st.commits + if env.commitsBss st (cmd.read st.power).allowsSleep then 1 else 0) .pan := by
  rw [chainTurn_pan, Setup.differs, accepted_pmi st cmd]
  exact reenters_congr env rfl rfl rfl rfl

/-- **PAN's turn, if BSS's nested nothing.** -/
theorem nested_of_quiet {st last : Priv} {cmd : CmdPointer}
    (pan : Turns dev env (chainTurn dev env (st.accepted cmd) .bss) .pan last) :
    Nests env st cmd last.power
      (if env.nests st (cmd.read st.power).allowsSleep
          (st.commits + if env.commitsBss st (cmd.read st.power).allowsSleep then 1 else 0) .pan then
        some (env.powerReply (st.power.sent + 1)) else none) := by
  have pmi := accepted_pmi st cmd
  have power := @chainTurn_power dev env (st.accepted cmd) .bss
  have nestsPan := accepted_pan dev env st cmd (chainTurn dev env (st.accepted cmd) .bss).power
  rw [power, pmi] at nestsPan
  rw [← nestsPan]
  generalize chainTurn dev env (st.accepted cmd) .bss = mid at pan power
  rw [show { mid with power := (st.accepted cmd).power } = mid by rw [← power]]
  cases pan with
  | quiet quiet =>
    rw [quiet, if_neg Bool.false_ne_true]
    exact .none ((chainTurn_power mid .pan).trans power)
  | failed reenters reply =>
    rw [power] at reply ⊢
    rw [reenters, if_pos rfl, show env.powerReply (st.power.sent + 1) = false from reply]
    refine .refused rfl rfl rfl fun allows => ?_
    show ((st.accepted cmd).power.pmi || env.builtPmi) = true
    rw [pmi, allows, Bool.true_or]
  | sent _ reenters reply built mono =>
    rw [power] at reply mono
    rw [reenters, if_pos rfl, show env.powerReply (st.power.sent + 1) = true from reply]
    exact .accepted built mono

/-- What a command that fails in BSS's turn leaves. -/
def Priv.failedBss (st : Priv) (cmd : CmdPointer) : PowerData :=
  { (st.accepted cmd).power.send (.given (iwlPowerBuildCmd env)) with failed := true }

theorem failedBss_pmi (st : Priv) (cmd : CmdPointer) :
    (st.failedBss env cmd).pmi = ((cmd.read st.power).allowsSleep || env.builtPmi) :=
  congrArg (· || env.builtPmi) (accepted_pmi st cmd)

/-- **PAN's turn, if the command that BSS's nested failed.** -/
theorem nested_of_failed {st last : Priv} {cmd : CmdPointer}
    (commits : env.commitsBss st (cmd.read st.power).allowsSleep = true)
    (pan : Turns dev env { chainTurn dev env (st.accepted cmd) .bss with power := st.failedBss env cmd } .pan last) :
    Nests env st cmd last.power
      (if env.nests st ((cmd.read st.power).allowsSleep || env.builtPmi) (st.commits + 1) .pan then
        some (env.powerReply (st.power.sent + 1 + 1)) else some false) := by
  have pmi := failedBss_pmi env st cmd
  have nestsPan := accepted_pan dev env st cmd (st.failedBss env cmd)
  rw [commits, if_pos rfl, pmi] at nestsPan
  rw [← nestsPan]
  generalize chainTurn dev env (st.accepted cmd) .bss = before at pan
  generalize midOf : { before with power := st.failedBss env cmd } = mid at pan ⊢
  have power : mid.power = st.failedBss env cmd := midOf ▸ rfl
  cases pan with
  | quiet quiet =>
    rw [quiet, if_neg Bool.false_ne_true, chainTurn_power, power]
    refine .refused rfl rfl rfl fun allows => ?_
    rw [pmi, allows, Bool.true_or]
  | failed reenters reply =>
    rw [power] at reply ⊢
    rw [reenters, if_pos rfl, show env.powerReply (st.power.sent + 1 + 1) = false from reply]
    refine .refused rfl rfl rfl fun allows => ?_
    show ((st.failedBss env cmd).pmi || env.builtPmi) = true
    rw [pmi, allows, Bool.true_or, Bool.true_or]
  | sent _ reenters reply built mono =>
    rw [power] at reply mono
    rw [reenters, if_pos rfl, show env.powerReply (st.power.sent + 1 + 1) = true from reply]
    exact .accepted built fun fine => (nomatch mono fine)

/-- **What the update of the RX chains does to the power data**, after a command was accepted. -/
theorem chainFlags_nested {depth : Nat} {st last : Priv} {cmd : CmdPointer} (ready : dev.readyRf = true)
    (ran : iwlUpdateChainFlags dev env (iwlPowerUpdateMode dev env depth) (st.accepted cmd) = some last)
    (update : env.updateChains = true) :
    Nests env st cmd last.power (env.nested st (cmd.read st.power)) := by
  obtain ⟨mid, bss, pan⟩ := Option.bind_eq_some_iff.mp ran
  have nestsBss : env.reenters (st.accepted cmd) .bss =
      env.nests st (cmd.read st.power).allowsSleep st.commits .bss :=
    reenters_congr env rfl rfl (accepted_pmi st cmd) rfl
  unfold Setup.nested
  rw [update, Bool.not_true, if_neg Bool.false_ne_true, ← nestsBss]
  cases updateChain_turns dev env ready bss with
  | quiet quiet =>
    rw [quiet, if_neg Bool.false_ne_true]
    exact nested_of_quiet dev env (updateChain_turns dev env ready pan)
  | failed reenters reply =>
    have commits : env.commitsBss st (cmd.read st.power).allowsSleep = true := by
      rw [nestsBss] at reenters
      unfold Setup.nests Setup.reenters at reenters
      rw [Bool.and_eq_true, Bool.and_eq_true] at reenters
      exact reenters.1.2
    rw [reenters, if_pos rfl, show env.powerReply (st.power.sent + 1) = false from reply, if_neg Bool.false_ne_true]
    exact nested_of_failed dev env commits (updateChain_turns dev env ready pan)
  | sent _ reenters reply built mono =>
    obtain ⟨built, mono', _⟩ := updateChain_built (powerUpdateMode_updates dev env depth) pan built
    rw [reenters, if_pos rfl, show env.powerReply (st.power.sent + 1) = true from reply, if_pos rfl]
    exact .accepted built fun fine => mono (mono' fine)

/-! ### Runs -/

/-- What happens between the calls of the driver: each is made under what it finds. -/
inductive PowerAct where
  /-- `iwl_power_set_mode`. -/
  | request (env : Setup) (cmd : PowertableCmd) (force : Bool)
  /-- A scan begins, goes on or ends. -/
  | scan (phase : ScanPhase)
  /-- A staging image is changed. -/
  | stage (ctx : CtxId) (image : RxonCmd)
  | commit (env : Setup) (ctx : CtxId)
  | postScan (env : Setup)

/-- The driver, and whether `iwlagn_post_scan` ran since the last scan ended. -/
structure PowerRun where
  st : Priv
  replayed : Bool

/-- One action. The calls have the depth that is always enough. -/
def powerStep (run : PowerRun) : PowerAct → Option PowerRun
  | .request env cmd force =>
    (iwlPowerSetMode dev env 4 run.st (.given cmd) force).map fun (_, st) => { run with st := st }
  | .scan phase => some ⟨{ run.st with phase := phase }, run.replayed && phase == .none⟩
  | .stage ctx image => some { run with st := run.st.stage ctx image }
  | .commit env ctx => ((iwlagnCommitRxon dev env (iwlPowerUpdateMode dev env 3) run.st ctx).map Prod.snd).map
      fun st => { run with st := st }
  | .postScan env => (iwlagnPostScan dev env 4 run.st).map fun st => ⟨st, run.st.phase == .none⟩

/-- **What is meant**: the command on record is the one that the firmware accepted last, at first the one after a
`memset`; PMI is set if it allows sleep; and unless a command failed, it is the one requested last, once
`iwlagn_post_scan` ran after the scan. -/
structure PowerLatest (run : PowerRun) : Prop where
  record : run.st.power.sleepCmd = run.st.power.accepted.getD .zero
  pmi : ∀ cmd, run.st.power.accepted = some cmd → cmd.allowsSleep = true → run.st.power.pmi = true
  latest : run.st.power.failed = false → run.st.phase = .none → run.replayed = true →
    run.st.power.accepted.getD .zero = run.st.power.requested.getD .zero

/-- `iwl_power_set_mode` sends a command, and the firmware accepts it. -/
def Setup.takes (st : Priv) (cmd : PowertableCmd) (force : Bool) : Bool :=
  dev.readyRf && (force || st.phase == .none && st.power.sleepCmd != cmd) && env.powerReply st.power.sent

/-- **The condition on an action.** A request that is answered because nothing changes finds nothing else put off.
And where a command other than the built one is accepted, it nests none that is accepted; or, if it is sent by
`iwlagn_post_scan`, none, or one that is. -/
def powerSafe (run : PowerRun) : PowerAct → Bool
  | .request env cmd force =>
    (force || run.st.power.sleepCmd != cmd || run.st.power.sleepCmdNext == cmd) &&
      (!env.takes dev run.st cmd force || cmd == iwlPowerBuildCmd env || env.nested run.st cmd != some true)
  | .postScan env =>
    let cmd := run.st.power.sleepCmdNext
    !env.takes dev run.st cmd false || cmd == iwlPowerBuildCmd env || env.nested run.st cmd != some false
  | .scan _ => true
  | .stage _ _ => true
  | .commit _ _ => true

/-- **No action gets stuck**: every call returns. -/
theorem powerStep_returns (run : PowerRun) (act : PowerAct) : ∃ next, powerStep dev run act = some next := by
  cases act with
  | request env cmd force =>
    obtain ⟨ret, next, ran⟩ := powerSetMode_returns dev env (Nat.le_refl 3) run.st (.given cmd) force
    exact ⟨_, congrArg (Option.map _) ran⟩
  | scan phase => exact ⟨_, rfl⟩
  | stage ctx image => exact ⟨_, rfl⟩
  | commit env ctx =>
    obtain ⟨next, ran⟩ := commitRxon_returns dev env (Nat.le_refl 3) run.st ctx
    exact ⟨_, congrArg (Option.map _) ran⟩
  | postScan env =>
    obtain ⟨next, ran⟩ := postScan_returns dev env (Nat.le_refl 3) run.st
    exact ⟨_, congrArg (Option.map _) ran⟩

/-- **The invariant**, on the power data. What is put off needs a device that is ready. -/
structure Tracks (replayed : Bool) (power : PowerData) : Prop where
  record : power.sleepCmd = power.accepted.getD .zero
  pmi : ∀ cmd, power.accepted = some cmd → cmd.allowsSleep = true → power.pmi = true
  next : power.failed = false → power.sleepCmdNext = power.requested.getD .zero
  replayed : power.failed = false → replayed = true → power.sleepCmd = power.sleepCmdNext
  ready : dev.readyRf = false → power.sleepCmd = power.sleepCmdNext

section Tracks

variable {dev env} {replayed : Bool} {st next : Priv}

/-- An update of the power mode keeps it. -/
theorem Updates.tracks (updates : Updates dev env st next) (tracks : Tracks dev replayed st.power) :
    Tracks dev replayed next.power := by
  cases updates with
  | refused _ => exact tracks
  | failed ready _ =>
    refine ⟨tracks.record, fun cmd accepted allows => ?_, fun fine => (nomatch fine), fun fine => (nomatch fine),
      fun unready => ?_⟩
    · show (st.power.pmi || env.builtPmi) = true
      rw [tracks.pmi cmd accepted allows, Bool.true_or]
    · rw [ready] at unready
      cases unready
  | sent _ ready _ built recorded _ =>
    refine ⟨?_, fun cmd accepted allows => ?_, fun _ => ?_, fun _ _ => ?_, fun _ => ?_⟩
    · rw [recorded, built.accepted, Option.getD_some]
    · rw [built.accepted] at accepted
      cases accepted
      exact built.pmi.trans allows
    · rw [built.next, built.requested, Option.getD_some]
    · rw [recorded, built.next]
    · rw [recorded, built.next]

/-- And so does a commit. -/
theorem commitRxon_tracks {depth : Nat} {ctx : CtxId}
    (ran : (iwlagnCommitRxon dev env (iwlPowerUpdateMode dev env depth) st ctx).map Prod.snd = some next)
    (tracks : Tracks dev replayed st.power) : Tracks dev replayed next.power := by
  rw [commitRxon_update] at ran
  have power : (committed dev env st ctx).power = st.power := by
    obtain ⟨image, rxon, tx, mid, _⟩ := (committed_cases dev env st ctx).frame
    rw [mid]
    rfl
  rw [← power] at tracks
  split at ran
  · exact (powerUpdateMode_updates dev env depth _ _ ran).tracks tracks
  · cases ran
    exact tracks

/-- The outcome of the nested commands after which another command than the accepted one goes on record. -/
def CmdPointer.spoils : CmdPointer → Bool
  | .given _ => true
  | .next => false

theorem read_request {cmd : CmdPointer} {power : PowerData}
    (latest : power.sleepCmdNext = power.requested.getD .zero) :
    cmd.read power = (cmd.request power).getD .zero := by
  cases cmd with
  | given cmd => rfl
  | next => exact latest

/-- What is nested in a command keeps it, with the command that goes on record. -/
theorem Nests.tracks {cmd : CmdPointer} {power : PowerData} {replayed' : Bool}
    (nests : Nests env st cmd power (env.nested st (cmd.read st.power))) (ready : dev.readyRf = true)
    (tracks : Tracks dev replayed st.power)
    (quiet : env.nested st (cmd.read st.power) = some cmd.spoils → cmd.read st.power = iwlPowerBuildCmd env) :
    Tracks dev replayed' { power with sleepCmd := cmd.read power } := by
  have unready (other : dev.readyRf = false) : False := by
    rw [ready] at other
    cases other
  generalize env.nested st (cmd.read st.power) = outcome at nests quiet
  cases nests with
  | none kept =>
    have read : cmd.read power = cmd.read st.power := by
      rw [kept]
      exact read_send st.power cmd
    rw [read, kept]
    refine ⟨rfl, fun old accepted allows => ?_, fun fine => read_request (tracks.next fine), fun _ _ => rfl,
      fun _ => rfl⟩
    cases accepted
    exact (accepted_pmi st cmd).trans allows
  | accepted built mono =>
    have read : cmd.read power = iwlPowerBuildCmd env := by
      cases cmd with
      | given cmd => exact quiet rfl
      | next => exact built.next
    rw [read]
    refine ⟨?_, fun old accepted allows => ?_, fun _ => ?_, fun _ _ => built.next.symm, fun _ => built.next.symm⟩
    · rw [built.accepted, Option.getD_some]
    · rw [built.accepted] at accepted
      cases accepted
      exact built.pmi.trans allows
    · rw [built.next, built.requested, Option.getD_some]
  | refused accepted next failed pmi =>
    have read : cmd.read power = cmd.read st.power := by
      cases cmd with
      | given cmd => rfl
      | next => exact next.trans (quiet rfl).symm
    rw [read]
    refine ⟨?_, fun old was allows => ?_, fun fine => ?_, fun fine => ?_, fun other => (unready other).elim⟩
    · rw [accepted, Option.getD_some]
    · rw [accepted] at was
      cases was
      exact pmi allows
    · rw [failed] at fine
      cases fine
    · rw [failed] at fine
      cases fine

/-- **A call of `iwl_power_set_mode` keeps the invariant**, where it meets the condition. -/
theorem powerSetMode_tracks {depth : Nat} {cmd : CmdPointer} {force : Bool} {ret : Ret} {replayed' : Bool}
    (ran : iwlPowerSetMode dev env (depth + 1) st cmd force = some (ret, next))
    (tracks : Tracks dev replayed st.power) (idle : replayed' = true → st.phase = .none)
    (alone : force = false → st.power.sleepCmd = cmd.read st.power → st.power.sleepCmdNext = cmd.read st.power)
    (quiet : env.takes dev st (cmd.read st.power) force = true →
      env.nested st (cmd.read st.power) = some cmd.spoils → cmd.read st.power = iwlPowerBuildCmd env) :
    Tracks dev replayed' next.power := by
  have cases := powerSetMode_cases dev env depth st cmd force
  generalize iwlPowerSetMode dev env (depth + 1) st cmd force = result at ran cases
  cases cases with
  | unchanged same plain =>
    cases ran
    have next := alone plain same
    have settled := same.trans next.symm
    exact ⟨tracks.record, tracks.pmi, fun fine => next.trans (read_request (tracks.next fine)), fun _ _ => settled,
      fun _ => settled⟩
  | refused unready _ =>
    cases ran
    have settled := tracks.ready unready
    exact ⟨tracks.record, tracks.pmi, tracks.next, fun _ _ => settled, fun _ => settled⟩
  | deferred ready scanning _ _ =>
    cases ran
    refine ⟨tracks.record, tracks.pmi, fun fine => read_request (tracks.next fine),
      fun _ set => absurd (idle set) scanning, fun unready => ?_⟩
    rw [ready] at unready
    cases unready
  | failed ready _ _ _ =>
    cases ran
    refine ⟨tracks.record, fun old accepted allows => ?_, fun fine => (nomatch fine), fun fine => (nomatch fine),
      fun unready => ?_⟩
    · show (st.power.pmi || (cmd.read st.power).allowsSleep) = true
      rw [tracks.pmi old accepted allows, Bool.true_or]
    · rw [ready] at unready
      cases unready
  | sent ready plain changed reply =>
    obtain ⟨last, chains, recorded⟩ := Option.map_eq_some_iff.mp ran
    cases recorded
    have takes : env.takes dev st (cmd.read st.power) force = true := by
      unfold Setup.takes
      rw [ready, reply, Bool.true_and, Bool.and_true, Bool.or_eq_true, Bool.and_eq_true, beq_iff_eq, bne_iff_ne]
      cases force with
      | true => exact Or.inl rfl
      | false => exact Or.inr ⟨plain rfl, changed rfl⟩
    have nests : Nests env st cmd last.power (env.nested st (cmd.read st.power)) := by
      cases update : env.updateChains with
      | false =>
        rw [update] at chains
        cases chains
        rw [show env.nested st (cmd.read st.power) = none by
          unfold Setup.nested; rw [update, Bool.not_false, if_pos rfl]]
        exact .none rfl
      | true =>
        rw [update, if_pos rfl] at chains
        exact chainFlags_nested dev env ready chains update
    exact nests.tracks ready tracks (quiet takes)

end Tracks

/-- **What holds of a run**: the invariant, and that `iwlagn_post_scan` counts only while no scan is under way. -/
structure PowerRun.Good (run : PowerRun) : Prop where
  tracks : Tracks dev run.replayed run.st.power
  idle : run.replayed = true → run.st.phase = .none

/-- A context's turn at the end of `iwlagn_post_scan`. -/
theorem recommit_tracks {depth : Nat} {replayed : Bool} {st next : Priv} {ctx : CtxId}
    (ran : recommit dev env (iwlPowerUpdateMode dev env depth) st ctx = some next)
    (tracks : Tracks dev replayed st.power) : Tracks dev replayed next.power ∧ next.phase = st.phase := by
  unfold recommit at ran
  split at ran
  · exact ⟨commitRxon_tracks ran tracks, commitRxon_phase ran⟩
  · cases ran
    exact ⟨tracks, rfl⟩

/-- **Every action keeps it**, where it meets the condition. -/
theorem PowerRun.Good.step {dev : Device} {run next : PowerRun} {act : PowerAct} (good : run.Good dev)
    (safe : powerSafe dev run act = true) (stepped : powerStep dev run act = some next) : next.Good dev := by
  obtain ⟨tracks, idle⟩ := good
  cases act with
  | request env cmd force =>
    obtain ⟨⟨ret, st⟩, ran, last⟩ := Option.map_eq_some_iff.mp stepped
    cases last
    unfold powerSafe at safe
    simp only [Bool.and_eq_true, Bool.or_eq_true, bne_iff_ne, beq_iff_eq, Bool.not_eq_true'] at safe
    obtain ⟨alone, quiet⟩ := safe
    refine ⟨powerSetMode_tracks ran tracks idle (fun plain same => ?_) fun takes nested => ?_, fun set => ?_⟩
    · obtain (forced | differs) | next := alone
      · rw [plain] at forced
        cases forced
      · exact absurd same differs
      · exact next
    · obtain (untaken | built) | other := quiet
      · rw [show env.takes dev run.st cmd force = true from takes] at untaken
        cases untaken
      · exact built
      · exact absurd nested other
    · exact (powerSetMode_phase ran).trans (idle set)
  | scan phase =>
    cases stepped
    refine ⟨⟨tracks.record, tracks.pmi, tracks.next, fun fine set => ?_, tracks.ready⟩, fun set => ?_⟩
    · exact tracks.replayed fine (Bool.and_eq_true_iff.mp set).1
    · exact beq_iff_eq.mp (Bool.and_eq_true_iff.mp set).2
  | stage ctx image =>
    cases stepped
    exact ⟨tracks, idle⟩
  | commit env ctx =>
    obtain ⟨st, ran, last⟩ := Option.map_eq_some_iff.mp stepped
    cases last
    exact ⟨commitRxon_tracks ran tracks, fun set => (commitRxon_phase ran).trans (idle set)⟩
  | postScan env =>
    obtain ⟨st, ran, last⟩ := Option.map_eq_some_iff.mp stepped
    cases last
    obtain ⟨ret, mid, after, set, bss, pan⟩ := postScan_cases dev env ran
    unfold powerSafe at safe
    simp only [Bool.or_eq_true, bne_iff_ne, beq_iff_eq, Bool.not_eq_true'] at safe
    have ends : Tracks dev (run.st.phase == .none) mid.power := by
      refine powerSetMode_tracks set tracks beq_iff_eq.mp (fun _ _ => rfl) fun takes nested => ?_
      obtain (untaken | built) | other := safe
      · rw [show env.takes dev run.st run.st.power.sleepCmdNext false = true from takes] at untaken
        cases untaken
      · exact built
      · exact absurd nested other
    obtain ⟨tx, sent⟩ := setTxPower_tx dev env mid mid.tx.txPowerNext false
    rw [sent] at bss
    obtain ⟨tracks, phase⟩ := recommit_tracks dev env bss ends
    obtain ⟨tracks, phase'⟩ := recommit_tracks dev env pan tracks
    have same : mid.phase = run.st.phase := powerSetMode_phase set
    exact ⟨tracks, fun idle => phase'.trans (phase.trans (same.trans (beq_iff_eq.mp idle)))⟩

/-- **The last request wins, and the record is right**: from a driver whose power data is as after its allocation, in
every state of every run whose actions all meet the condition. -/
theorem powerLatest_of_safe (dev : Device) {start : Priv} (fresh : start.power = Priv.zero.power)
    {acts : List PowerAct} {last : PowerRun}
    (safe : Machine.allowed (powerStep dev) (powerSafe dev) ⟨start, start.phase == .none⟩ acts = true)
    (ran : Machine.run (powerStep dev) ⟨start, start.phase == .none⟩ acts = some last) : PowerLatest last := by
  have begins : PowerRun.Good dev ⟨start, start.phase == .none⟩ := by
    refine ⟨?_, beq_iff_eq.mp⟩
    dsimp only
    rw [fresh]
    exact ⟨rfl, fun _ none => (nomatch none), fun _ => rfl, fun _ _ => rfl, fun _ => rfl⟩
  obtain ⟨tracks, _⟩ := Machine.run_invariant_of_allowed (PowerRun.Good dev)
    (fun _ _ _ good safe stepped => good.step safe stepped) begins safe ran
  refine ⟨tracks.record, tracks.pmi, fun fine _ set => ?_⟩
  rw [← tracks.record, tracks.replayed fine set, tracks.next fine]

/-- A command without sleep, and one with it. -/
def awakeCmd : PowertableCmd := { PowertableCmd.zero with flags := iwlPowerPciPmMsk }

def sleepyCmd : PowertableCmd := { PowertableCmd.zero with flags := iwlPowerDriverAllowSleepMsk }

/-- A request during a scan, which is sent after it. -/
def deferredRun : List PowerAct :=
  [.request .plain awakeCmd true, .scan .scanning, .request .plain sleepyCmd false, .scan .none, .postScan .plain]

theorem powerLatest_of_safe_deferred : ∃ last,
    Machine.run (powerStep readyDevice) ⟨.zero, true⟩ deferredRun = some last ∧
    last.st.power.accepted = some sleepyCmd ∧ PowerLatest last := by
  obtain ⟨last, ran⟩ : ∃ last, Machine.run (powerStep readyDevice) ⟨.zero, true⟩ deferredRun = some last := ⟨_, rfl⟩
  refine ⟨last, ran, ?_, powerLatest_of_safe readyDevice rfl (by decide +kernel) ran⟩
  have accepted : (Machine.run (powerStep readyDevice) ⟨.zero, true⟩ deferredRun).bind (·.st.power.accepted) =
      some sleepyCmd := by decide +kernel
  rw [ran] at accepted
  exact accepted

/-- A driver whose BSS context is associated. -/
def associated : Priv :=
  { Priv.zero with staging := fun _ => onChannel6, rxon := ⟨fun _ => onChannel6, fun _ => onChannel6⟩ }

/-- The command in force is requested again during a scan, after another one. -/
def takenBack : List PowerAct :=
  [.request .plain awakeCmd true, .scan .scanning, .request .plain sleepyCmd false, .request .plain awakeCmd false,
    .scan .none, .postScan .plain]

/-- A request that nests the built command. -/
def nestedRun : List PowerAct := [.request .plain sleepyCmd true]

/-- One that `iwlagn_post_scan` sends, and the nested command fails. -/
def nestedFails : List PowerAct :=
  [.scan .scanning, .request .plain sleepyCmd false, .scan .none,
    .postScan { Setup.plain with powerReply := fun sent => sent == 0 }]

/-- **The last request does not win, and the record is wrong**: a request that was taken back is sent after the scan;
the nested command is accepted last, and the outer one goes on record; and a nested command that failed goes on
record. -/
theorem powerLatest_broken :
    (∃ last, Machine.run (powerStep readyDevice) ⟨.zero, true⟩ takenBack = some last ∧
      last.st.power.accepted = some sleepyCmd ∧ last.st.power.requested = some awakeCmd ∧ ¬ PowerLatest last) ∧
    (∃ last, Machine.run (powerStep readyDevice) ⟨associated, true⟩ nestedRun = some last ∧
      last.st.power.sleepCmd = sleepyCmd ∧ last.st.power.accepted = some .zero ∧ ¬ PowerLatest last) ∧
    (∃ last, Machine.run (powerStep readyDevice) ⟨associated, true⟩ nestedFails = some last ∧
      last.st.power.sleepCmd = .zero ∧ last.st.power.accepted = some sleepyCmd ∧ ¬ PowerLatest last) := by
  refine ⟨⟨_, rfl, by decide +kernel, by decide +kernel, fun right => ?_⟩,
    ⟨_, rfl, by decide +kernel, by decide +kernel, fun right => ?_⟩,
    ⟨_, rfl, by decide +kernel, by decide +kernel, fun right => ?_⟩⟩
  · have latest := right.latest (by decide +kernel) (by decide +kernel) (by decide +kernel)
    revert latest
    decide +kernel
  · have record := right.record
    revert record
    decide +kernel
  · have record := right.record
    revert record
    decide +kernel

end IntelWifi.Dvm.Power
