/-
**How deep power modes and commits nest.**

A call of `iwl_power_set_mode` nests another one only through a commit that RXON_ASSOC is enough for. Such a commit
makes the staged `rx_chain` the active one, and each nested call stages the same: the one of the command that
`iwl_power_build_cmd` builds. So each level leaves one context less that can nest a further one.

* `powerUpdateMode_nesting`: a depth above the number of the contexts whose active `rx_chain` is another is enough.
* `powerSetMode_returns`, `powerSetMode_deeper`: four are always enough, and more change nothing.
* `powerSetMode_nesting`: the two together.
-/

import IntelWifi.Dvm.PowerCalls

namespace IntelWifi.Dvm.Power

open Rxon

variable (dev : Device) (env : Setup)

/-! ### The measure -/

/-- A context's active `rx_chain` is not the one that goes with the built command. -/
def staleChain (st : Priv) (ctx : CtxId) : Nat :=
  if (st.rxon.active ctx).rxChain = rxChain env.chains env.builtPmi then 0 else 1

/-- **The measure**: the number of such contexts. -/
def staleChains (st : Priv) : Nat := staleChain env st .bss + staleChain env st .pan

theorem staleChains_le (st : Priv) : staleChains env st ≤ 2 := by
  unfold staleChains staleChain
  split <;> split <;> omega

/-- **A turn under the chain that goes with the built command** leaves no context stale that was not; and if it goes
on to update the power mode, one less. -/
theorem chainTurn_stale {st : Priv} (ctx : CtxId) (pmi : st.power.pmi = env.builtPmi) :
    staleChains env (chainTurn dev env st ctx) ≤ staleChains env st ∧
      (env.reenters st ctx = true → staleChains env (chainTurn dev env st ctx) < staleChains env st) := by
  obtain ⟨image, rxon, tx, turned, staged, became, reentered⟩ := chainTurn_frame dev env st ctx
  have other (valid : env.valid ctx = true) (active : rxon.active = Function.update st.rxon.active ctx image)
      (c : CtxId) : staleChain env (chainTurn dev env st ctx) c ≤ staleChain env st c := by
    rw [turned]
    unfold staleChain
    dsimp only
    rw [active]
    by_cases same : c = ctx
    · rw [same, Function.update_self, staged valid, pmi, if_pos rfl]
      exact Nat.zero_le _
    · rw [Function.update_of_ne same]
  have kept (active : rxon.active = st.rxon.active) :
      staleChains env (chainTurn dev env st ctx) = staleChains env st := by
    rw [turned]
    unfold staleChains staleChain
    dsimp only
    rw [active]
  constructor
  · cases valid : env.valid ctx with
    | false =>
      rw [show chainTurn dev env st ctx = st by rw [chainTurn, valid, if_neg Bool.false_ne_true]]
    | true =>
      obtain active | active := became
      · exact Nat.le_of_eq (kept active)
      · exact Nat.add_le_add (other valid active .bss) (other valid active .pan)
  · intro reenters
    have active := reentered reenters
    unfold Setup.reenters Setup.differs at reenters
    simp only [Bool.and_eq_true, bne_iff_ne] at reenters
    obtain ⟨⟨valid, differs⟩, _⟩ := reenters
    have here : staleChain env (chainTurn dev env st ctx) ctx < staleChain env st ctx := by
      rw [turned]
      unfold staleChain
      dsimp only
      rw [active, Function.update_self, staged valid, pmi, if_pos rfl, if_neg (pmi ▸ differs)]
      exact Nat.zero_lt_one
    have bss := other valid active .bss
    have pan := other valid active .pan
    unfold staleChains
    cases ctx <;> omega

/-! ### The depth -/

/-- Up to so many stale contexts, an update of the power mode returns. It makes no context stale, and keeps PMI as
the built command has it. -/
def Returns (update : Priv → Option Priv) (depth : Nat) : Prop :=
  ∀ st, staleChains env st < depth → ∃ next, update st = some next ∧ staleChains env next ≤ staleChains env st ∧
    (st.power.pmi = env.builtPmi → next.power.pmi = env.builtPmi)

/-- A context's turn: the update, if there is one, starts from a state with one stale context less. -/
theorem updateChain_returns {update : Priv → Option Priv} {depth : Nat} (returns : Returns env update depth)
    {st : Priv} (ctx : CtxId) (few : staleChains env st < depth + 1) (pmi : st.power.pmi = env.builtPmi) :
    ∃ next, updateChain dev env update st ctx = some next ∧ staleChains env next ≤ staleChains env st ∧
      next.power.pmi = env.builtPmi := by
  obtain ⟨kept, less⟩ := chainTurn_stale dev env ctx pmi
  have pmi' : (chainTurn dev env st ctx).power.pmi = env.builtPmi := by
    rw [chainTurn_power, pmi]
  rw [updateChain_update]
  cases reenters : env.reenters st ctx with
  | false => exact ⟨_, rfl, kept, pmi'⟩
  | true =>
    have fewer := less reenters
    obtain ⟨next, ran, fewest, keepsPmi⟩ := returns (chainTurn dev env st ctx) (by omega)
    exact ⟨next, ran, Nat.le_trans fewest kept, keepsPmi pmi'⟩

/-- Both turns. -/
theorem updateChainFlags_returns {update : Priv → Option Priv} {depth : Nat} (returns : Returns env update depth)
    {st : Priv} (few : staleChains env st < depth + 1) (pmi : st.power.pmi = env.builtPmi) :
    ∃ next, iwlUpdateChainFlags dev env update st = some next ∧ staleChains env next ≤ staleChains env st ∧
      next.power.pmi = env.builtPmi := by
  obtain ⟨mid, bss, fewer, pmi'⟩ := updateChain_returns dev env returns .bss few pmi
  obtain ⟨next, pan, fewer', pmi''⟩ := updateChain_returns dev env returns .pan
    (Nat.lt_of_le_of_lt fewer few) pmi'
  refine ⟨next, ?_, Nat.le_trans fewer' fewer, pmi''⟩
  unfold iwlUpdateChainFlags
  rw [bss, Option.bind_some, pan]

/-- **The nesting of the built command.** Induction on the depth: the next level has a stale context less. -/
theorem powerUpdateMode_nesting (depth : Nat) : Returns env (iwlPowerUpdateMode dev env depth) depth := by
  induction depth with
  | zero => exact fun st few => absurd few (Nat.not_lt_zero _)
  | succ depth ih =>
    intro st few
    unfold iwlPowerUpdateMode
    have cases := powerSetMode_cases dev env depth st (.given (iwlPowerBuildCmd env)) true
    generalize iwlPowerSetMode dev env (depth + 1) st (.given (iwlPowerBuildCmd env)) true = result at cases
    cases cases with
    | unchanged _ plain => cases plain
    | refused _ _ => exact ⟨st, rfl, Nat.le_refl _, id⟩
    | deferred _ _ plain _ => cases plain
    | failed _ _ _ _ =>
      refine ⟨_, rfl, Nat.le_refl _, fun pmi => ?_⟩
      show (st.power.pmi || env.builtPmi) = env.builtPmi
      rw [pmi, Bool.or_self]
    | sent _ _ _ _ =>
      have pmi : (st.accepted (.given (iwlPowerBuildCmd env))).power.pmi = env.builtPmi := accepted_pmi st _
      unfold afterAccept
      cases env.updateChains with
      | false => exact ⟨_, rfl, Nat.le_refl _, fun _ => pmi⟩
      | true =>
        obtain ⟨next, ran, fewer, pmi'⟩ := updateChainFlags_returns dev env ih
          (show staleChains env (st.accepted (.given (iwlPowerBuildCmd env))) < depth + 1 from few) pmi
        rw [if_pos rfl, ran]
        exact ⟨_, rfl, fewer, fun _ => pmi'⟩

/-- So three levels are always enough for it. -/
theorem powerUpdateMode_returns {depth : Nat} (deep : 3 ≤ depth) (st : Priv) :
    ∃ next, iwlPowerUpdateMode dev env depth st = some next := by
  obtain ⟨next, ran, _⟩ := powerUpdateMode_nesting dev env depth st
    (Nat.lt_of_lt_of_le (Nat.lt_succ_of_le (staleChains_le env st)) deep)
  exact ⟨next, ran⟩

/-- So a context's turn always returns with them. -/
theorem updateChain_total {depth : Nat} (deep : 3 ≤ depth) (st : Priv) (ctx : CtxId) :
    ∃ next, updateChain dev env (iwlPowerUpdateMode dev env depth) st ctx = some next := by
  rw [updateChain_update]
  split
  · exact powerUpdateMode_returns dev env deep _
  · exact ⟨_, rfl⟩

/-- And so does a commit. -/
theorem commitRxon_returns {depth : Nat} (deep : 3 ≤ depth) (st : Priv) (ctx : CtxId) :
    ∃ next, (iwlagnCommitRxon dev env (iwlPowerUpdateMode dev env depth) st ctx).map Prod.snd = some next := by
  rw [commitRxon_update]
  split
  · exact powerUpdateMode_returns dev env deep _
  · exact ⟨_, rfl⟩

/-- **Four levels are enough** for any command. -/
theorem powerSetMode_returns {depth : Nat} (deep : 3 ≤ depth) (st : Priv) (cmd : CmdPointer) (force : Bool) :
    ∃ ret next, iwlPowerSetMode dev env (depth + 1) st cmd force = some (ret, next) := by
  have cases := powerSetMode_cases dev env depth st cmd force
  generalize iwlPowerSetMode dev env (depth + 1) st cmd force = result at cases
  cases cases with
  | unchanged _ _ => exact ⟨_, _, rfl⟩
  | refused _ _ => exact ⟨_, _, rfl⟩
  | deferred _ _ _ _ => exact ⟨_, _, rfl⟩
  | failed _ _ _ _ => exact ⟨_, _, rfl⟩
  | sent _ _ _ _ =>
    unfold afterAccept
    cases env.updateChains with
    | false => exact ⟨_, _, rfl⟩
    | true =>
      obtain ⟨mid, bss⟩ := updateChain_total dev env deep (st.accepted cmd) .bss
      obtain ⟨next, pan⟩ := updateChain_total dev env deep mid .pan
      rw [if_pos rfl, iwlUpdateChainFlags, bss, Option.bind_some, pan]
      exact ⟨_, _, rfl⟩

/-- And for `iwlagn_post_scan`. -/
theorem postScan_returns {depth : Nat} (deep : 3 ≤ depth) (st : Priv) :
    ∃ next, iwlagnPostScan dev env (depth + 1) st = some next := by
  have turn (st : Priv) (ctx : CtxId) :
      ∃ next, recommit dev env (iwlPowerUpdateMode dev env (depth + 1)) st ctx = some next := by
    unfold recommit
    split
    · exact commitRxon_returns dev env (Nat.le_succ_of_le deep) st ctx
    · exact ⟨_, rfl⟩
  obtain ⟨ret, mid, ran⟩ := powerSetMode_returns dev env deep st .next false
  unfold iwlagnPostScan
  rw [ran, Option.bind_some]
  dsimp only
  generalize (iwlSetTxPower dev env mid mid.tx.txPowerNext false).2 = mid
  obtain ⟨after, bss⟩ := turn mid .bss
  rw [bss, Option.bind_some]
  exact turn after .pan

/-! ### A deeper stack changes nothing -/

/-- Where the one returns, the other returns the same. -/
def Extends (update update' : Priv → Option Priv) : Prop := ∀ st next, update st = some next → update' st = some next

section Extends

variable {dev env} {update update' : Priv → Option Priv}

theorem updateChain_extends (extends' : Extends update update') {st next : Priv} {ctx : CtxId}
    (ran : updateChain dev env update st ctx = some next) : updateChain dev env update' st ctx = some next := by
  rw [updateChain_update] at ran ⊢
  cases reenters : env.reenters st ctx with
  | false =>
    rw [reenters] at ran
    exact ran
  | true =>
    rw [reenters] at ran
    exact extends' _ _ ran

theorem updateChainFlags_extends (extends' : Extends update update') {st next : Priv}
    (ran : iwlUpdateChainFlags dev env update st = some next) : iwlUpdateChainFlags dev env update' st = some next := by
  obtain ⟨mid, bss, pan⟩ := Option.bind_eq_some_iff.mp ran
  exact Option.bind_eq_some_iff.mpr ⟨mid, updateChain_extends extends' bss, updateChain_extends extends' pan⟩

end Extends

/-- **A call that returns, returns the same with more levels.** -/
theorem powerSetMode_deeper (depth : Nat) : ∀ (st : Priv) (cmd : CmdPointer) (force : Bool) (result : Ret × Priv),
    iwlPowerSetMode dev env depth st cmd force = some result →
      iwlPowerSetMode dev env (depth + 1) st cmd force = some result := by
  induction depth with
  | zero => exact fun _ _ _ _ ran => nomatch ran
  | succ depth ih =>
    intro st cmd force result ran
    have deeper : Extends (iwlPowerUpdateMode dev env depth) (iwlPowerUpdateMode dev env (depth + 1)) := by
      intro st next ran
      obtain ⟨result, ran, last⟩ := Option.map_eq_some_iff.mp ran
      exact Option.map_eq_some_iff.mpr ⟨result, ih _ _ _ _ ran, last⟩
    unfold iwlPowerSetMode at ran ⊢
    by_cases same : st.power.sleepCmd = cmd.read st.power ∧ force = false
    · rw [if_pos same] at ran ⊢
      exact ran
    · rw [if_neg same] at ran ⊢
      cases ready : dev.readyRf with
      | false =>
        rw [ready] at ran
        exact ran
      | true =>
        rw [ready, Bool.not_true, if_neg Bool.false_ne_true] at ran
        rw [Bool.not_true, if_neg Bool.false_ne_true]
        dsimp only at ran ⊢
        by_cases defer : st.phase ≠ .none ∧ force = false
        · rw [if_pos defer] at ran ⊢
          exact ran
        · rw [if_neg defer] at ran ⊢
          cases reply : env.powerReply st.power.sent with
          | false =>
            rw [reply] at ran
            exact ran
          | true =>
            rw [reply, Bool.not_true, if_neg Bool.false_ne_true] at ran
            rw [Bool.not_true, if_neg Bool.false_ne_true]
            -- Only the update of the chains goes deeper.
            obtain ⟨mid, updated, last⟩ := Option.map_eq_some_iff.mp ran
            refine Option.map_eq_some_iff.mpr ⟨mid, ?_, last⟩
            cases chains : env.updateChains with
            | false =>
              rw [chains] at updated
              exact updated
            | true =>
              rw [chains, if_pos rfl] at updated
              rw [if_pos rfl]
              exact updateChainFlags_extends deeper updated

/-- **The mutual recursion stops**: from every state, for every command, and whatever becomes of what is sent, a call
of `iwl_power_set_mode` returns with four calls of it at most on the stack, and a deeper stack would change nothing. -/
theorem powerSetMode_nesting (dev : Device) (env : Setup) (st : Priv) (cmd : CmdPointer) (force : Bool) :
    ∃ ret next, ∀ depth, 4 ≤ depth → iwlPowerSetMode dev env depth st cmd force = some (ret, next) := by
  obtain ⟨ret, next, ran⟩ := powerSetMode_returns dev env (Nat.le_refl 3) st cmd force
  refine ⟨ret, next, fun depth deep => ?_⟩
  induction depth, deep using Nat.le_induction with
  | base => exact ran
  | succ depth _ ih => exact powerSetMode_deeper dev env depth _ _ _ _ ih

end IntelWifi.Dvm.Power
