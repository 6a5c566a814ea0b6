/-
**How a TX power that was put off is sent.**

A TX power that could not be set at once stays in `tx_power_next`. An RXON_ASSOC, a connection and `iwlagn_post_scan`
send it; a connection while the device scans cannot, and drops it. Followed here is what becomes of it in a commit and
in `iwlagn_post_scan`, with the power mode that they go on to, when no command fails.

* `Commits.succeeds`: what a commit comes to.
* `Commits.holds`, `Commits.connects`: what a commit does to the TX data, and that it leaves no connection to be made.
* `commitRxon_txKept`, `postScan_txKept`: when nothing is dropped.
* `commitRxon_sends`, `postScan_sends`: when it is sent.
-/

import IntelWifi.Dvm.PowerNesting
import IntelWifi.Dvm.StagedImage

namespace IntelWifi.Dvm.Power

open Rxon

/-! ### Commands that succeed -/

/-- No command fails. -/
structure Setup.Succeeds (env : Setup) : Prop where
  commit : ∀ commits command, env.commitReply commits command = .ok
  power : ∀ sent, env.powerReply sent = true
  txPower : ∀ sent, env.txPowerReply sent = true

/-- The same, with commands that succeed. -/
def Setup.succeeding (env : Setup) : Setup :=
  { env with commitReply := fun _ _ => .ok, powerReply := fun _ => true, txPowerReply := fun _ => true }

theorem succeeding_succeeds (env : Setup) : env.succeeding.Succeeds := ⟨fun _ _ => rfl, fun _ => rfl, fun _ => rfl⟩

section Succeeds

variable {env : Setup} (succeeds : env.Succeeds) (st : Priv) (ctx : CtxId)
include succeeds

theorem call_reply (command : CommitCommand) : (env.call st ctx).reply command = .ok := by
  show (if command = .txPower then Reply.ok else env.commitReply st.commits command) = .ok
  rw [succeeds.commit]
  split <;> rfl

theorem call_disconnects : (env.call st ctx).disconnects = true := by
  unfold CommitCall.disconnects
  simp only [call_reply succeeds st ctx, Reply.passed, Bool.and_true, Bool.true_and, Bool.or_true]
  cases (env.call st ctx).ctx <;> rfl

end Succeeds

/-! ### The TX data -/

/-- **What is to be sent** is in `tx_power_next`. If it is not in force, it could be sent; and the limit in force is
the one that was sent last. -/
structure Holds (dev : Device) (txPower : Int) (tx : TxData) : Prop where
  next : tx.txPowerNext = txPower
  sendable : tx.txPowerUserLmt ≠ txPower →
    dev.calibDisabled = false ∧ dev.inRange txPower = true ∧ dev.readyRf = true
  sent : ∀ lmt, tx.globalLmt = some lmt → lmt = globalLmt dev tx.txPowerUserLmt

section Holds

variable {dev : Device} {env : Setup} {txPower : Int} {st : Priv}

/-- **`iwl_set_tx_power` for what is to be sent.** -/
theorem setTxPower_holds (succeeds : env.Succeeds) (holds : Holds dev txPower st.tx) (force : Bool)
    (free : force = true → st.phase ≠ .hw ∨ st.tx.txPowerUserLmt = txPower) :
    Holds dev txPower (iwlSetTxPower dev env st txPower force).2.tx ∧
      (st.tx.txPowerUserLmt = txPower → (iwlSetTxPower dev env st txPower force).2.tx.txPowerUserLmt = txPower) ∧
      (force = true ∨ st.phase = .none ∧ st.bssEqual →
        (iwlSetTxPower dev env st txPower force).2.tx.txPowerUserLmt = txPower) := by
  have sendable (other : ¬ (dev.calibDisabled = false ∧ dev.inRange txPower = true ∧ dev.readyRf = true)) :
      st.tx.txPowerUserLmt = txPower :=
    Decidable.byContradiction fun differs => other (holds.sendable differs)
  have cases := setTxPower_cases dev env st txPower force
  generalize iwlSetTxPower dev env st txPower force = result at cases
  cases cases with
  | disabled disabled => exact ⟨holds, id, fun _ => sendable fun can => by rw [disabled] at can; cases can.1⟩
  | unchanged _ same _ => exact ⟨holds, id, fun _ => same⟩
  | outOfRange range => exact ⟨holds, id, fun _ => sendable fun can => by rw [range] at can; cases can.2.1⟩
  | refused unready => exact ⟨holds, id, fun _ => sendable fun can => by rw [unready] at can; cases can.2.2⟩
  | deferred _ _ _ defer plain _ =>
    refine ⟨⟨rfl, holds.sendable, holds.sent⟩, id, fun now => ?_⟩
    obtain forced | ⟨idle, equal⟩ := now
    · rw [plain] at forced
      cases forced
    · exact (defer.elim (fun scanning => scanning idle) fun differs => differs equal).elim
  | scans forced hw _ =>
    obtain same | same := free forced
    · exact absurd hw same
    · exact ⟨⟨same, fun differs => absurd same differs, holds.sent⟩, id, fun _ => same⟩
  | failed reply =>
    rw [succeeds.txPower] at reply
    cases reply
  | sent _ _ _ _ _ =>
    exact ⟨⟨rfl, fun differs => absurd rfl differs, fun lmt same => (Option.some.inj same).symm⟩, fun _ => rfl,
      fun _ => rfl⟩

end Holds

/-! ### What is staged -/

theorem stage_staging (st : Priv) (ctx : CtxId) (image : RxonCmd) : (st.stage ctx image).staging ctx = image := by
  show Function.update st.staging ctx image ctx = image
  rw [Function.update_self]

/-- The image that a context's commit prepares. -/
def Setup.prepare (env : Setup) (ctx : CtxId) (image : RxonCmd) : RxonCmd :=
  prepareImage (env.vif ctx) env.useRtsForAggregation image

/-- A commit of the context would connect. -/
def Setup.connects (env : Setup) (st : Priv) (ctx : CtxId) : Bool :=
  env.committable st ctx && env.full st ctx && (st.staging ctx).assoc

section Staged

variable (env : Setup) (st : Priv) (ctx : CtxId)

theorem call_prepared : (env.call st ctx).prepared = env.prepare ctx (st.staging ctx) := prepared_eq _

theorem call_image :
    (env.call st ctx).image = iwlSetRxonHwcrypto (env.prepare ctx (st.staging ctx)) (!env.swcrypto) := by
  rw [← call_prepared env st ctx]
  rfl

theorem committable_eq : env.committable st ctx =
    (env.alive && env.isActive ctx && iwlCheckRxonCmd (env.prepare ctx (st.staging ctx))) := by
  rw [← call_prepared]
  rfl

theorem full_eq : env.full st ctx = iwlFullRxonRequired (st.staging ctx) (st.rxon.active ctx) := by
  unfold Setup.full
  rw [call_prepared]
  exact full_prepare _ _ _ _

/-- What is active is not connected again. -/
theorem connects_equal (equal : st.rxon.active ctx = st.staging ctx) : env.connects st ctx = false := by
  unfold Setup.connects
  rw [full_eq, equal, full_self]
  cases (st.staging ctx).assoc with
  | false => exact Bool.and_false _
  | true => rw [Bool.not_true, Bool.and_false, Bool.false_and]

theorem connects_congr {st st' : Priv} {ctx : CtxId} (staging : st.staging ctx = st'.staging ctx)
    (active : st.rxon.active ctx = st'.rxon.active ctx) : env.connects st ctx = env.connects st' ctx := by
  unfold Setup.connects
  rw [committable_eq, committable_eq, full_eq, full_eq, staging, active]

end Staged

section Commits

variable {dev : Device} {env : Setup} {txPower : Int} {st mid : Priv} {ctx : CtxId}

/-- An image that a commit may stage in place of this one. -/
structure Restaged (env : Setup) (ctx : CtxId) (old image : RxonCmd) : Prop where
  assoc : image.assoc = old.assoc
  check : iwlCheckRxonCmd (env.prepare ctx image) = iwlCheckRxonCmd (env.prepare ctx old)

theorem restaged_prepared (st : Priv) (ctx : CtxId) :
    Restaged env ctx (st.staging ctx) (env.call st ctx).prepared := by
  rw [call_prepared]
  refine ⟨rfl, ?_⟩
  unfold Setup.prepare
  rw [prepareImage_idem]

theorem restaged_image (st : Priv) (ctx : CtxId) : Restaged env ctx (st.staging ctx) (env.call st ctx).image := by
  rw [call_image]
  refine ⟨assoc_hwcrypto _ _, ?_⟩
  unfold Setup.prepare
  rw [prepareImage_hwcrypto, check_hwcrypto, prepareImage_idem]

theorem setTxPower_staging (st : Priv) (txPower : Int) (force : Bool) :
    (iwlSetTxPower dev env st txPower force).2.staging = st.staging := by
  obtain ⟨tx, changed⟩ := setTxPower_tx dev env st txPower force
  rw [changed]

theorem setTxPower_rxon (st : Priv) (txPower : Int) (force : Bool) :
    (iwlSetTxPower dev env st txPower force).2.rxon = st.rxon := by
  obtain ⟨tx, changed⟩ := setTxPower_tx dev env st txPower force
  rw [changed]

/-- **What a commit stages.** -/
theorem Commits.staging (commits : Commits dev env st ctx mid) : ∃ image : RxonCmd,
    mid.staging = Function.update st.staging ctx image ∧ Restaged env ctx (st.staging ctx) image := by
  cases commits with
  | idle _ => exact ⟨st.staging ctx, (Function.update_eq_self ctx st.staging).symm, rfl, rfl⟩
  | invalid _ => exact ⟨_, rfl, restaged_prepared st ctx⟩
  | unsent _ _ _ _ => exact ⟨_, rfl, restaged_prepared st ctx⟩
  | fast _ _ _ => exact ⟨_, setTxPower_staging _ _ _, restaged_prepared st ctx⟩
  | undone _ _ _ _ => exact ⟨_, rfl, restaged_image st ctx⟩
  | disconnected _ _ _ _ _ => exact ⟨_, rfl, restaged_image st ctx⟩
  | connected _ _ _ _ _ => exact ⟨_, setTxPower_staging _ _ _, restaged_image st ctx⟩

/-- **Nothing changes in whether a context is committable, and whether it is to be associated.** -/
theorem Commits.stays (commits : Commits dev env st ctx mid) (c : CtxId) :
    env.committable mid c = env.committable st c ∧ (mid.staging c).assoc = (st.staging c).assoc := by
  obtain ⟨image, staging, restaged⟩ := commits.staging
  rw [committable_eq, committable_eq, staging]
  by_cases same : c = ctx
  · subst same
    rw [Function.update_self, restaged.check, restaged.assoc]
    exact ⟨rfl, rfl⟩
  · rw [Function.update_of_ne same]
    exact ⟨rfl, rfl⟩

/-- The other context stays as it is. -/
theorem Commits.others (commits : Commits dev env st ctx mid) {c : CtxId} (other : c ≠ ctx) :
    mid.staging c = st.staging c ∧ mid.rxon.active c = st.rxon.active c := by
  obtain ⟨image, rxon, tx, frame, _, became, _⟩ := commits.frame
  rw [frame]
  constructor
  · exact Function.update_of_ne other image st.staging
  · obtain kept | update := became
    · exact congrFun kept c
    · exact (congrFun update c).trans (Function.update_of_ne other image st.rxon.active)

/-- What a commit comes to that gets past its checks. -/
inductive Passes (dev : Device) (env : Setup) (st : Priv) (ctx : CtxId) : Priv → Prop
  | fast (rxon : RxonState) : rxon.active = Function.update st.rxon.active ctx (env.call st ctx).prepared →
      Passes dev env st ctx (iwlSetTxPower dev env
        { st.count.stage ctx (env.call st ctx).prepared with rxon := rxon } st.tx.txPowerNext false).2
  | disconnected (rxon : RxonState) : (st.staging ctx).assoc = false →
      rxon.active = Function.update st.rxon.active ctx (env.call st ctx).image →
      Passes dev env st ctx { st.count.stage ctx (env.call st ctx).image with rxon := rxon }
  | connected (rxon : RxonState) : env.connects st ctx = true →
      rxon.active = Function.update st.rxon.active ctx (env.call st ctx).image →
      Passes dev env st ctx (iwlSetTxPower dev env
        { st.count.stage ctx (env.call st ctx).image with rxon := rxon } st.tx.txPowerNext true).2

/-- **A commit, when no command fails**: it does nothing, or refuses what it prepared, or passes. -/
theorem Commits.succeeds (succeeds : env.Succeeds) (commits : Commits dev env st ctx mid) :
    env.committable st ctx = false ∧ (
      (env.alive && env.isActive ctx) = false ∧ mid = st.count ∨
      iwlCheckRxonCmd (env.prepare ctx (st.staging ctx)) = false ∧
        mid = st.count.stage ctx (env.prepare ctx (st.staging ctx))) ∨
    env.committable st ctx = true ∧ Passes dev env st ctx mid := by
  cases commits with
  | idle idle =>
    refine Or.inl ⟨?_, Or.inl ⟨idle, rfl⟩⟩
    rw [committable_eq, show (env.alive && env.isActive ctx) = false from idle, Bool.false_and]
  | invalid invalid =>
    rw [call_prepared] at invalid ⊢
    exact Or.inl ⟨by rw [committable_eq, invalid, Bool.and_false], Or.inr ⟨invalid, rfl⟩⟩
  | unsent _ _ failed _ =>
    rw [call_reply succeeds st ctx] at failed
    cases failed
  | fast rxon fast active =>
    unfold Setup.fast at fast
    exact Or.inr ⟨(Bool.and_eq_true_iff.mp (Bool.and_eq_true_iff.mp fast).1).1, .fast rxon active⟩
  | undone _ _ disconnects _ =>
    rw [call_disconnects succeeds st ctx] at disconnects
    cases disconnects
  | disconnected rxon committable _ fails active =>
    refine Or.inr ⟨committable, .disconnected rxon (Bool.eq_false_iff.mpr fun assoc => ?_) active⟩
    obtain ⟨command, fails⟩ := fails assoc
    exact fails (call_reply succeeds st ctx command)
  | connected rxon committable full assoc active =>
    refine Or.inr ⟨committable, .connected rxon ?_ active⟩
    unfold Setup.connects
    rw [committable, full]
    exact assoc

theorem Commits.passes (succeeds : env.Succeeds) (commits : Commits dev env st ctx mid)
    (committable : env.committable st ctx = true) : Passes dev env st ctx mid := by
  obtain ⟨uncommittable, _⟩ | ⟨_, passes⟩ := commits.succeeds succeeds
  · rw [committable] at uncommittable
    cases uncommittable
  · exact passes

theorem Commits.uncommittable (succeeds : env.Succeeds) (commits : Commits dev env st ctx mid)
    (uncommittable : env.committable st ctx = false) :
    (env.alive && env.isActive ctx) = false ∧ mid = st.count ∨
      iwlCheckRxonCmd (env.prepare ctx (st.staging ctx)) = false ∧
        mid = st.count.stage ctx (env.prepare ctx (st.staging ctx)) := by
  obtain ⟨_, ends⟩ | ⟨committable, _⟩ := commits.succeeds succeeds
  · exact ends
  · rw [committable] at uncommittable
    cases uncommittable

/-- **What a commit stages becomes active**, if it gets past its checks. -/
theorem Passes.equal (passes : Passes dev env st ctx mid) : mid.rxon.active ctx = mid.staging ctx := by
  have became (rxon : RxonState) (image : RxonCmd) (active : rxon.active = Function.update st.rxon.active ctx image) :
      rxon.active ctx = (st.count.stage ctx image).staging ctx := by
    rw [active, stage_staging, Function.update_self]
  cases passes with
  | fast rxon active =>
    rw [setTxPower_rxon, setTxPower_staging]
    exact became rxon _ active
  | disconnected rxon _ active => exact became rxon _ active
  | connected rxon _ active =>
    rw [setTxPower_rxon, setTxPower_staging]
    exact became rxon _ active

/-- **A commit leaves no connection to be made** in its context. -/
theorem Commits.connects (succeeds : env.Succeeds) (commits : Commits dev env st ctx mid) {c : CtxId}
    (connects : env.connects mid c = true) :
    env.connects st c = true ∧ mid.rxon.active c = st.rxon.active c := by
  by_cases same : c = ctx
  · subst same
    obtain ⟨uncommittable, _⟩ | ⟨_, passes⟩ := commits.succeeds succeeds
    · unfold Setup.connects at connects
      rw [(commits.stays c).1, uncommittable] at connects
      cases connects
    · rw [connects_equal env mid c passes.equal] at connects
      cases connects
  · obtain ⟨staging, active⟩ := commits.others same
    exact ⟨(connects_congr env staging active).symm.trans connects, active⟩

/-- **What a commit does to the TX data.** -/
theorem Commits.holds (succeeds : env.Succeeds) (commits : Commits dev env st ctx mid)
    (holds : Holds dev txPower st.tx)
    (free : env.connects st ctx = true → st.phase ≠ .hw ∨ st.tx.txPowerUserLmt = txPower) :
    Holds dev txPower mid.tx ∧ (st.tx.txPowerUserLmt = txPower → mid.tx.txPowerUserLmt = txPower) := by
  obtain ⟨_, ⟨_, same⟩ | ⟨_, same⟩⟩ | ⟨_, passes⟩ := commits.succeeds succeeds
  · rw [same]
    exact ⟨holds, id⟩
  · rw [same]
    exact ⟨holds, id⟩
  · cases passes with
    | fast rxon _ =>
      rw [holds.next]
      obtain ⟨holds, kept, _⟩ := @setTxPower_holds dev env txPower
        { st.count.stage ctx (env.call st ctx).prepared with rxon := rxon } succeeds holds false
        fun other => absurd other Bool.false_ne_true
      exact ⟨holds, kept⟩
    | disconnected _ _ _ => exact ⟨holds, id⟩
    | connected rxon connects _ =>
      rw [holds.next]
      obtain ⟨holds, kept, _⟩ := @setTxPower_holds dev env txPower
        { st.count.stage ctx (env.call st ctx).image with rxon := rxon } succeeds holds true fun _ => free connects
      exact ⟨holds, kept⟩

/-- What is active for BSS was checked. -/
def ActiveChecked (st : Priv) : Prop := st.rxon.active .bss = .zero ∨ iwlCheckRxonCmd (st.rxon.active .bss) = true

theorem Commits.activeChecked (commits : Commits dev env st ctx mid) (checked : ActiveChecked st) :
    ActiveChecked mid := by
  have became {image : RxonCmd} {rxon : RxonState} (active : rxon.active = Function.update st.rxon.active ctx image)
      (check : iwlCheckRxonCmd image = true) :
      rxon.active .bss = .zero ∨ iwlCheckRxonCmd (rxon.active .bss) = true := by
    rw [active]
    by_cases same : CtxId.bss = ctx
    · rw [← same, Function.update_self]
      exact Or.inr check
    · rw [Function.update_of_ne same]
      exact checked
  have prepared (committable : env.committable st ctx = true) : iwlCheckRxonCmd (env.call st ctx).prepared = true :=
    (Bool.and_eq_true_iff.mp committable).2
  have image (committable : env.committable st ctx = true) : iwlCheckRxonCmd (env.call st ctx).image = true := by
    rw [call_image, check_hwcrypto, ← call_prepared]
    exact prepared committable
  cases commits with
  | idle _ => exact checked
  | invalid _ => exact checked
  | unsent rxon _ _ kept =>
    show rxon.active .bss = _ ∨ iwlCheckRxonCmd (rxon.active .bss) = true
    rw [kept]
    exact checked
  | fast rxon fast active =>
    unfold ActiveChecked
    rw [setTxPower_rxon]
    exact became active (fast_cases fast).2.1
  | undone rxon _ _ kept =>
    show rxon.active .bss = _ ∨ iwlCheckRxonCmd (rxon.active .bss) = true
    rw [kept]
    exact checked
  | disconnected _ committable _ _ active => exact became active (image committable)
  | connected _ committable _ _ active =>
    unfold ActiveChecked
    rw [setTxPower_rxon]
    exact became active (image committable)

end Commits

/-! ### What the calls keep -/

/-- The chain is staged, and nothing else. -/
theorem setRxonChain_eq (env : Setup) (st : Priv) (ctx : CtxId) : iwlagnSetRxonChain env st ctx =
    st.stage ctx { st.staging ctx with rxChain := rxChain env.chains st.power.pmi } := rfl

section Chain

variable (env : Setup) (st : Priv) (ctx c : CtxId)

theorem setRxonChain_stays : env.committable (iwlagnSetRxonChain env st ctx) c = env.committable st c ∧
    env.connects (iwlagnSetRxonChain env st ctx) c = env.connects st c ∧
    ((iwlagnSetRxonChain env st ctx).staging c).assoc = (st.staging c).assoc := by
  have image : (iwlagnSetRxonChain env st ctx).staging c = st.staging c ∨
      (iwlagnSetRxonChain env st ctx).staging c = { st.staging c with rxChain := rxChain env.chains st.power.pmi } := by
    rw [setRxonChain_eq]
    unfold Priv.stage
    dsimp only
    by_cases same : c = ctx
    · rw [same, Function.update_self]
      exact Or.inr rfl
    · rw [Function.update_of_ne same]
      exact Or.inl rfl
  have active : (iwlagnSetRxonChain env st ctx).rxon.active c = st.rxon.active c := rfl
  unfold Setup.connects
  rw [committable_eq, committable_eq, full_eq, full_eq, active]
  obtain image | image := image
  · rw [image]
    exact ⟨rfl, rfl, rfl⟩
  · rw [image]
    exact ⟨rfl, rfl, rfl⟩

end Chain

/-- **What the calls keep** while they replay a TX power. -/
structure TxKept (dev : Device) (txPower : Int) (scan : ScanPhase) (done : Prop) (st : Priv) : Prop where
  phase : st.phase = scan
  holds : Holds dev txPower st.tx
  inForce : done → st.tx.txPowerUserLmt = txPower
  active : ActiveChecked st

/-- A context whose commit would connect gets no turn: its chain is the one that goes with the built command. Or there
is none. -/
def Calm (env : Setup) (others : Prop) (st : Priv) : Prop :=
  ∀ ctx, env.valid ctx = true → env.connects st ctx = true →
    others ∧ (st.rxon.active ctx).rxChain = rxChain env.chains env.builtPmi

section Kept

variable {dev : Device} {env : Setup} {txPower : Int} {scan : ScanPhase} {done others : Prop} {st mid : Priv}
  {ctx : CtxId}

theorem TxKept.power (kept : TxKept dev txPower scan done st) (power : PowerData) :
    TxKept dev txPower scan done { st with power := power } := ⟨kept.phase, kept.holds, kept.inForce, kept.active⟩

/-- A commit keeps it, if it does not connect while the device scans. -/
theorem TxKept.commit (succeeds : env.Succeeds) (kept : TxKept dev txPower scan done st)
    (commits : Commits dev env st ctx mid) (free : scan = .hw → ¬ done → env.connects st ctx = false) :
    TxKept dev txPower scan done mid := by
  have free (connects : env.connects st ctx = true) : st.phase ≠ .hw ∨ st.tx.txPowerUserLmt = txPower := by
    by_contra neither
    obtain ⟨hw, differs⟩ := not_or.mp neither
    rw [free (kept.phase.symm.trans (not_not.mp hw)) fun ended => differs (kept.inForce ended)] at connects
    cases connects
  obtain ⟨holds, forced⟩ := commits.holds succeeds kept.holds free
  refine ⟨?_, holds, fun ended => forced (kept.inForce ended), commits.activeChecked kept.active⟩
  obtain ⟨image, rxon, tx, frame, _⟩ := commits.frame
  rw [frame]
  exact kept.phase

theorem Calm.commit (succeeds : env.Succeeds) (calm : Calm env others st) (commits : Commits dev env st ctx mid) :
    Calm env others mid := by
  intro c valid connects
  obtain ⟨before, same⟩ := commits.connects succeeds connects
  rw [same]
  exact calm c valid before

/-- The staged chain keeps it. -/
theorem TxKept.chain (kept : TxKept dev txPower scan done st) (ctx : CtxId) :
    TxKept dev txPower scan done (iwlagnSetRxonChain env st ctx) :=
  ⟨kept.phase, kept.holds, kept.inForce, kept.active⟩

theorem Calm.chain (calm : Calm env others st) (ctx : CtxId) : Calm env others (iwlagnSetRxonChain env st ctx) := by
  intro c valid connects
  rw [(setRxonChain_stays env st ctx c).2.1] at connects
  exact calm c valid connects

/-- **A turn keeps it**: under the PMI of the built command, where the device scans. -/
theorem TxKept.turn (succeeds : env.Succeeds) (kept : TxKept dev txPower scan done st)
    (calm : scan = .hw → ¬ done → Calm env others st ∧ st.power.pmi = env.builtPmi) (ctx : CtxId) :
    TxKept dev txPower scan done (chainTurn dev env st ctx) := by
  unfold chainTurn
  split
  case isFalse => exact kept
  case isTrue valid =>
    split
    case isFalse => exact kept.chain ctx
    case isTrue differs =>
      refine (kept.chain ctx).commit succeeds (committed_cases dev env _ ctx) fun hw waits => ?_
      obtain ⟨calm, pmi⟩ := calm hw waits
      rw [(setRxonChain_stays env st ctx ctx).2.1]
      by_contra connects
      have same := (calm ctx valid (by simpa using connects)).2
      unfold Setup.differs at differs
      rw [pmi, same, bne_self_eq_false] at differs
      cases differs

/-- While the device does not scan, or where it is in force, every turn keeps it. -/
theorem TxKept.freeTurn (succeeds : env.Succeeds) (kept : TxKept dev txPower scan done st) (free : scan = .hw → done)
    (ctx : CtxId) : TxKept dev txPower scan done (chainTurn dev env st ctx) :=
  @TxKept.turn dev env txPower scan done True st succeeds kept (fun hw waits => (waits (free hw)).elim) ctx

theorem Calm.turn (succeeds : env.Succeeds) (calm : Calm env others st) (ctx : CtxId) :
    Calm env others (chainTurn dev env st ctx) := by
  unfold chainTurn
  split
  · split
    · exact (calm.chain ctx).commit succeeds (committed_cases dev env _ ctx)
    · exact calm.chain ctx
  · exact calm

/-- **A commit, with the power mode in its end**, keeps it if it does not connect while the device scans, nor goes on
to a turn that does. -/
theorem commitRxon_txKept {depth : Nat} {next : Priv} (succeeds : env.Succeeds)
    (kept : TxKept dev txPower scan done st)
    (free : scan = .hw → ¬ done →
      env.connects st ctx = false ∧ (env.fast st ctx = true → env.updateChains = true → Calm env others st))
    (ran : (iwlagnCommitRxon dev env (iwlPowerUpdateMode dev env depth) st ctx).map Prod.snd = some next) :
    TxKept dev txPower scan done next := by
  rw [commitRxon_update] at ran
  have commits := committed_cases dev env st ctx
  have start := kept.commit succeeds commits fun hw waits => (free hw waits).1
  split at ran
  case isFalse =>
    cases ran
    exact start
  case isTrue fast =>
    obtain ⟨⟨ret, after⟩, set, last⟩ := Option.map_eq_some_iff.mp ran
    cases last
    exact (@powerSetMode_keeps dev env (fun pmi => scan = .hw → ¬ done → pmi = env.builtPmi)
      (fun st => TxKept dev txPower scan done st ∧
        (scan = .hw → ¬ done → env.updateChains = true → Calm env others st))
      (fun _ power inv => ⟨inv.1.power power, inv.2⟩)
      (fun chains st ctx pmi inv => ⟨inv.1.turn succeeds (fun hw waits => ⟨inv.2 hw waits chains, pmi hw waits⟩) ctx,
        fun hw waits _ => (inv.2 hw waits chains).turn succeeds ctx⟩)
      (fun _ _ => rfl) depth _ (.given (iwlPowerBuildCmd env)) true ret after set (fun _ _ => rfl)
      ⟨start, fun hw waits chains => ((free hw waits).2 fast chains).commit succeeds commits⟩).2.1

/-- And so is what is calm. -/
theorem commitRxon_calm {depth : Nat} {next : Priv} (succeeds : env.Succeeds) (calm : Calm env others st)
    (ran : (iwlagnCommitRxon dev env (iwlPowerUpdateMode dev env depth) st ctx).map Prod.snd = some next) :
    Calm env others next :=
  @commitRxon_keeps dev env (fun _ => True) (Calm env others) (fun _ _ calm => calm)
    (fun _ _ ctx _ calm => calm.turn succeeds ctx) trivial depth st next ctx ran
    (calm.commit succeeds (committed_cases dev env st ctx))

end Kept

/-! ### BSS's commits -/

section Bss

variable {dev : Device} {env : Setup} {txPower : Int} {scan : ScanPhase} {done : Prop} {st mid next : Priv}
  {ctx : CtxId}

/-- What is put off was sent. -/
theorem TxKept.now (kept : TxKept dev txPower scan done st) (now : st.tx.txPowerUserLmt = txPower) :
    TxKept dev txPower scan True st := ⟨kept.phase, kept.holds, fun _ => now, kept.active⟩

/-- **A commit of BSS that leads to an association sends it**, while no scan is under way. -/
theorem Passes.sends (succeeds : env.Succeeds) (passes : Passes dev env st .bss mid) (idle : st.phase = .none)
    (holds : Holds dev txPower st.tx) (assoc : (st.staging .bss).assoc = true) : mid.tx.txPowerUserLmt = txPower := by
  cases passes with
  | fast rxon active =>
    rw [holds.next]
    have equal : Priv.bssEqual { st.count.stage .bss (env.call st .bss).prepared with rxon := rxon } := by
      show rxon.active .bss = Function.update st.staging .bss (env.call st .bss).prepared .bss
      rw [active, Function.update_self, Function.update_self]
    exact (@setTxPower_holds dev env txPower { st.count.stage .bss (env.call st .bss).prepared with rxon := rxon }
      succeeds holds false fun other => absurd other Bool.false_ne_true).2.2 (Or.inr ⟨idle, equal⟩)
  | disconnected _ alone _ =>
    rw [assoc] at alone
    cases alone
  | connected rxon _ _ =>
    rw [holds.next]
    refine (@setTxPower_holds dev env txPower { st.count.stage .bss (env.call st .bss).image with rxon := rxon }
      succeeds holds true fun _ => Or.inl fun hw => ?_).2.2 (Or.inl rfl)
    rw [show st.phase = .hw from hw] at idle
    cases idle

/-- The same, with the power mode in its end. -/
theorem commitRxon_sends {depth : Nat} (succeeds : env.Succeeds) (kept : TxKept dev txPower .none done st)
    (committable : env.committable st .bss = true) (assoc : (st.staging .bss).assoc = true)
    (ran : (iwlagnCommitRxon dev env (iwlPowerUpdateMode dev env depth) st .bss).map Prod.snd = some next) :
    TxKept dev txPower .none True next := by
  have commits := committed_cases dev env st .bss
  have sends := (commits.passes succeeds committable).sends succeeds kept.phase kept.holds assoc
  exact @commitRxon_keeps dev env (fun _ => True) (TxKept dev txPower .none True)
    (fun _ power kept => kept.power power)
    (fun _ _ ctx _ kept => kept.freeTurn succeeds (fun hw => nomatch hw) ctx)
    trivial depth st next .bss ran
    ((kept.commit succeeds commits fun hw => (nomatch hw)).now sends)

/-- A commit prepared BSS's staging image, and refused it. -/
structure Refused (env : Setup) (st : Priv) : Prop where
  prepared : env.prepare .bss (st.staging .bss) = st.staging .bss
  check : iwlCheckRxonCmd (st.staging .bss) = false

/-- **It is not what is active.** -/
theorem Refused.differs (refused : Refused env st) (checked : ActiveChecked st) : ¬ st.bssEqual := by
  intro equal
  unfold Priv.bssEqual at equal
  unfold ActiveChecked at checked
  rw [equal] at checked
  obtain zero | check := checked
  · have prepared := refused.prepared
    rw [zero] at prepared
    exact prepareImage_ne_zero _ _ _ prepared
  · rw [refused.check] at check
    cases check

theorem Refused.congr (refused : Refused env st) (staging : mid.staging .bss = st.staging .bss) :
    Refused env mid := by
  refine ⟨?_, ?_⟩
  · rw [staging]
    exact refused.prepared
  · rw [staging]
    exact refused.check

theorem Refused.uncommittable (refused : Refused env st) : env.committable st .bss = false := by
  rw [committable_eq, refused.prepared, refused.check, Bool.and_false]

/-- No commit changes it. -/
theorem Refused.commit (succeeds : env.Succeeds) (refused : Refused env st) (commits : Commits dev env st ctx mid) :
    Refused env mid := by
  refine refused.congr ?_
  by_cases same : CtxId.bss = ctx
  · subst same
    obtain ⟨_, unchanged⟩ | ⟨_, prepared⟩ := commits.uncommittable succeeds refused.uncommittable
    · rw [unchanged]
      rfl
    · rw [prepared]
      exact (stage_staging _ _ _).trans refused.prepared
  · exact (commits.others same).1

/-- Nor does a turn, but for the chain. -/
theorem Refused.turn (succeeds : env.Succeeds) (refused : Refused env st) (ctx : CtxId) :
    Refused env (chainTurn dev env st ctx) := by
  have chain : Refused env (iwlagnSetRxonChain env st ctx) := by
    rw [setRxonChain_eq]
    by_cases same : CtxId.bss = ctx
    · subst same
      have staging := stage_staging st .bss { st.staging .bss with rxChain := rxChain env.chains st.power.pmi }
      refine ⟨?_, ?_⟩
      · rw [staging]
        show { env.prepare .bss (st.staging .bss) with rxChain := rxChain env.chains st.power.pmi } = _
        rw [refused.prepared]
      · rw [staging]
        exact refused.check
    · exact refused.congr (Function.update_of_ne same _ st.staging)
  unfold chainTurn
  split
  · split
    · exact chain.commit succeeds (committed_cases dev env _ ctx)
    · exact chain
  · exact refused

/-- **A commit of BSS that is refused** leaves it other than what is active. -/
theorem commitRxon_refused {depth : Nat} (succeeds : env.Succeeds) (kept : TxKept dev txPower scan done st)
    (uncommittable : env.committable st .bss = false) (differs : ¬ st.bssEqual)
    (ran : (iwlagnCommitRxon dev env (iwlPowerUpdateMode dev env depth) st .bss).map Prod.snd = some next) :
    TxKept dev txPower scan done next ∧ ¬ next.bssEqual ∧ (env.alive = false ∨ Refused env next) := by
  have slow : env.fast st .bss = false := by
    unfold Setup.fast
    rw [uncommittable]
    rfl
  have connects : env.connects st .bss = false := by
    unfold Setup.connects
    rw [uncommittable]
    rfl
  have commits := committed_cases dev env st .bss
  have keeps := kept.commit succeeds commits fun _ _ => connects
  rw [commitRxon_update, slow, if_neg Bool.false_ne_true] at ran
  cases ran
  refine ⟨keeps, ?_⟩
  obtain ⟨idle, unchanged⟩ | ⟨check, prepared⟩ := commits.uncommittable succeeds uncommittable
  · rw [unchanged]
    refine ⟨differs, Or.inl ?_⟩
    rw [show env.isActive .bss = true from rfl, Bool.and_true] at idle
    exact idle
  · have refused : Refused env (committed dev env st .bss) := by
      have staging : (committed dev env st .bss).staging .bss = env.prepare .bss (st.staging .bss) := by
        rw [prepared]
        exact stage_staging _ _ _
      refine ⟨?_, ?_⟩
      · rw [staging]
        exact prepareImage_idem _ _ _
      · rw [staging]
        exact check
    exact ⟨refused.differs keeps.active, Or.inr refused⟩

end Bss

/-! ### After a scan -/

section PostScan

variable {dev : Device} {env : Setup} {txPower : Int} {scan : ScanPhase} {done : Prop} {st next : Priv} {depth : Nat}

/-- Where connections do not matter, `iwl_power_set_mode` keeps it. -/
theorem powerSetMode_txKept {cmd : CmdPointer} {force : Bool} {ret : Ret} (succeeds : env.Succeeds)
    (kept : TxKept dev txPower scan done st) (free : scan = .hw → done)
    (ran : iwlPowerSetMode dev env depth st cmd force = some (ret, next)) : TxKept dev txPower scan done next :=
  (@powerSetMode_keeps dev env (fun _ => True) (TxKept dev txPower scan done)
    (fun _ power kept => kept.power power)
    (fun _ _ ctx _ kept => kept.freeTurn succeeds free ctx) trivial depth st cmd force ret next ran trivial kept).2

/-- During a scan it changes power data only, unless it is forced. -/
theorem powerSetMode_scanning {cmd : CmdPointer} {ret : Ret} (scanning : st.phase ≠ .none)
    (ran : iwlPowerSetMode dev env depth st cmd false = some (ret, next)) :
    ∃ power, next = { st with power := power } := by
  cases depth with
  | zero => cases ran
  | succ depth =>
    have cases := powerSetMode_cases dev env depth st cmd false
    generalize iwlPowerSetMode dev env (depth + 1) st cmd false = result at ran cases
    cases cases with
    | unchanged _ _ =>
      cases ran
      exact ⟨_, rfl⟩
    | refused _ _ =>
      cases ran
      exact ⟨_, rfl⟩
    | deferred _ _ _ _ =>
      cases ran
      exact ⟨_, rfl⟩
    | failed _ idle _ _ => exact absurd (idle rfl) scanning
    | sent _ idle _ _ => exact absurd (idle rfl) scanning

/-- The TX power that `iwlagn_post_scan` replays. -/
theorem TxKept.replay (succeeds : env.Succeeds) (kept : TxKept dev txPower scan done st) :
    TxKept dev txPower scan done (iwlSetTxPower dev env st txPower false).2 := by
  obtain ⟨holds, inForce, _⟩ := setTxPower_holds succeeds kept.holds false fun other => absurd other Bool.false_ne_true
  obtain ⟨tx, changed⟩ := setTxPower_tx dev env st txPower false
  refine ⟨?_, holds, fun ended => inForce (kept.inForce ended), ?_⟩
  · rw [changed]
    exact kept.phase
  · rw [changed]
    exact kept.active

theorem Calm.congr {others : Prop} {mid : Priv} (calm : Calm env others st) (staging : mid.staging = st.staging)
    (rxon : mid.rxon = st.rxon) : Calm env others mid := by
  intro ctx valid connects
  rw [connects_congr env (congrFun staging ctx) (congrArg (·.active ctx) rxon)] at connects
  rw [rxon]
  exact calm ctx valid connects

/-- A context's turn at the end. -/
theorem recommit_txKept {ctx : CtxId} (succeeds : env.Succeeds) (kept : TxKept dev txPower scan done st)
    (still : scan = .hw → ¬ done → Calm env False st)
    (ran : recommit dev env (iwlPowerUpdateMode dev env depth) st ctx = some next) :
    TxKept dev txPower scan done next ∧ (scan = .hw → ¬ done → Calm env False next) := by
  unfold recommit at ran
  split at ran
  case isFalse =>
    cases ran
    exact ⟨kept, still⟩
  case isTrue differs =>
    have free (hw : scan = .hw) (waits : ¬ done) :
        env.connects st ctx = false ∧ (env.fast st ctx = true → env.updateChains = true → Calm env False st) :=
      ⟨Bool.eq_false_iff.mpr fun connects => (still hw waits ctx differs.1 connects).1, fun _ _ => still hw waits⟩
    exact ⟨commitRxon_txKept succeeds kept free ran, fun hw waits => commitRxon_calm succeeds (still hw waits) ran⟩

/-- **`iwlagn_post_scan` keeps it**, if no connection is made while the device scans. -/
theorem postScan_txKept (succeeds : env.Succeeds) (kept : TxKept dev txPower scan done st)
    (still : scan = .hw → ¬ done → Calm env False st) (ran : iwlagnPostScan dev env depth st = some next) :
    TxKept dev txPower scan done next := by
  obtain ⟨ret, mid, after, set, bss, pan⟩ := postScan_cases dev env ran
  have modes : TxKept dev txPower scan done mid ∧ (scan = .hw → ¬ done → Calm env False mid) := by
    by_cases free : scan = .hw → done
    · exact ⟨powerSetMode_txKept succeeds kept free set, fun hw waits => (waits (free hw)).elim⟩
    · obtain ⟨hw, waits⟩ := Classical.not_imp.mp free
      have scanning : st.phase ≠ .none := by
        rw [kept.phase, hw]
        exact ScanPhase.noConfusion
      obtain ⟨power, same⟩ := powerSetMode_scanning scanning set
      rw [same]
      exact ⟨kept.power power, still⟩
  obtain ⟨kept, still⟩ := modes
  rw [kept.holds.next] at bss
  obtain ⟨kept, still⟩ := recommit_txKept succeeds (kept.replay succeeds) (fun hw waits =>
    (still hw waits).congr (setTxPower_staging mid txPower false) (setTxPower_rxon mid txPower false)) bss
  exact (recommit_txKept succeeds kept still pan).1

/-- **What `iwlagn_post_scan` finds, so that it can send** what is put off. Either BSS's staging image is the active
one; or its commit leads to an association, which sends it; or there is no commit, and the images stay different. -/
def Setup.replays (env : Setup) (st : Priv) : Bool :=
  st.bssEqual || (st.staging .bss).assoc || !env.committable st .bss

theorem chainTurn_stays (st : Priv) (ctx c : CtxId) :
    env.committable (chainTurn dev env st ctx) c = env.committable st c ∧
      ((chainTurn dev env st ctx).staging c).assoc = (st.staging c).assoc := by
  obtain ⟨committable, _, assoc⟩ := setRxonChain_stays env st ctx c
  unfold chainTurn
  split
  · split
    · obtain ⟨stays, stays'⟩ := (committed_cases dev env (iwlagnSetRxonChain env st ctx) ctx).stays c
      exact ⟨stays.trans committable, stays'.trans assoc⟩
    · exact ⟨committable, assoc⟩
  · exact ⟨rfl, rfl⟩

/-- A turn leaves BSS's images equal, if a commit of it gets past its checks. -/
theorem chainTurn_equal (succeeds : env.Succeeds) (committable : env.committable st .bss = true) (equal : st.bssEqual)
    (ctx : CtxId) : (chainTurn dev env st ctx).bssEqual := by
  have chain (other : CtxId.bss ≠ ctx) : (iwlagnSetRxonChain env st ctx).staging .bss = st.staging .bss :=
    Function.update_of_ne other _ st.staging
  have commits := committed_cases dev env (iwlagnSetRxonChain env st ctx) ctx
  unfold chainTurn
  by_cases same : CtxId.bss = ctx
  · subst same
    rw [show env.valid .bss = true from rfl, if_pos rfl]
    cases differs : env.differs st .bss with
    | true => exact (commits.passes succeeds ((setRxonChain_stays env st .bss .bss).1.trans committable)).equal
    | false =>
      have same : rxChain env.chains st.power.pmi = (st.staging .bss).rxChain := by
        unfold Priv.bssEqual at equal
        rw [← equal]
        exact (bne_eq_false_iff_eq.mp differs).symm
      show st.rxon.active .bss = (iwlagnSetRxonChain env st .bss).staging .bss
      rw [setRxonChain_eq, stage_staging, same]
      exact equal
  · split
    · split
      · obtain ⟨staging, active⟩ := commits.others same
        exact active.trans (equal.trans ((chain same).symm.trans staging.symm))
      · exact equal.trans (chain same).symm
    · exact equal

/-- **A turn keeps it**, or what is put off was sent. -/
theorem replays_turn (succeeds : env.Succeeds) (kept : TxKept dev txPower .none done st)
    (replays : st.tx.txPowerUserLmt = txPower ∨ env.replays st = true) (ctx : CtxId) :
    (chainTurn dev env st ctx).tx.txPowerUserLmt = txPower ∨ env.replays (chainTurn dev env st ctx) = true := by
  obtain now | replays := replays
  · exact Or.inl (((kept.now now).freeTurn succeeds (fun hw => nomatch hw) ctx).inForce trivial)
  · refine Or.inr ?_
    have equal := @chainTurn_equal dev env st succeeds
    obtain ⟨committable, assoc⟩ := @chainTurn_stays dev env st ctx .bss
    unfold Setup.replays at replays ⊢
    rw [committable, assoc]
    cases passes : env.committable st .bss with
    | false => rw [Bool.not_false, Bool.or_true]
    | true =>
      rw [passes, Bool.not_true, Bool.or_false, Bool.or_eq_true, decide_eq_true_eq] at replays
      rw [Bool.not_true, Bool.or_false, Bool.or_eq_true, decide_eq_true_eq]
      exact replays.imp (fun same => equal passes same ctx) id

/-- **A commit of PAN does not make BSS's images equal**, unless it goes on to the power mode and BSS was not
refused. -/
theorem commitPan_differs (succeeds : env.Succeeds) (kept : TxKept dev txPower .none done st)
    (differs : ¬ st.bssEqual)
    (refused : env.fast st .pan = true → Refused env st)
    (ran : (iwlagnCommitRxon dev env (iwlPowerUpdateMode dev env depth) st .pan).map Prod.snd = some next) :
    ¬ next.bssEqual := by
  have commits := committed_cases dev env st .pan
  cases fast : env.fast st .pan with
  | false =>
    rw [commitRxon_update, fast, if_neg Bool.false_ne_true] at ran
    cases ran
    obtain ⟨staging, active⟩ := commits.others (show CtxId.bss ≠ .pan from CtxId.noConfusion)
    exact fun equal => differs (active.symm.trans (equal.trans staging))
  | true =>
    obtain ⟨kept, refused⟩ := @commitRxon_keeps dev env (fun _ => True)
      (fun st => TxKept dev txPower .none done st ∧ Refused env st)
      (fun _ power inv => ⟨inv.1.power power, inv.2.congr rfl⟩)
      (fun _ _ ctx _ inv => ⟨inv.1.freeTurn succeeds (fun hw => nomatch hw) ctx, inv.2.turn succeeds ctx⟩) trivial depth
      st next .pan ran ⟨kept.commit succeeds commits fun hw => (nomatch hw), (refused fast).commit succeeds commits⟩
    exact refused.differs kept.active

/-- **After `iwlagn_post_scan`**, what was put off was sent, or BSS's staging image is still not the active one. -/
theorem postScan_sends (succeeds : env.Succeeds) (kept : TxKept dev txPower .none done st)
    (replays : st.tx.txPowerUserLmt = txPower ∨ env.replays st = true)
    (ran : iwlagnPostScan dev env depth st = some next) :
    next.tx.txPowerUserLmt = txPower ∨ ¬ next.bssEqual := by
  obtain ⟨ret, mid, after, set, bss, pan⟩ := postScan_cases dev env ran
  obtain ⟨kept, replays⟩ := (@powerSetMode_keeps dev env (fun _ => True)
    (fun st => TxKept dev txPower .none done st ∧ (st.tx.txPowerUserLmt = txPower ∨ env.replays st = true))
    (fun _ power inv => ⟨inv.1.power power, inv.2⟩)
    (fun _ _ ctx _ inv => ⟨inv.1.freeTurn succeeds (fun hw => nomatch hw) ctx, replays_turn succeeds inv.1 inv.2 ctx⟩)
    trivial depth st .next false ret mid set trivial ⟨kept, replays⟩).2
  rw [kept.holds.next] at bss
  have sent := kept.replay succeeds
  obtain ⟨_, inForce, equal⟩ := setTxPower_holds succeeds kept.holds false fun other => absurd other Bool.false_ne_true
  obtain ⟨tx, changed⟩ := setTxPower_tx dev env mid txPower false
  generalize (iwlSetTxPower dev env mid txPower false).2 = replayed at bss sent equal inForce changed
  by_cases now : replayed.tx.txPowerUserLmt = txPower
  · have kept := (recommit_txKept succeeds (sent.now now) (fun hw => (nomatch hw)) bss).1
    exact Or.inl ((recommit_txKept succeeds kept (fun hw => (nomatch hw)) pan).1.inForce trivial)
  · have differs : ¬ replayed.bssEqual := by
      rw [changed]
      exact fun same => now (equal (Or.inr ⟨kept.phase, same⟩))
    have replays : env.replays replayed = true := by
      rw [changed]
      exact replays.resolve_left fun before => now (inForce before)
    have turn : env.valid .bss = true ∧ replayed.staging .bss ≠ replayed.rxon.active .bss :=
      ⟨rfl, fun same => differs same.symm⟩
    unfold recommit at bss
    rw [if_pos turn] at bss
    cases committable : env.committable replayed .bss with
    | true =>
      have assoc : (replayed.staging .bss).assoc = true := by
        unfold Setup.replays at replays
        rw [committable, Bool.not_true, Bool.or_false, Bool.or_eq_true, decide_eq_true_eq] at replays
        exact replays.resolve_left differs
      have kept := commitRxon_sends succeeds sent committable assoc bss
      exact Or.inl ((recommit_txKept succeeds kept (fun hw => (nomatch hw)) pan).1.inForce trivial)
    | false =>
      obtain ⟨kept, differs, refused⟩ := commitRxon_refused succeeds sent committable differs bss
      refine Or.inr ?_
      unfold recommit at pan
      split at pan
      · refine commitPan_differs succeeds kept differs (fun fast => refused.resolve_left fun dead => ?_) pan
        have alive := (Bool.and_eq_true_iff.mp (fast_cases fast).1).1
        rw [show (env.call after .pan).alive = env.alive from rfl, dead] at alive
        cases alive
      · cases pan
        exact differs

end PostScan

end IntelWifi.Dvm.Power
