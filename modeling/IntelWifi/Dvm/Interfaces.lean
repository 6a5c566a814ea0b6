/-
**Interfaces and their contexts.**

`iwlagn_mac_add_interface` goes through the contexts once: it stops at the one that has the interface already, or at
the first one without an interface that may have one of this type, and refuses where it passes an interface that does
not stand others. What comes after the context it stops at is not looked at. The types of interfaces do not change.

* `attach_context`: what an addition does to the context that was chosen.
* `interfaces_iff`: the runs in which every interface is where it should be are those in which no exclusive interface
  gets the first context while the second one is taken.
-/

import IntelWifi.Dvm.Stations
import IntelWifi.Lib.Machine

namespace IntelWifi.Dvm.Interfaces

/-- `enum nl80211_iftype`. -/
inductive Iftype where
  | unspecified
  | adhoc
  | station
  | ap
  | apVlan
  | wds
  | monitor
  | meshPoint
  | p2pClient
  | p2pGo
  | p2pDevice
  | ocb
  | nan
  deriving DecidableEq, Repr

/-- `ieee80211_iftype_p2p`. -/
def ieee80211IftypeP2p (type : Iftype) (p2p : Bool) : Iftype :=
  if p2p then
    match type with
    | .station => .p2pClient
    | .ap => .p2pGo
    | _ => type
  else type

/-- `type` and `p2p` of `struct ieee80211_vif`. -/
structure VifInfo where
  type : Iftype
  p2p : Bool

/-- `ieee80211_vif_type_p2p`. -/
def VifInfo.viftype (info : VifInfo) : Iftype := ieee80211IftypeP2p info.type info.p2p

/-- `interface_modes` of a context, as `iwl_init_context` sets it. -/
def interfaceModes : CtxId → List Iftype
  | .bss => [.station]
  | .pan => [.station, .ap]

/-- `exclusive_interface_modes`. -/
def exclusiveInterfaceModes : CtxId → List Iftype
  | .bss => [.adhoc, .monitor]
  | .pan => []

/-- `always_active`. -/
def alwaysActive : CtxId → Bool
  | .bss => true
  | .pan => false

/-- `ac_to_queue`. -/
def acToQueue : CtxId → List Nat
  | .bss => [0, 1, 2, 3]
  | .pan => [7, 6, 5, 4]

/-- `mcast_queue`. -/
def mcastQueue : CtxId → Nat
  | .bss => 0
  | .pan => 8

/-- `IEEE80211_INVAL_HW_QUEUE`. -/
def ieee80211InvalHwQueue : Nat := 0xff

/-- Whether the firmware has `IWL_UCODE_TLV_FLAGS_PAN`, and the device `advanced_bt_coexist`. -/
structure IfaceConfig where
  pan : Bool
  advancedBtCoexist : Bool

/-- `valid_contexts`. -/
def IfaceConfig.valid (config : IfaceConfig) : CtxId → Bool
  | .bss => true
  | .pan => config.pan

/-- `hw_queue` and `cab_queue` of an interface. -/
structure VifQueues where
  hwQueue : List Nat
  cabQueue : Nat

variable {Vif : Type} [DecidableEq Vif]

/-- `struct iwl_rxon_context`: the interface, and whether the context is active. -/
structure RxonContext (Vif : Type) where
  vif : Option Vif
  isActive : Bool

/-- `struct iwl_priv`, and what it keeps of the interfaces. `vifCtx` is `vif_priv->ctx`. -/
structure IfacePriv (Vif : Type) where
  context : CtxId → RxonContext Vif
  vifCtx : Vif → Option CtxId
  queues : Vif → VifQueues
  iwMode : Iftype
  rxIncludesFcs : Bool
  btTrafficLoadHigh : Bool
  mutex : Bool

/-- After `iwl_init_context`. -/
def IfacePriv.init : IfacePriv Vif where
  context ctx := ⟨none, alwaysActive ctx⟩
  vifCtx _ := none
  queues _ := ⟨[], 0⟩
  iwMode := .unspecified
  rxIncludesFcs := false
  btTrafficLoadHigh := false
  mutex := false

/-- What `iwlagn_mac_add_interface` returns. -/
inductive AddResult where
  | ok
  | einval
  | eopnotsupp
  | failed (err : Int)
  deriving DecidableEq, Repr

/-- What the loop over the contexts comes to: an exclusive interface, no context, or a context, which may have the
interface already. -/
inductive Choice where
  | busy
  | nothing
  | found (ctx : CtxId) (reset : Bool)
  deriving DecidableEq, Repr

section Call

variable (config : IfaceConfig) (info : Vif → VifInfo)

/-- The loop over the contexts. -/
def chooseContext (priv : IfacePriv Vif) (vif : Vif) : List CtxId → Choice
  | [] => .nothing
  | tmp :: later =>
    if config.valid tmp = false then chooseContext priv vif later
    else
      match (priv.context tmp).vif with
      | some other =>
        if other = vif then .found tmp true
        else if (info other).type ∈ exclusiveInterfaceModes tmp then .busy
        else chooseContext priv vif later
      | none =>
        if (info vif).viftype ∈ interfaceModes tmp ++ exclusiveInterfaceModes tmp then .found tmp false
        else chooseContext priv vif later

/-- A context is changed. -/
def IfacePriv.setContext (priv : IfacePriv Vif) (ctx : CtxId) (context : RxonContext Vif) : IfacePriv Vif :=
  { priv with context := Function.update priv.context ctx context }

/-- `iwl_setup_interface` of a context whose interface is `vif`. `commit` is what `iwl_set_mode` returns. -/
def iwlSetupInterface (priv : IfacePriv Vif) (ctx : CtxId) (vif : Vif) (commit : Int) : Int × IfacePriv Vif :=
  let priv := { priv with iwMode := (info vif).type }
  let priv := priv.setContext ctx { priv.context ctx with isActive := true }
  if commit ≠ 0 then
    (commit, if alwaysActive ctx then priv else priv.setContext ctx { priv.context ctx with isActive := false })
  else
    let high := config.advancedBtCoexist && decide ((info vif).type = .adhoc)
    let priv := { priv with btTrafficLoadHigh := priv.btTrafficLoadHigh || high }
    let cab := if (info vif).type = .ap then mcastQueue ctx else ieee80211InvalHwQueue
    (0, { priv with queues := Function.update priv.queues vif ⟨acToQueue ctx, cab⟩ })

/-- The interface gets the context that was found. -/
def attach (priv : IfacePriv Vif) (ctx : CtxId) (reset : Bool) (vif : Vif) (commit : Int) : AddResult × IfacePriv Vif :=
  let priv := { priv with vifCtx := Function.update priv.vifCtx vif (some ctx) }
  let priv := priv.setContext ctx { priv.context ctx with vif := some vif }
  let priv := { priv with rxIncludesFcs := decide ((info vif).type = .monitor) }
  let result := iwlSetupInterface config info priv ctx vif commit
  let priv := result.2
  if result.1 = 0 then (.ok, priv)
  else if reset then (.failed result.1, priv)
  else (.failed result.1, { priv.setContext ctx { priv.context ctx with vif := none } with iwMode := .station })

/-- `iwlagn_mac_add_interface` between the lock and `out`. `ready` is `iwl_is_ready_rf`. -/
def addLocked (priv : IfacePriv Vif) (vif : Vif) (ready : Bool) (commit : Int) : AddResult × IfacePriv Vif :=
  if ready = false then (.einval, priv)
  else
    match chooseContext config info priv vif [.bss, .pan] with
    | .busy => (.einval, priv)
    | .nothing => (.eopnotsupp, priv)
    | .found ctx reset => attach config info priv ctx reset vif commit

/-- `iwlagn_mac_add_interface`. -/
def iwlagnMacAddInterface (priv : IfacePriv Vif) (vif : Vif) (ready : Bool) (commit : Int) :
    AddResult × IfacePriv Vif :=
  let result := addLocked config info { priv with mutex := true } vif ready commit
  (result.1, { result.2 with mutex := false })

end Call

/-! ### Runs -/

/-- A call. -/
structure AddCall (Vif : Type) where
  vif : Vif
  ready : Bool
  commit : Int

variable (config : IfaceConfig) (info : Vif → VifInfo)

def addStep (priv : IfacePriv Vif) (call : AddCall Vif) : Option (IfacePriv Vif) :=
  some (iwlagnMacAddInterface config info priv call.vif call.ready call.commit).2

/-- Every interface is where it should be. -/
structure Assigned (priv : IfacePriv Vif) : Prop where
  once : ∀ ctx other vif, (priv.context ctx).vif = some vif → (priv.context other).vif = some vif → ctx = other
  knows : ∀ ctx vif, (priv.context ctx).vif = some vif → priv.vifCtx vif = some ctx
  listed : ∀ ctx vif, (priv.context ctx).vif = some vif → config.valid ctx = true ∧
    (info vif).viftype ∈ interfaceModes ctx ++ exclusiveInterfaceModes ctx
  alone : ∀ ctx vif, (priv.context ctx).vif = some vif → (info vif).viftype ∈ exclusiveInterfaceModes ctx →
    ∀ other, other ≠ ctx → (priv.context other).vif = none

/-- The interface has a context already. -/
def Attached (priv : IfacePriv Vif) (vif : Vif) : Prop := ∃ ctx, (priv.context ctx).vif = some vif

/-- After a call every interface is where it should be, a call that failed and was none for an attached interface
left the contexts as they were, and the mutex is released. -/
def AddRight (priv : IfacePriv Vif) (call : AddCall Vif) (next : IfacePriv Vif) : Prop :=
  Assigned config info next ∧
    ((iwlagnMacAddInterface config info priv call.vif call.ready call.commit).1 ≠ .ok → ¬ Attached priv call.vif →
      next.context = priv.context) ∧
    next.mutex = false

/-- No exclusive interface gets the first context while the second one is taken. -/
def addFine (priv : IfacePriv Vif) (call : AddCall Vif) : Bool :=
  !(call.ready && (priv.context .bss).vif.isNone && decide ((info call.vif).viftype ∈ exclusiveInterfaceModes .bss) &&
    (priv.context .pan).vif.isSome && decide (call.commit = 0))

/-! ### What a call does -/

variable {config info} {priv next : IfacePriv Vif} {vif : Vif} {ctx : CtxId} {reset : Bool} {commit : Int}
  {call : AddCall Vif}

/-- **What an addition does to the contexts.** -/
theorem attach_context : (attach config info priv ctx reset vif commit).2.context = Function.update priv.context ctx
    ⟨if commit = 0 ∨ reset = true then some vif else none, if commit = 0 then true else alwaysActive ctx⟩ := by
  by_cases done : commit = 0
  · simp [attach, iwlSetupInterface, IfacePriv.setContext, done]
  · cases reset <;> cases active : alwaysActive ctx <;>
      simp [attach, iwlSetupInterface, IfacePriv.setContext, done, active]

theorem attach_vifCtx :
    (attach config info priv ctx reset vif commit).2.vifCtx = Function.update priv.vifCtx vif (some ctx) := by
  by_cases done : commit = 0
  · simp [attach, iwlSetupInterface, IfacePriv.setContext, done]
  · cases reset <;> cases active : alwaysActive ctx <;>
      simp [attach, iwlSetupInterface, IfacePriv.setContext, done, active]

theorem attach_result : (attach config info priv ctx reset vif commit).1 = .ok ↔ commit = 0 := by
  by_cases done : commit = 0
  · simp [attach, iwlSetupInterface, done]
  · cases reset <;> simp [attach, iwlSetupInterface, done]

/-- The type of an exclusive interface does not depend on `p2p`. -/
theorem exclusive_iff (info : VifInfo) (ctx : CtxId) :
    info.viftype ∈ exclusiveInterfaceModes ctx ↔ info.type ∈ exclusiveInterfaceModes ctx := by
  obtain ⟨type, p2p⟩ := info
  cases ctx <;> cases type <;> cases p2p <;> decide

variable (config info) in
/-- What holds between calls: every interface is where it should be, a context without one is as it was at first, and
an interface got the second context for want of the first one. -/
structure Settled (priv : IfacePriv Vif) : Prop where
  assigned : Assigned config info priv
  idle : ∀ ctx, (priv.context ctx).vif = none → priv.context ctx = ⟨none, alwaysActive ctx⟩
  second : (priv.context .bss).vif = none → ∀ vif, (priv.context .pan).vif = some vif →
    (info vif).viftype ∉ interfaceModes .bss ++ exclusiveInterfaceModes .bss

omit [DecidableEq Vif] in
theorem settled_init : Settled config info (.init : IfacePriv Vif) where
  assigned := ⟨fun _ _ _ held => (nomatch held), fun _ _ held => (nomatch held), fun _ _ held => (nomatch held),
    fun _ _ held => (nomatch held)⟩
  idle _ _ := rfl
  second _ _ held := nomatch held

omit [DecidableEq Vif] in
/-- Other fields than the contexts do not matter. -/
theorem Settled.congr (settled : Settled config info priv) (contexts : next.context = priv.context)
    (known : ∀ ctx vif, (priv.context ctx).vif = some vif → next.vifCtx vif = priv.vifCtx vif) :
    Settled config info next := by
  obtain ⟨⟨once, knows, listed, alone⟩, idle, second⟩ := settled
  refine ⟨⟨?_, ?_, ?_, ?_⟩, ?_, ?_⟩ <;> rw [contexts]
  · exact once
  · exact fun ctx vif held => (known ctx vif held).trans (knows ctx vif held)
  · exact listed
  · exact alone
  · exact idle
  · exact second

/-- **An interface that has a context is found there.** -/
theorem Settled.choose_attached (settled : Settled config info priv) (held : (priv.context ctx).vif = some vif) :
    chooseContext config info priv vif [.bss, .pan] = .found ctx true := by
  have valid := (settled.assigned.listed ctx vif held).1
  cases ctx with
  | bss => simp [chooseContext, IfaceConfig.valid, held]
  | pan =>
    have pan : config.pan = true := valid
    cases first : (priv.context .bss).vif with
    | none =>
      have unlisted := settled.second first vif held
      simp [chooseContext, IfaceConfig.valid, first, held, pan, unlisted]
    | some other =>
      have differs : other ≠ vif := by
        rintro rfl
        exact absurd (settled.assigned.once _ _ _ first held) (by decide)
      have shared : (info other).type ∉ exclusiveInterfaceModes .bss := by
        intro exclusive
        have none := settled.assigned.alone _ _ first ((exclusive_iff _ _).mpr exclusive) .pan (by decide)
        rw [held] at none
        cases none
      simp [chooseContext, IfaceConfig.valid, first, held, pan, differs, shared]

/-- A context that an interface without one gets: it is free and valid, and lists the type; and if it is the second
one, the first one is taken by an interface that stands others, or does not list the type. -/
structure Fits (config : IfaceConfig) (info : Vif → VifInfo) (priv : IfacePriv Vif) (vif : Vif) (ctx : CtxId) :
    Prop where
  free : (priv.context ctx).vif = none
  valid : config.valid ctx = true
  listed : (info vif).viftype ∈ interfaceModes ctx ++ exclusiveInterfaceModes ctx
  shared : ctx = .pan → ∀ other, (priv.context .bss).vif = some other →
    (info other).type ∉ exclusiveInterfaceModes .bss
  unlisted : ctx = .pan → (priv.context .bss).vif = none →
    (info vif).viftype ∉ interfaceModes .bss ++ exclusiveInterfaceModes .bss

/-- The second context, when the loop has passed the first one. -/
theorem choose_pan (free : (priv.context .pan).vif ≠ some vif)
    (found : chooseContext config info priv vif [.pan] = .found ctx reset) :
    ctx = .pan ∧ reset = false ∧ (priv.context .pan).vif = none ∧ config.valid .pan = true ∧
      (info vif).viftype ∈ interfaceModes .pan ++ exclusiveInterfaceModes .pan := by
  rw [chooseContext] at found
  cases valid : config.valid .pan with
  | false => simp [valid, chooseContext] at found
  | true =>
    cases held : (priv.context .pan).vif with
    | some other =>
      have differs : other ≠ vif := fun same => free (same ▸ held)
      simp [valid, held, differs, exclusiveInterfaceModes, chooseContext] at found
    | none =>
      by_cases listed : (info vif).viftype ∈ interfaceModes .pan ++ exclusiveInterfaceModes .pan
      · rw [if_neg (by simp [valid])] at found
        simp only [held, if_pos listed] at found
        obtain ⟨rfl, rfl⟩ := Choice.found.inj found
        exact ⟨rfl, rfl, rfl, rfl, listed⟩
      · rw [if_neg (by simp [valid])] at found
        simp only [held, if_neg listed] at found
        cases found

/-- **Where an interface goes that has no context.** -/
theorem choose_free (free : ∀ ctx, (priv.context ctx).vif ≠ some vif)
    (found : chooseContext config info priv vif [.bss, .pan] = .found ctx reset) :
    reset = false ∧ Fits config info priv vif ctx := by
  rw [chooseContext, if_neg (by simp [IfaceConfig.valid])] at found
  cases first : (priv.context .bss).vif with
  | some other =>
    have differs : other ≠ vif := fun same => free .bss (same ▸ first)
    simp only [first, if_neg differs] at found
    by_cases exclusive : (info other).type ∈ exclusiveInterfaceModes .bss
    · rw [if_pos exclusive] at found
      cases found
    · rw [if_neg exclusive] at found
      obtain ⟨rfl, rfl, second, valid, listed⟩ := choose_pan (free .pan) found
      refine ⟨rfl, second, valid, listed, fun _ own held => ?_, fun _ none => ?_⟩
      · rw [first] at held
        exact Option.some.inj held ▸ exclusive
      · rw [first] at none
        cases none
  | none =>
    by_cases listed : (info vif).viftype ∈ interfaceModes .bss ++ exclusiveInterfaceModes .bss
    · simp only [first, if_pos listed] at found
      obtain ⟨rfl, rfl⟩ := Choice.found.inj found
      exact ⟨rfl, first, rfl, listed, fun pan => (nomatch pan), fun pan => (nomatch pan)⟩
    · simp only [first, if_neg listed] at found
      obtain ⟨rfl, rfl, second, valid, modes⟩ := choose_pan (free .pan) found
      refine ⟨rfl, second, valid, modes, fun _ own held => ?_, fun _ _ => listed⟩
      rw [first] at held
      cases held

/-- An interface that is added again keeps its context, whatever becomes of the call. -/
theorem Settled.again (settled : Settled config info priv) (held : (priv.context ctx).vif = some vif) (commit : Int) :
    Settled config info (attach config info priv ctx true vif commit).2 := by
  have vifs : ∀ other, ((attach config info priv ctx true vif commit).2.context other).vif = (priv.context other).vif := by
    intro other
    rw [attach_context]
    by_cases same : other = ctx
    · subst same
      simp [held]
    · rw [Function.update_of_ne same]
  obtain ⟨⟨once, knows, listed, alone⟩, idle, second⟩ := settled
  refine ⟨⟨?_, fun other own there => ?_, ?_, ?_⟩, fun other none => ?_, ?_⟩
  · simpa only [vifs] using once
  · rw [vifs] at there
    rw [attach_vifCtx]
    by_cases same : own = vif
    · subst same
      rw [Function.update_self, once _ _ _ held there]
    · rw [Function.update_of_ne same]
      exact knows other own there
  · simpa only [vifs] using listed
  · simpa only [vifs] using alone
  · rw [vifs] at none
    have differs : other ≠ ctx := by
      rintro rfl
      rw [held] at none
      cases none
    rw [attach_context, Function.update_of_ne differs]
    exact idle other none
  · simpa only [vifs] using second

/-- An interface that gets no context after all leaves the contexts as they were. -/
theorem Settled.refused (settled : Settled config info priv) (free : ∀ other, (priv.context other).vif ≠ some vif)
    (none : (priv.context ctx).vif = none) (failed : commit ≠ 0) :
    (attach config info priv ctx false vif commit).2.context = priv.context ∧
      Settled config info (attach config info priv ctx false vif commit).2 := by
  have same : (attach config info priv ctx false vif commit).2.context = priv.context := by
    rw [attach_context]
    funext other
    by_cases here : other = ctx
    · subst here
      simp [failed, settled.idle other none]
    · rw [Function.update_of_ne here]
  refine ⟨same, settled.congr same fun other own held => ?_⟩
  have differs : own ≠ vif := by
    rintro rfl
    exact free other held
  rw [attach_vifCtx, Function.update_of_ne differs]

/-- The interfaces after an addition that succeeded. -/
theorem joined_vif (other : CtxId) : ((attach config info priv ctx reset vif 0).2.context other).vif =
    if other = ctx then some vif else (priv.context other).vif := by
  rw [attach_context]
  by_cases here : other = ctx
  · subst here
    simp
  · rw [Function.update_of_ne here, if_neg here]

/-- Who holds a context then: the new interface the one it got, and the others what they had. -/
theorem joined_holder (free : ∀ other, (priv.context other).vif ≠ some vif) {other : CtxId} {own : Vif}
    (held : ((attach config info priv ctx reset vif 0).2.context other).vif = some own) :
    other = ctx ∧ own = vif ∨ other ≠ ctx ∧ own ≠ vif ∧ (priv.context other).vif = some own := by
  rw [joined_vif] at held
  by_cases here : other = ctx
  · rw [if_pos here] at held
    exact .inl ⟨here, (Option.some.inj held).symm⟩
  · rw [if_neg here] at held
    exact .inr ⟨here, fun same => free other (same ▸ held), held⟩

theorem eq_pan (differs : ctx ≠ .bss) : ctx = .pan := by
  cases ctx with
  | bss => exact absurd rfl differs
  | pan => rfl

/-- Only the first context has interfaces that stand no other one. -/
theorem eq_bss_of_exclusive {type : Iftype} (exclusive : type ∈ exclusiveInterfaceModes ctx) : ctx = .bss := by
  cases ctx with
  | bss => rfl
  | pan => cases exclusive

/-- **An interface that gets a context which fits** is where it should be, unless it does not stand another one. -/
theorem Settled.joined (settled : Settled config info priv) (free : ∀ other, (priv.context other).vif ≠ some vif)
    (fits : Fits config info priv vif ctx)
    (stands : (info vif).viftype ∈ exclusiveInterfaceModes ctx → ∀ other, other ≠ ctx → (priv.context other).vif = none) :
    Settled config info (attach config info priv ctx false vif 0).2 := by
  obtain ⟨⟨once, knows, listed, alone⟩, idle, second⟩ := settled
  refine ⟨⟨fun first other own held there => ?_, fun other own held => ?_, fun other own held => ?_,
    fun other own held exclusive apart differs => ?_⟩, fun other none => ?_, fun none own held => ?_⟩
  · rcases joined_holder free held with ⟨rfl, rfl⟩ | ⟨_, differs, before⟩
    · rcases joined_holder free there with ⟨rfl, _⟩ | ⟨_, differs, _⟩
      · rfl
      · exact absurd rfl differs
    · rcases joined_holder free there with ⟨_, same⟩ | ⟨_, _, also⟩
      · exact absurd same differs
      · exact once first other own before also
  · rw [attach_vifCtx]
    rcases joined_holder free held with ⟨rfl, rfl⟩ | ⟨_, differs, before⟩
    · exact Function.update_self _ _ _
    · rw [Function.update_of_ne differs]
      exact knows other own before
  · rcases joined_holder free held with ⟨rfl, rfl⟩ | ⟨_, _, before⟩
    · exact ⟨fits.valid, fits.listed⟩
    · exact listed other own before
  · rw [joined_vif]
    rcases joined_holder free held with ⟨rfl, rfl⟩ | ⟨elsewhere, _, before⟩
    · rw [if_neg differs]
      exact stands exclusive apart differs
    · obtain rfl := eq_bss_of_exclusive exclusive
      have pan := eq_pan elsewhere.symm
      exact absurd ((exclusive_iff _ _).mp exclusive) (fits.shared pan own before)
  · rw [joined_vif] at none
    by_cases here : other = ctx
    · rw [if_pos here] at none
      cases none
    · rw [if_neg here] at none
      rw [attach_context, Function.update_of_ne here]
      exact idle other none
  · rw [joined_vif] at none
    by_cases first : CtxId.bss = ctx
    · rw [if_pos first] at none
      cases none
    · rw [if_neg first] at none
      have pan := eq_pan (Ne.symm first)
      rcases joined_holder free held with ⟨_, rfl⟩ | ⟨_, _, before⟩
      · exact fits.unlisted pan none
      · exact second none own before

/-- An exclusive interface that gets the first context while the second one is taken. -/
theorem not_joined (priv : IfacePriv Vif) (reset : Bool) (exclusive : (info vif).viftype ∈ exclusiveInterfaceModes .bss)
    (taken : (priv.context .pan).vif ≠ none) :
    ¬ Assigned config info (attach config info priv .bss reset vif 0).2 := by
  intro assigned
  have none := assigned.alone .bss vif (by rw [joined_vif, if_pos rfl]) exclusive .pan (by decide)
  rw [joined_vif, if_neg (by decide)] at none
  exact taken none

/-! ### Runs of calls -/

/-- **What a call can come to**, under the mutex: it is refused, the interface keeps its context, or it gets one that
fits. -/
theorem Settled.locked_cases (settled : Settled config info priv) (vif : Vif) (ready : Bool) (commit : Int) :
    ((addLocked config info priv vif ready commit).1 ≠ .ok ∧ (addLocked config info priv vif ready commit).2 = priv) ∨
    (∃ ctx, (priv.context ctx).vif = some vif ∧
      addLocked config info priv vif ready commit = attach config info priv ctx true vif commit) ∨
    ∃ ctx, ready = true ∧ (∀ other, (priv.context other).vif ≠ some vif) ∧ Fits config info priv vif ctx ∧
      addLocked config info priv vif ready commit = attach config info priv ctx false vif commit := by
  unfold addLocked
  cases ready with
  | false => exact .inl ⟨by simp, rfl⟩
  | true =>
    rw [if_neg (by decide)]
    by_cases attached : Attached priv vif
    · obtain ⟨ctx, held⟩ := attached
      rw [settled.choose_attached held]
      exact .inr (.inl ⟨ctx, held, rfl⟩)
    · have free : ∀ other, (priv.context other).vif ≠ some vif := fun other held => attached ⟨other, held⟩
      cases found : chooseContext config info priv vif [.bss, .pan] with
      | busy => exact .inl ⟨nofun, rfl⟩
      | nothing => exact .inl ⟨nofun, rfl⟩
      | found ctx reset =>
        obtain ⟨rfl, fits⟩ := choose_free free found
        exact .inr (.inr ⟨ctx, rfl, free, fits, rfl⟩)

/-- An exclusive interface gets the first context if that is free. -/
theorem addLocked_first (priv : IfacePriv Vif) (commit : Int) (none : (priv.context .bss).vif = none)
    (exclusive : (info vif).viftype ∈ exclusiveInterfaceModes .bss) :
    addLocked config info priv vif true commit = attach config info priv .bss false vif commit := by
  have listed : (info vif).viftype ∈ interfaceModes .bss ++ exclusiveInterfaceModes .bss :=
    List.mem_append_right _ exclusive
  have found : chooseContext config info priv vif [.bss, .pan] = .found .bss false := by
    rw [chooseContext, if_neg (by simp [IfaceConfig.valid])]
    simp only [none, if_pos listed]
  rw [addLocked, if_neg (by decide), found]

/-- The state while a call has the mutex. -/
def IfacePriv.locked (priv : IfacePriv Vif) : IfacePriv Vif := { priv with mutex := true }

omit [DecidableEq Vif] in
theorem Settled.locked (settled : Settled config info priv) : Settled config info priv.locked :=
  settled.congr rfl fun _ _ _ => rfl

omit [DecidableEq Vif] in
theorem Settled.unlocked (settled : Settled config info priv) : Settled config info { priv with mutex := false } :=
  settled.congr rfl fun _ _ _ => rfl

omit [DecidableEq Vif] in
theorem addFine_iff : addFine info priv call = false ↔ call.ready = true ∧ (priv.context .bss).vif = none ∧
    (info call.vif).viftype ∈ exclusiveInterfaceModes .bss ∧ (priv.context .pan).vif ≠ none ∧ call.commit = 0 := by
  unfold addFine
  simp [Option.isSome_iff_ne_none, and_assoc]

/-- **A call of the allowed kind** keeps every interface where it should be. -/
theorem Settled.step (settled : Settled config info priv) (fine : addFine info priv call = true)
    (stepped : addStep config info priv call = some next) :
    Settled config info next ∧ AddRight config info priv call next := by
  obtain rfl := Option.some.inj stepped
  unfold AddRight iwlagnMacAddInterface
  change Settled config info { (addLocked config info priv.locked call.vif call.ready call.commit).2 with mutex := false } ∧
    Assigned config info { (addLocked config info priv.locked call.vif call.ready call.commit).2 with mutex := false } ∧
    ((addLocked config info priv.locked call.vif call.ready call.commit).1 ≠ .ok → ¬ Attached priv call.vif →
      (addLocked config info priv.locked call.vif call.ready call.commit).2.context = priv.context) ∧ _
  rcases settled.locked.locked_cases call.vif call.ready call.commit with ⟨_, same⟩ | ⟨ctx, held, is⟩ |
    ⟨ctx, ready, free, fits, is⟩
  · rw [same]
    exact ⟨settled.locked.unlocked, settled.locked.unlocked.assigned, fun _ _ => rfl, rfl⟩
  · rw [is]
    have kept := (settled.locked.again held call.commit).unlocked
    exact ⟨kept, kept.assigned, fun _ free => absurd ⟨ctx, held⟩ free, rfl⟩
  · rw [is]
    by_cases done : call.commit = 0
    · have stands : (info call.vif).viftype ∈ exclusiveInterfaceModes ctx →
          ∀ other, other ≠ ctx → (priv.context other).vif = none := by
        intro exclusive other differs
        obtain rfl := eq_bss_of_exclusive exclusive
        obtain rfl := eq_pan differs
        by_contra taken
        have broken : addFine info priv call = false :=
          addFine_iff.mpr ⟨ready, fits.free, exclusive, taken, done⟩
        rw [broken] at fine
        cases fine
      have joined := (settled.locked.joined free fits stands).unlocked
      rw [done]
      exact ⟨joined, joined.assigned, fun failed => absurd (attach_result.mpr rfl) failed, rfl⟩
    · obtain ⟨same, kept⟩ := settled.locked.refused free fits.free done
      exact ⟨kept.unlocked, kept.unlocked.assigned, fun _ _ => same, rfl⟩

/-- **A call of the other kind** puts two interfaces where one must be alone. -/
theorem not_addRight (other : addFine info priv call = false) (stepped : addStep config info priv call = some next) :
    ¬ AddRight config info priv call next := by
  obtain rfl := Option.some.inj stepped
  obtain ⟨ready, free, exclusive, taken, done⟩ := addFine_iff.mp other
  rintro ⟨assigned, _, _⟩
  unfold iwlagnMacAddInterface at assigned
  rw [ready, done] at assigned
  change Assigned config info { (addLocked config info priv.locked call.vif true 0).2 with mutex := false } at assigned
  rw [addLocked_first priv.locked 0 free exclusive] at assigned
  exact not_joined priv.locked false exclusive taken
    ⟨assigned.once, assigned.knows, assigned.listed, assigned.alone⟩

/-- **Every interface is where it should be**, in every run of additions, just when no exclusive interface gets the
first context while the second one is taken. -/
theorem interfaces_iff (config : IfaceConfig) (info : Vif → VifInfo) (calls : List (AddCall Vif)) :
    Machine.Throughout (addStep config info) (AddRight config info) .init calls ↔
      Machine.allowed (addStep config info) (addFine info) .init calls = true :=
  @Machine.throughout_iff_allowed _ _ (addStep config info) (addFine info) (AddRight config info) (Settled config info)
    (fun _ _ _ inv fine stepped => inv.step fine stepped) (fun _ _ _ _ other stepped => not_addRight other stepped)
    (fun _ _ => ⟨_, rfl⟩) _ _ settled_init

/-- An access point and an interface that does not stand others. -/
def apThenAdhoc : Bool → VifInfo
  | false => ⟨.ap, false⟩
  | true => ⟨.adhoc, false⟩

/-- The access point gets the second context, since the first one does not list its type, and the other one the first. -/
theorem interfaces_broken : ¬ Machine.Throughout (addStep ⟨true, false⟩ apThenAdhoc) (AddRight ⟨true, false⟩ apThenAdhoc)
    .init [⟨false, true, 0⟩, ⟨true, true, 0⟩] := by
  intro all
  obtain ⟨_, later⟩ := all _ rfl
  exact not_addRight (by decide) rfl (later _ rfl).1

end IntelWifi.Dvm.Interfaces
