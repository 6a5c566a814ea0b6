/-
**Committing an RXON.**

`iwlagn_commit_rxon` on both contexts, beside what the firmware holds: of each context the last RXON it
accepted, with the last RXON_ASSOC it accepted since. What is staged before a call, the flags the call
reads and what becomes of each command are inputs. A command that is not sent leaves the firmware as it
was; one whose response is lost may have been accepted. The contents of commands other than RXON and
RXON_ASSOC are left out.

* `commit_agrees_iff`: from agreement, when a call ends in agreement.
* `rxonAgreement_iff`: the runs that agree all along are those whose calls all do.
* `rxonAssoc_programs`: what an RXON_ASSOC, where it is enough, leaves in the firmware.
-/

import IntelWifi.Dvm.Stations
import IntelWifi.Lib.Machine

namespace IntelWifi.Dvm.Rxon

/-- `struct iwl_rxon_cmd`. -/
structure RxonCmd where
  nodeAddr : EthAddr
  bssidAddr : EthAddr
  wlapBssidAddr : EthAddr
  devType : UInt8
  airPropagation : UInt8
  rxChain : UInt16
  ofdmBasicRates : UInt8
  cckBasicRates : UInt8
  assocId : UInt16
  flags : UInt32
  filterFlags : UInt32
  channel : UInt16
  ofdmHtSingleStreamBasicRates : UInt8
  ofdmHtDualStreamBasicRates : UInt8
  ofdmHtTripleStreamBasicRates : UInt8
  acquisitionData : UInt16
  deriving DecidableEq

/-- After a `memset`. -/
def RxonCmd.zero : RxonCmd := ⟨zeroAddr, zeroAddr, zeroAddr, 0, 0, 0, 0, 0, 0, 0, 0, 0, 0, 0, 0, 0⟩

def rxonFlgBand24gMsk : UInt32 := 0x1
def rxonFlgCckMsk : UInt32 := 0x2
def rxonFlgAutoDetectMsk : UInt32 := 0x4
def rxonFlgTggProtectMsk : UInt32 := 0x8
def rxonFlgShortSlotMsk : UInt32 := 0x10
def rxonFlgRadarDetectMsk : UInt32 := 0x1000
def rxonFlgTgjNarrowBandMsk : UInt32 := 0x2000
def rxonFlgTsf2hostMsk : UInt32 := 0x8000
def rxonFlgSelfCtsEn : UInt32 := 0x40000000
def rxonFilterDisDecryptMsk : UInt32 := 0x8
def rxonFilterAssocMsk : UInt32 := 0x20

/-- `RXON_DEV_TYPE_P2P`. -/
def rxonDevTypeP2p : UInt8 := 9

/-- `RXON_FILTER_ASSOC_MSK` is set. -/
def RxonCmd.assoc (rxon : RxonCmd) : Bool := rxon.filterFlags &&& rxonFilterAssocMsk != 0

/-- The un-associated image, as `iwlagn_disable_bss` and `iwlagn_disconn_pan` send it. -/
def RxonCmd.withoutAssoc (rxon : RxonCmd) : RxonCmd :=
  { rxon with filterFlags := rxon.filterFlags &&& ~~~rxonFilterAssocMsk }

/-- What `iwl_rxon_assoc_cmd` has of it, in the firmware's image. -/
def RxonCmd.takeAssoc (held rxon : RxonCmd) : RxonCmd :=
  { held with
    flags := rxon.flags
    filterFlags := rxon.filterFlags
    ofdmBasicRates := rxon.ofdmBasicRates
    cckBasicRates := rxon.cckBasicRates
    ofdmHtSingleStreamBasicRates := rxon.ofdmHtSingleStreamBasicRates
    ofdmHtDualStreamBasicRates := rxon.ofdmHtDualStreamBasicRates
    ofdmHtTripleStreamBasicRates := rxon.ofdmHtTripleStreamBasicRates
    rxChain := rxon.rxChain
    acquisitionData := rxon.acquisitionData }

/-- Of the interface: `bss_conf.use_short_slot`, and the `hw_value` of each basic rate. -/
structure Vif where
  useShortSlot : Bool
  basicRates : List Nat

/-- The commands of a commit. `panWait` is the wait for `REPLY_WIPAN_DEACTIVATION_COMPLETE`. -/
inductive CommitCommand where
  | rxonAssoc
  | disableRxon
  | panWait
  | disconnTiming
  | disconnRxon
  | wepKeys
  | panParams
  | connectTiming
  | connectRxon
  | txPower
  deriving DecidableEq, Repr

/-- What becomes of a command: it succeeds; it is not sent; or it is accepted and reported as failed. -/
inductive Reply where
  | ok
  | refused
  | lost
  deriving DecidableEq, Repr

def Reply.passed : Reply → Bool
  | .ok => true
  | _ => false

def Reply.accepted : Reply → Bool
  | .refused => false
  | _ => true

/-- A call of `iwlagn_commit_rxon`. -/
structure CommitCall where
  ctx : CtxId
  staging : RxonCmd
  vif : Option Vif
  isActive : Bool
  alive : Bool
  useRtsForAggregation : Bool
  swcrypto : Bool
  /-- `iwlagn_set_pan_params` has something to send. -/
  panActive : Bool
  reply : CommitCommand → Reply

/-- What was active, and what the firmware holds. -/
structure RxonState where
  active : CtxId → RxonCmd
  firmware : CtxId → RxonCmd

/-- The result of a commit. -/
inductive CommitResult where
  | done
  | ebusy
  | einval
  | failed (command : CommitCommand)
  deriving DecidableEq, Repr

/-! ### What is staged -/

/-- `IWL_FIRST_OFDM_RATE`. -/
def iwlFirstOfdmRate : Nat := 4

/-- A bit of a `u8`. -/
def rateBit (i : Nat) : UInt8 := UInt8.ofNat (1 <<< i)

/-- `iwl_calc_basic_rates`: the OFDM and the CCK rates. -/
def iwlCalcBasicRates (vif : Option Vif) : UInt8 × UInt8 :=
  let rates := (vif.map Vif.basicRates).getD []
  let ofdmRates := rates.filter fun hw => iwlFirstOfdmRate ≤ hw
  let cckRates := rates.filter fun hw => hw < iwlFirstOfdmRate
  let lowestPresentOfdm := ofdmRates.foldl min 100
  let lowestPresentCck := cckRates.foldl min 100
  let ofdm := ofdmRates.foldl (fun acc hw => acc ||| rateBit (hw - iwlFirstOfdmRate)) 0
  let cck := cckRates.foldl (fun acc hw => acc ||| rateBit hw) 0
  let ofdm := if 8 < lowestPresentOfdm then ofdm ||| 0x10 else ofdm
  let ofdm := if 6 < lowestPresentOfdm then ofdm ||| 0x04 else ofdm
  let ofdm := ofdm ||| 0x01
  let cck := if 3 < lowestPresentCck then cck ||| 0x08 else cck
  let cck := if 2 < lowestPresentCck then cck ||| 0x04 else cck
  let cck := if 1 < lowestPresentCck then cck ||| 0x02 else cck
  (ofdm, cck ||| 0x01)

/-- The staging image as the call prepares it. -/
def CommitCall.prepared (call : CommitCall) : RxonCmd :=
  let staging := { call.staging with flags := call.staging.flags ||| rxonFlgTsf2hostMsk }
  let (ofdm, cck) := iwlCalcBasicRates call.vif
  let staging := { staging with ofdmBasicRates := ofdm, cckBasicRates := cck }
  let staging :=
    if !call.useRtsForAggregation then { staging with flags := staging.flags ||| rxonFlgSelfCtsEn }
    else staging
  if (call.vif.map Vif.useShortSlot).getD false || staging.flags &&& rxonFlgBand24gMsk == 0 then
    { staging with flags := staging.flags ||| rxonFlgShortSlotMsk }
  else { staging with flags := staging.flags &&& ~~~rxonFlgShortSlotMsk }

/-- `iwl_check_rxon_cmd`: whether there are no errors. -/
def iwlCheckRxonCmd (rxon : RxonCmd) : Bool :=
  let has (mask : UInt32) : Bool := rxon.flags &&& mask != 0
  (if has rxonFlgBand24gMsk then !has rxonFlgTgjNarrowBandMsk && !has rxonFlgRadarDetectMsk
    else has rxonFlgShortSlotMsk && !has rxonFlgCckMsk) &&
  (rxon.nodeAddr.get 0 ||| rxon.bssidAddr.get 0) &&& 1 == 0 &&
  !(rxon.ofdmBasicRates &&& 0x10 == 0 && rxon.cckBasicRates &&& 0x01 == 0) &&
  rxon.assocId ≤ 2007 &&
  !(has rxonFlgCckMsk && has rxonFlgShortSlotMsk) &&
  !(has rxonFlgCckMsk && has rxonFlgAutoDetectMsk) &&
  !(has rxonFlgTggProtectMsk && !has rxonFlgAutoDetectMsk) &&
  rxon.channel != 0

/-- `iwl_full_rxon_required`. -/
def iwlFullRxonRequired (staging active : RxonCmd) : Bool :=
  !active.assoc ||
  staging.bssidAddr != active.bssidAddr ||
  staging.nodeAddr != active.nodeAddr ||
  staging.wlapBssidAddr != active.wlapBssidAddr ||
  staging.devType != active.devType ||
  staging.channel != active.channel ||
  staging.airPropagation != active.airPropagation ||
  staging.ofdmHtSingleStreamBasicRates != active.ofdmHtSingleStreamBasicRates ||
  staging.ofdmHtDualStreamBasicRates != active.ofdmHtDualStreamBasicRates ||
  staging.ofdmHtTripleStreamBasicRates != active.ofdmHtTripleStreamBasicRates ||
  staging.assocId != active.assocId ||
  staging.flags &&& rxonFlgBand24gMsk != active.flags &&& rxonFlgBand24gMsk ||
  staging.filterFlags &&& rxonFilterAssocMsk != active.filterFlags &&& rxonFilterAssocMsk

/-- `iwl_set_rxon_hwcrypto`. -/
def iwlSetRxonHwcrypto (rxon : RxonCmd) (hwDecrypt : Bool) : RxonCmd :=
  if hwDecrypt then { rxon with filterFlags := rxon.filterFlags &&& ~~~rxonFilterDisDecryptMsk }
  else { rxon with filterFlags := rxon.filterFlags ||| rxonFilterDisDecryptMsk }

/-- The staging image of a full RXON. -/
def CommitCall.image (call : CommitCall) : RxonCmd := iwlSetRxonHwcrypto call.prepared (!call.swcrypto)

/-! ### The commands -/

/-- The firmware's image of a context is written. -/
def RxonState.hold (st : RxonState) (ctx : CtxId) (image : RxonCmd) : RxonState :=
  { st with firmware := Function.update st.firmware ctx image }

/-- `memcpy(active, &ctx->staging, sizeof(*active))`. -/
def RxonState.activate (st : RxonState) (ctx : CtxId) (image : RxonCmd) : RxonState :=
  { st with active := Function.update st.active ctx image }

variable (call : CommitCall)

/-- An RXON is sent. -/
def sendRxon (command : CommitCommand) (image : RxonCmd) (st : RxonState) : RxonState :=
  if (call.reply command).accepted then st.hold call.ctx image else st

/-- The image that the last un-associated RXON sends which `iwlagn_rxon_disconn` sends for PAN. -/
def RxonCmd.disabledPan (rxon : RxonCmd) : RxonCmd := { rxon.withoutAssoc with devType := rxonDevTypeP2p }

/-- `iwlagn_disable_pan` and what follows it, up to the restoring: the command that fails, if one does. -/
def disconnPan (st : RxonState) : Option CommitCommand × RxonState :=
  let st := sendRxon call .disableRxon call.image.disabledPan st
  if !(call.reply .disableRxon).passed then (some .disableRxon, st)
  else if !(call.reply .panWait).passed then (some .panWait, st)
  else if call.vif.isNone then (none, st)
  else if !(call.reply .disconnTiming).passed then (some .disconnTiming, st)
  else
    let st := sendRxon call .disconnRxon call.image.withoutAssoc st
    if !(call.reply .disconnRxon).passed then (some .disconnRxon, st) else (none, st)

/-- `iwlagn_disable_bss`. -/
def disconnBss (st : RxonState) : Option CommitCommand × RxonState :=
  let st := sendRxon call .disableRxon call.image.withoutAssoc st
  if !(call.reply .disableRxon).passed then (some .disableRxon, st) else (none, st)

/-- `iwlagn_rxon_disconn`. -/
def iwlagnRxonDisconn (st : RxonState) : Option CommitCommand × RxonState :=
  let (failed, st) :=
    match call.ctx with
    | .bss => disconnBss call st
    | .pan => disconnPan call st
  if failed.isSome then (failed, st)
  else if !(call.reply .wepKeys).passed then (some .wepKeys, st)
  else (none, st.activate call.ctx call.image)

/-- `iwlagn_rxon_connect`. -/
def iwlagnRxonConnect (st : RxonState) : Option CommitCommand × RxonState :=
  if call.ctx = .bss ∧ (call.reply .connectTiming).passed = false then (some .connectTiming, st)
  else
    let st := sendRxon call .connectRxon call.image st
    if !(call.reply .connectRxon).passed then (some .connectRxon, st)
    else
      let st := st.activate call.ctx call.image
      if !(call.reply .txPower).passed then (some .txPower, st) else (none, st)

/-- `iwlagn_send_rxon_assoc` finds what it would send already active. -/
def sameRxonAssoc (rxon1 rxon2 : RxonCmd) : Bool :=
  rxon1.flags == rxon2.flags &&
  rxon1.filterFlags == rxon2.filterFlags &&
  rxon1.cckBasicRates == rxon2.cckBasicRates &&
  rxon1.ofdmHtSingleStreamBasicRates == rxon2.ofdmHtSingleStreamBasicRates &&
  rxon1.ofdmHtDualStreamBasicRates == rxon2.ofdmHtDualStreamBasicRates &&
  rxon1.ofdmHtTripleStreamBasicRates == rxon2.ofdmHtTripleStreamBasicRates &&
  rxon1.acquisitionData == rxon2.acquisitionData &&
  rxon1.rxChain == rxon2.rxChain &&
  rxon1.ofdmBasicRates == rxon2.ofdmBasicRates

/-- `iwlagn_send_rxon_assoc`, whose command is asynchronous: a failure means it was not sent. -/
def iwlagnSendRxonAssoc (st : RxonState) : Option CommitCommand × RxonState :=
  if sameRxonAssoc call.prepared (st.active call.ctx) then (none, st)
  else if !(call.reply .rxonAssoc).passed then (some .rxonAssoc, st)
  else (none, st.hold call.ctx ((st.firmware call.ctx).takeAssoc call.prepared))

/-- The result of a step that may fail. -/
def CommitResult.of : Option CommitCommand → CommitResult
  | none => .done
  | some command => .failed command

/-- `iwlagn_commit_rxon`. -/
def iwlagnCommitRxon (st : RxonState) : CommitResult × RxonState :=
  if !call.alive then (.ebusy, st)
  else if !call.isActive then (.done, st)
  else if !iwlCheckRxonCmd call.prepared then (.einval, st)
  else if !iwlFullRxonRequired call.prepared (st.active call.ctx) then
    let (failed, st) := iwlagnSendRxonAssoc call st
    if failed.isSome then (.of failed, st) else (.done, st.activate call.ctx call.prepared)
  else
    let (failed, st) := iwlagnRxonDisconn call st
    if failed.isSome then (.of failed, st)
    else if call.panActive && !(call.reply .panParams).passed then (.failed .panParams, st)
    else if call.staging.assoc then
      let (failed, st) := iwlagnRxonConnect call st
      (.of failed, st)
    else (.done, st)

/-! ### Agreement -/

/-- **What is active is what the firmware holds.** -/
def Agrees (st : RxonState) : Prop := st.active = st.firmware

/-- The call gets to the full RXON. -/
def CommitCall.needsFull (active : RxonCmd) : Bool :=
  call.alive && call.isActive && iwlCheckRxonCmd call.prepared && iwlFullRxonRequired call.prepared active

/-- No command of the disconnection fails. -/
def CommitCall.disconnects : Bool :=
  (call.reply .disableRxon).passed &&
  (match call.ctx with
    | .bss => true
    | .pan => (call.reply .panWait).passed &&
        (call.vif.isNone || (call.reply .disconnTiming).passed && (call.reply .disconnRxon).passed)) &&
  (call.reply .wepKeys).passed

/-- What the firmware holds after the disconnection, from what it held. -/
def CommitCall.disconnected (held : RxonCmd) : RxonCmd :=
  match call.ctx with
  | .bss => if (call.reply .disableRxon).accepted then call.image.withoutAssoc else held
  | .pan =>
    if (call.reply .disableRxon).passed && (call.reply .panWait).passed && call.vif.isSome &&
        (call.reply .disconnTiming).passed && (call.reply .disconnRxon).accepted then
      call.image.withoutAssoc
    else if (call.reply .disableRxon).accepted then call.image.disabledPan
    else held

/-- **When a call keeps the agreement**: it needs no full RXON; or its disconnection fails and leaves the
firmware with what is active; or it disconnects only, from BSS, from an interface, or as P2P; or it connects,
and every command up to the associated RXON goes well. -/
def CommitCall.keeps (st : RxonState) : Bool :=
  if !call.needsFull (st.active call.ctx) then true
  else if !call.disconnects then call.disconnected (st.firmware call.ctx) == st.active call.ctx
  else if !call.staging.assoc then
    call.ctx == .bss || call.vif.isSome || call.staging.devType == rxonDevTypeP2p
  else
    (!call.panActive || (call.reply .panParams).passed) &&
      (call.ctx == .pan || (call.reply .connectTiming).passed) && (call.reply .connectRxon).accepted

/-! ### The association flag -/

theorem and_or_left (x y z : UInt32) : x &&& (y ||| z) = x &&& y ||| x &&& z :=
  UInt32.toBitVec_inj.mp BitVec.and_or_distrib_left

section Assoc

variable (rxon : RxonCmd)

theorem assoc_withoutAssoc : rxon.withoutAssoc.assoc = false := by
  unfold RxonCmd.assoc RxonCmd.withoutAssoc
  rw [bne_eq_false_iff_eq, UInt32.and_assoc]
  exact UInt32.and_zero

theorem withoutAssoc_eq (unassoc : rxon.assoc = false) : rxon.withoutAssoc = rxon := by
  have clear : rxon.filterFlags &&& rxonFilterAssocMsk = 0 := bne_eq_false_iff_eq.mp unassoc
  have split : rxon.filterFlags &&& (rxonFilterAssocMsk ||| ~~~rxonFilterAssocMsk) = rxon.filterFlags :=
    UInt32.and_neg_one
  rw [and_or_left, clear, UInt32.zero_or] at split
  unfold RxonCmd.withoutAssoc
  rw [split]

theorem assoc_hwcrypto (hwDecrypt : Bool) : (iwlSetRxonHwcrypto rxon hwDecrypt).assoc = rxon.assoc := by
  unfold iwlSetRxonHwcrypto RxonCmd.assoc
  split
  · dsimp only
    rw [UInt32.and_assoc]
    rfl
  · dsimp only
    rw [UInt32.and_comm, and_or_left, show rxonFilterAssocMsk &&& rxonFilterDisDecryptMsk = 0 from rfl,
      UInt32.or_zero, UInt32.and_comm]

end Assoc

/-- Preparing the staging image does not associate it. -/
theorem assoc_image : call.image.assoc = call.staging.assoc := by
  unfold CommitCall.image
  rw [assoc_hwcrypto]
  unfold CommitCall.prepared
  dsimp only
  split <;> split <;> rfl

theorem devType_image : call.image.devType = call.staging.devType := by
  unfold CommitCall.image iwlSetRxonHwcrypto CommitCall.prepared
  dsimp only
  split <;> split <;> split <;> rfl

/-- The un-associated image of an un-associated one, for P2P. -/
theorem disabledPan_eq_iff (unassoc : call.staging.assoc = false) :
    call.image.disabledPan = call.image ↔ call.staging.devType = rxonDevTypeP2p := by
  unfold RxonCmd.disabledPan
  rw [withoutAssoc_eq _ ((assoc_image call).trans unassoc), ← devType_image call]
  constructor
  · intro same
    exact (congrArg RxonCmd.devType same).symm
  · intro same
    rw [← same]

/-! ### One call -/

variable {call} {st : RxonState} {ctx : CtxId} {image image' : RxonCmd}

theorem hold_hold : (st.hold ctx image).hold ctx image' = st.hold ctx image' := by
  unfold RxonState.hold
  rw [Function.update_idem]

theorem hold_firmware : (st.hold ctx image).firmware ctx = image := Function.update_self _ _ _

theorem hold_self : st.hold ctx (st.firmware ctx) = st := by
  unfold RxonState.hold
  rw [Function.update_eq_self]

theorem sendRxon_eq (command : CommitCommand) : sendRxon call command image st =
    st.hold call.ctx (if (call.reply command).accepted then image else st.firmware call.ctx) := by
  unfold sendRxon
  split
  · rfl
  · exact hold_self.symm

/-- Agreement after the firmware's image is written. -/
theorem agrees_hold (agrees : Agrees st) : Agrees (st.hold ctx image) ↔ image = st.active ctx := by
  unfold Agrees RxonState.hold at *
  dsimp only
  constructor
  · intro same
    rw [same, Function.update_self]
  · intro same
    rw [same, ← agrees, Function.update_eq_self]

/-- And after what is active is written too. -/
theorem agrees_activate (agrees : Agrees st) :
    Agrees ((st.hold ctx image).activate ctx image') ↔ image = image' := by
  unfold Agrees RxonState.hold RxonState.activate at *
  dsimp only
  constructor
  · intro same
    have here := congrFun same ctx
    rw [Function.update_self, Function.update_self] at here
    exact here.symm
  · intro same
    rw [same, agrees]

theorem passed_accepted {reply : Reply} (passed : reply.passed = true) : reply.accepted = true := by
  cases reply with
  | ok => rfl
  | refused => cases passed
  | lost => rfl

/-- **The disconnection of BSS.** -/
theorem disconnBss_spec (bss : call.ctx = .bss) :
    (disconnBss call st).2 = st.hold call.ctx (call.disconnected (st.firmware call.ctx)) ∧
      (disconnBss call st).1.isSome = !(call.reply .disableRxon).passed := by
  unfold disconnBss CommitCall.disconnected
  rw [sendRxon_eq, bss]
  cases (call.reply .disableRxon).passed <;> exact ⟨rfl, rfl⟩

/-- **The disconnection of PAN.** -/
theorem disconnPan_spec (pan : call.ctx = .pan) :
    (disconnPan call st).2 = st.hold call.ctx (call.disconnected (st.firmware call.ctx)) ∧
      (disconnPan call st).1.isSome = !((call.reply .disableRxon).passed && ((call.reply .panWait).passed &&
        (call.vif.isNone || (call.reply .disconnTiming).passed && (call.reply .disconnRxon).passed))) := by
  unfold disconnPan CommitCall.disconnected
  rw [sendRxon_eq, pan]
  dsimp only
  cases first : (call.reply .disableRxon).passed with
  | false => exact ⟨rfl, rfl⟩
  | true =>
    rw [passed_accepted first]
    cases (call.reply .panWait).passed with
    | false => exact ⟨rfl, rfl⟩
    | true =>
      cases call.vif with
      | none => exact ⟨rfl, rfl⟩
      | some vif =>
        cases (call.reply .disconnTiming).passed with
        | false => exact ⟨rfl, rfl⟩
        | true =>
          rw [sendRxon_eq, pan, hold_hold, hold_firmware]
          cases second : (call.reply .disconnRxon).passed with
          | true =>
            rw [passed_accepted second]
            exact ⟨rfl, rfl⟩
          | false => cases (call.reply .disconnRxon).accepted <;> exact ⟨rfl, rfl⟩

/-- **The disconnection.** -/
theorem rxonDisconn_spec (call : CommitCall) (st : RxonState) :
    (call.disconnects = true → iwlagnRxonDisconn call st =
      (none, (st.hold call.ctx (call.disconnected (st.firmware call.ctx))).activate call.ctx call.image)) ∧
    (call.disconnects = false → (iwlagnRxonDisconn call st).1.isSome = true ∧
      (iwlagnRxonDisconn call st).2 = st.hold call.ctx (call.disconnected (st.firmware call.ctx))) := by
  -- The commands before the WEP keys.
  obtain ⟨part, passes, partOf, split, held, isSome⟩ : ∃ (part : Option CommitCommand × RxonState)
      (passes : Bool), (match call.ctx with
        | .bss => disconnBss call st
        | .pan => disconnPan call st) = part ∧
      call.disconnects = (passes && (call.reply .wepKeys).passed) ∧
      part.2 = st.hold call.ctx (call.disconnected (st.firmware call.ctx)) ∧ part.1.isSome = !passes := by
    cases ctx : call.ctx with
    | bss =>
      have spec := @disconnBss_spec call st ctx
      rw [ctx] at spec
      refine ⟨_, _, rfl, ?_, spec⟩
      unfold CommitCall.disconnects
      rw [ctx, Bool.and_true]
    | pan =>
      have spec := @disconnPan_spec call st ctx
      rw [ctx] at spec
      refine ⟨_, _, rfl, ?_, spec⟩
      unfold CommitCall.disconnects
      rw [ctx]
  obtain ⟨failed, mid⟩ := part
  have run : iwlagnRxonDisconn call st =
      if failed.isSome then (failed, mid)
      else if !(call.reply .wepKeys).passed then (some .wepKeys, mid)
      else (none, mid.activate call.ctx call.image) := by
    unfold iwlagnRxonDisconn
    rw [partOf]
  dsimp only at held isSome
  rw [run, isSome, split, held]
  cases passes with
  | false => exact ⟨fun other => Bool.noConfusion other, fun _ => ⟨isSome, rfl⟩⟩
  | true =>
    cases (call.reply .wepKeys).passed with
    | false => exact ⟨fun other => Bool.noConfusion other, fun _ => ⟨rfl, rfl⟩⟩
    | true => exact ⟨fun _ => rfl, fun other => Bool.noConfusion other⟩

/-- An image that differs in the association flag. -/
theorem disconnected_ne (assoc : call.staging.assoc = true) (disconnects : call.disconnects = true)
    (held : RxonCmd) : call.disconnected held ≠ call.image := by
  have accepted : (call.reply .disableRxon).accepted = true := by
    unfold CommitCall.disconnects at disconnects
    rw [Bool.and_eq_true, Bool.and_eq_true] at disconnects
    exact passed_accepted disconnects.1.1
  intro same
  have flag := congrArg RxonCmd.assoc same
  rw [assoc_image, assoc] at flag
  unfold CommitCall.disconnected at flag
  rw [accepted] at flag
  have unassoc := assoc_withoutAssoc call.image
  have unassoc' : call.image.disabledPan.assoc = false := unassoc
  split at flag
  · rw [if_pos rfl, unassoc] at flag
    cases flag
  · split at flag
    · rw [unassoc] at flag
      cases flag
    · rw [if_pos rfl, unassoc'] at flag
      cases flag

/-- **A disconnection without a connection after it.** -/
theorem disconnected_eq_iff (unassoc : call.staging.assoc = false) (disconnects : call.disconnects = true)
    (held : RxonCmd) : call.disconnected held = call.image ↔
      (call.ctx == .bss || call.vif.isSome || call.staging.devType == rxonDevTypeP2p) = true := by
  have same := withoutAssoc_eq _ ((assoc_image call).trans unassoc)
  unfold CommitCall.disconnects at disconnects
  rw [Bool.and_eq_true, Bool.and_eq_true] at disconnects
  obtain ⟨⟨first, rest⟩, _⟩ := disconnects
  unfold CommitCall.disconnected
  cases ctx : call.ctx with
  | bss =>
    dsimp only
    rw [passed_accepted first, if_pos rfl]
    exact iff_of_true same rfl
  | pan =>
    rw [ctx] at rest
    obtain ⟨wait, rest⟩ := Bool.and_eq_true_iff.mp rest
    dsimp only
    rw [first, wait, passed_accepted first]
    cases vif : call.vif with
    | none =>
      rw [show ((CtxId.pan == .bss || (none : Option Vif).isSome ||
        call.staging.devType == rxonDevTypeP2p) = true ↔ call.staging.devType = rxonDevTypeP2p) from
          beq_iff_eq]
      exact disabledPan_eq_iff call unassoc
    | some own =>
      rw [vif] at rest
      obtain ⟨timing, second⟩ := Bool.and_eq_true_iff.mp rest
      rw [timing, passed_accepted second]
      exact iff_of_true same rfl

/-- **The connection** reaches the firmware if its timing and its RXON do. -/
theorem rxonConnect_spec (agrees : Agrees st) {held : RxonCmd} (differ : held ≠ call.image) :
    Agrees (iwlagnRxonConnect call ((st.hold call.ctx held).activate call.ctx call.image)).2 ↔
      ((call.ctx == .pan || (call.reply .connectTiming).passed) &&
        (call.reply .connectRxon).accepted) = true := by
  have connected : Agrees ((st.hold call.ctx call.image).activate call.ctx call.image) :=
    (agrees_activate agrees).mpr rfl
  have again (image : RxonCmd) : ((st.hold call.ctx image).activate call.ctx call.image).activate call.ctx
      call.image = (st.hold call.ctx image).activate call.ctx call.image := by
    unfold RxonState.activate
    rw [Function.update_idem]
  have holds : ((st.hold call.ctx held).activate call.ctx call.image).hold call.ctx call.image =
      (st.hold call.ctx call.image).activate call.ctx call.image := by
    unfold RxonState.activate RxonState.hold
    rw [Function.update_idem]
  -- From the RXON on.
  have rest : Agrees (
      let st := sendRxon call .connectRxon call.image
        ((st.hold call.ctx held).activate call.ctx call.image)
      if !(call.reply .connectRxon).passed then (some CommitCommand.connectRxon, st)
      else
        let st := st.activate call.ctx call.image
        if !(call.reply .txPower).passed then (some CommitCommand.txPower, st) else (none, st)).2 ↔
      (call.reply .connectRxon).accepted = true := by
    unfold sendRxon
    rw [holds]
    cases call.reply .connectRxon with
    | refused => exact iff_of_false (fun same => differ ((agrees_activate agrees).mp same)) Bool.false_ne_true
    | lost => exact iff_of_true connected rfl
    | ok =>
      refine iff_of_true ?_ rfl
      have ends := connected
      rw [← again] at ends
      cases (call.reply .txPower).passed <;> exact ends
  unfold iwlagnRxonConnect
  by_cases fails : call.ctx = .bss ∧ (call.reply .connectTiming).passed = false
  · rw [if_pos fails, fails.1, fails.2]
    refine iff_of_false (fun same => differ ?_) Bool.false_ne_true
    rw [← fails.1] at same
    exact (agrees_activate agrees).mp same
  · rw [if_neg fails, rest]
    have passes : (call.ctx == .pan || (call.reply .connectTiming).passed) = true := by
      cases ctx : call.ctx with
      | pan => rfl
      | bss =>
        cases timing : (call.reply .connectTiming).passed with
        | true => rfl
        | false => exact absurd ⟨ctx, timing⟩ fails
    rw [passes, Bool.true_and]

/-- **Without a full RXON**, RXON_ASSOC has all that differs. -/
theorem takeAssoc_eq {staging active : RxonCmd} (enough : iwlFullRxonRequired staging active = false) :
    active.takeAssoc staging = staging := by
  unfold iwlFullRxonRequired at enough
  simp only [Bool.or_eq_false_iff, bne_eq_false_iff_eq] at enough
  obtain ⟨⟨⟨⟨⟨⟨⟨⟨⟨⟨⟨⟨_, bssid⟩, node⟩, wlap⟩, devType⟩, channel⟩, air⟩, _⟩, _⟩, _⟩, assocId⟩, _⟩, _⟩ := enough
  unfold RxonCmd.takeAssoc
  rw [← bssid, ← node, ← wlap, ← devType, ← channel, ← air, ← assocId]

/-- What is not sent again is active already. -/
theorem sameRxonAssoc_eq {staging active : RxonCmd} (enough : iwlFullRxonRequired staging active = false)
    (same : sameRxonAssoc staging active = true) : staging = active := by
  rw [← takeAssoc_eq enough]
  unfold sameRxonAssoc at same
  simp only [Bool.and_eq_true, beq_iff_eq] at same
  obtain ⟨⟨⟨⟨⟨⟨⟨⟨flags, filter⟩, cck⟩, single⟩, dual⟩, triple⟩, acquisition⟩, rxChain⟩, ofdm⟩ := same
  unfold RxonCmd.takeAssoc
  rw [flags, filter, cck, single, dual, triple, acquisition, rxChain, ofdm]

/-- **The fast path agrees.** -/
theorem sendRxonAssoc_agrees (agrees : Agrees st)
    (enough : iwlFullRxonRequired call.prepared (st.active call.ctx) = false) :
    Agrees (let (failed, st) := iwlagnSendRxonAssoc call st
      if failed.isSome then (CommitResult.of failed, st)
      else (.done, st.activate call.ctx call.prepared)).2 := by
  unfold iwlagnSendRxonAssoc
  by_cases same : sameRxonAssoc call.prepared (st.active call.ctx) = true
  · rw [if_pos same, sameRxonAssoc_eq enough same]
    show Agrees (st.activate call.ctx (st.active call.ctx))
    unfold RxonState.activate
    rw [Function.update_eq_self]
    exact agrees
  · rw [if_neg same]
    cases (call.reply .rxonAssoc).passed with
    | false => exact agrees
    | true =>
      have taken : (st.firmware call.ctx).takeAssoc call.prepared = call.prepared := by
        rw [← congrFun agrees call.ctx, takeAssoc_eq enough]
      show Agrees ((st.hold call.ctx _).activate call.ctx call.prepared)
      exact (agrees_activate agrees).mpr taken

/-- **When a call ends in agreement.** -/
theorem commit_agrees_iff (call : CommitCall) (agrees : Agrees st) :
    Agrees (iwlagnCommitRxon call st).2 ↔ call.keeps st = true := by
  unfold iwlagnCommitRxon CommitCall.keeps CommitCall.needsFull
  cases call.alive with
  | false => exact iff_of_true agrees rfl
  | true =>
    cases call.isActive with
    | false => exact iff_of_true agrees rfl
    | true =>
      cases iwlCheckRxonCmd call.prepared with
      | false => exact iff_of_true agrees rfl
      | true =>
        cases full : iwlFullRxonRequired call.prepared (st.active call.ctx) with
        | false => exact iff_of_true (sendRxonAssoc_agrees agrees full) rfl
        | true =>
          obtain ⟨passes, fails⟩ := rxonDisconn_spec call st
          cases disconnects : call.disconnects with
          | false =>
            obtain ⟨failed, after⟩ := fails disconnects
            generalize iwlagnRxonDisconn call st = result at failed after
            obtain ⟨error, mid⟩ := result
            dsimp only at failed after
            dsimp only [Bool.not_true]
            rw [failed]
            show Agrees mid ↔ (call.disconnected (st.firmware call.ctx) == st.active call.ctx) = true
            rw [after, agrees_hold agrees, beq_iff_eq]
          | true =>
            rw [passes disconnects]
            cases assoc : call.staging.assoc with
            | false =>
              have ends := (@agrees_activate st call.ctx _ call.image agrees).trans
                (disconnected_eq_iff assoc disconnects (st.firmware call.ctx))
              cases (call.panActive && !(call.reply .panParams).passed) <;> exact ends
            | true =>
              have differ := disconnected_ne assoc disconnects (st.firmware call.ctx)
              cases call.panActive with
              | false => exact rxonConnect_spec agrees differ
              | true =>
                cases (call.reply .panParams).passed with
                | true => exact rxonConnect_spec agrees differ
                | false =>
                  exact iff_of_false (fun same => differ ((agrees_activate agrees).mp same)) Bool.false_ne_true

/-! ### Runs -/

/-- One call. -/
def commitStep (st : RxonState) (call : CommitCall) : Option RxonState := some (iwlagnCommitRxon call st).2

/-- **When what is active is what the firmware holds**, whenever a call returns: the calls all keep it. -/
theorem rxonAgreement_iff (start : RxonState) (calls : List CommitCall) (agrees : Agrees start) :
    Machine.Always commitStep Agrees start calls ↔
      Machine.allowed commitStep (fun st call => call.keeps st) start calls = true := by
  refine Machine.always_iff_allowed Agrees ?_ (fun _ agrees => agrees) ?_ (fun _ _ => ⟨_, rfl⟩) agrees
  · intro st call next agrees keeps stepped
    rw [← Option.some.inj stepped]
    exact (commit_agrees_iff call agrees).mpr keeps
  · intro st call next agrees loses stepped
    rw [← Option.some.inj stepped, commit_agrees_iff call agrees, loses]
    exact Bool.false_ne_true

/-- Nothing was sent yet. -/
def RxonState.zero : RxonState := ⟨fun _ => .zero, fun _ => .zero⟩

/-- A call that associates BSS on channel 6. -/
def associate (reply : CommitCommand → Reply) : CommitCall where
  ctx := .bss
  staging := { RxonCmd.zero with channel := 6, flags := rxonFlgBand24gMsk, filterFlags := rxonFilterAssocMsk }
  vif := some ⟨true, [0, 1]⟩
  isActive := true
  alive := true
  useRtsForAggregation := true
  swcrypto := false
  panActive := false
  reply := reply

/-- A call whose commands succeed, and one that changes nothing. -/
theorem rxonAgreement_associated :
    Machine.Always commitStep Agrees .zero [associate fun _ => .ok, associate fun _ => .ok] :=
  (rxonAgreement_iff .zero [associate fun _ => .ok, associate fun _ => .ok] rfl).mpr (by decide +kernel)

/-- The timing command is not sent. -/
def withoutTiming (command : CommitCommand) : Reply := if command = .connectTiming then .refused else .ok

/-- **An association the firmware does not have**: the timing command fails, and the next call, which sends
nothing, succeeds. -/
theorem rxonAgreement_broken : ∃ st st', iwlagnCommitRxon (associate withoutTiming) .zero =
      (.failed .connectTiming, st) ∧ ¬ Agrees st ∧
    iwlagnCommitRxon (associate fun _ => .ok) st = (.done, st') ∧
    (st'.active .bss).assoc = true ∧ (st'.firmware .bss).assoc = false := by
  refine ⟨_, _, rfl, ?_, rfl, by decide +kernel, by decide +kernel⟩
  intro same
  have flag := congrArg RxonCmd.assoc (congrFun same .bss)
  revert flag
  decide +kernel

/-! ### RXON_ASSOC alone -/

/-- `struct iwl_rxon_assoc_cmd`, but for what is reserved. -/
structure RxonAssocCmd where
  flags : UInt32
  filterFlags : UInt32
  ofdmBasicRates : UInt8
  cckBasicRates : UInt8
  ofdmHtSingleStreamBasicRates : UInt8
  ofdmHtDualStreamBasicRates : UInt8
  ofdmHtTripleStreamBasicRates : UInt8
  rxChainSelectFlags : UInt16
  acquisitionData : UInt16
  deriving DecidableEq

/-- The command that `iwlagn_send_rxon_assoc` fills in. -/
def RxonCmd.rxonAssoc (staging : RxonCmd) : RxonAssocCmd where
  flags := staging.flags
  filterFlags := staging.filterFlags
  ofdmBasicRates := staging.ofdmBasicRates
  cckBasicRates := staging.cckBasicRates
  ofdmHtSingleStreamBasicRates := staging.ofdmHtSingleStreamBasicRates
  ofdmHtDualStreamBasicRates := staging.ofdmHtDualStreamBasicRates
  rxChainSelectFlags := staging.rxChain
  ofdmHtTripleStreamBasicRates := staging.ofdmHtTripleStreamBasicRates
  acquisitionData := staging.acquisitionData

/-- The firmware's image after it: just the fields that the command carries are overwritten. -/
def RxonAssocCmd.applyTo (cmd : RxonAssocCmd) (held : RxonCmd) : RxonCmd :=
  { held with
    flags := cmd.flags
    filterFlags := cmd.filterFlags
    ofdmBasicRates := cmd.ofdmBasicRates
    cckBasicRates := cmd.cckBasicRates
    ofdmHtSingleStreamBasicRates := cmd.ofdmHtSingleStreamBasicRates
    ofdmHtDualStreamBasicRates := cmd.ofdmHtDualStreamBasicRates
    ofdmHtTripleStreamBasicRates := cmd.ofdmHtTripleStreamBasicRates
    rxChain := cmd.rxChainSelectFlags
    acquisitionData := cmd.acquisitionData }

/-- `iwlagn_send_rxon_assoc` on any two images: whether it returns 0, and what the firmware then holds. -/
def sendRxonAssoc (reply : Reply) (staging active held : RxonCmd) : Bool × RxonCmd :=
  if sameRxonAssoc staging active then (true, held)
  else if reply.passed then (true, staging.rxonAssoc.applyTo held)
  else (false, held)

/-- The commit's call is one on the image it has prepared. -/
theorem sendRxonAssoc_eq (call : CommitCall) (st : RxonState) :
    ((iwlagnSendRxonAssoc call st).1.isNone, (iwlagnSendRxonAssoc call st).2.firmware call.ctx) =
      sendRxonAssoc (call.reply .rxonAssoc) call.prepared (st.active call.ctx) (st.firmware call.ctx) := by
  unfold iwlagnSendRxonAssoc sendRxonAssoc
  cases sameRxonAssoc call.prepared (st.active call.ctx) with
  | true => rfl
  | false =>
    cases (call.reply .rxonAssoc).passed with
    | false => rfl
    | true =>
      show (true, (st.hold call.ctx _).firmware call.ctx) = _
      rw [hold_firmware]
      rfl

/-- **The fast path**: where `iwl_full_rxon_required` finds nothing that only a full RXON can set, a call of
`iwlagn_send_rxon_assoc` that returns 0 leaves the firmware with what is staged. -/
theorem rxonAssoc_programs (reply : Reply) (staging active held : RxonCmd)
    (enough : iwlFullRxonRequired staging active = false) (agrees : held = active)
    (returns : (sendRxonAssoc reply staging active held).1 = true) :
    (sendRxonAssoc reply staging active held).2 = staging := by
  unfold sendRxonAssoc at returns ⊢
  by_cases same : sameRxonAssoc staging active = true
  · rw [if_pos same, agrees]
    exact (sameRxonAssoc_eq enough same).symm
  · rw [if_neg same] at returns ⊢
    by_cases passed : reply.passed = true
    · rw [if_pos passed, agrees]
      exact takeAssoc_eq enough
    · rw [if_neg passed] at returns
      exact absurd returns Bool.false_ne_true

/-- An associated image, and the same with other flags, rates and antennas. -/
def onChannel6 : RxonCmd :=
  { RxonCmd.zero with channel := 6, flags := rxonFlgBand24gMsk, filterFlags := rxonFilterAssocMsk }

def withProtection : RxonCmd :=
  { onChannel6 with flags := rxonFlgBand24gMsk ||| rxonFlgTggProtectMsk, cckBasicRates := 0xF, rxChain := 0x1406 }

theorem rxonAssoc_programs_protection : (sendRxonAssoc .ok withProtection onChannel6 onChannel6).2 = withProtection :=
  rxonAssoc_programs .ok withProtection onChannel6 onChannel6 (by decide +kernel) rfl (by decide +kernel)

end IntelWifi.Dvm.Rxon
