/-
**Adding a station again.**

`iwl_add_station_common` refuses with `-EINVAL` when the table is full and with `-EEXIST` when the station
is there or is being added; then nothing is changed. It marks the entry as being added before it sends
the command, and clears the mark when the command fails. When the command passes, the mark stays for the caller
to clear: `iwlagn_add_bssid_station` does so in its link quality command, whatever comes of that, but not
when the command cannot be allocated.

* `retryable_iff`: the calls after whose error the same call can succeed.
-/

import IntelWifi.Dvm.Stations

namespace IntelWifi.Dvm

/-- A call that adds a station, with the answer of the device; `lqRoom` as in
`iwlagnAddBssidStation`. -/
inductive AddCall where
  | common (ctx : CtxId) (addr : EthAddr) (isAp : Bool) (answer : StaAnswer)
  | bssid (ctx : CtxId) (addr : EthAddr) (answer : StaAnswer) (lqRoom : Bool)

/-- What the call returns and leaves. -/
def AddCall.run (priv : IwlPriv) : AddCall → Option StaError × IwlPriv
  | .common ctx addr isAp answer =>
    let (error, _, priv) := iwlAddStationCommon priv ctx addr isAp answer
    (error, priv)
  | .bssid ctx addr answer lqRoom => iwlagnAddBssidStation priv ctx addr answer lqRoom

/-- The entry the call is about. -/
def AddCall.target (priv : IwlPriv) : AddCall → Option StaId
  | .common ctx addr isAp _ => choosesSta priv ctx addr isAp
  | .bssid ctx addr _ _ => choosesSta priv ctx addr false

/-- The same call, when the device accepts the station and there is memory. -/
def AddCall.accepted : AddCall → AddCall
  | .common ctx addr isAp _ => .common ctx addr isAp (.status staSuccessMsk)
  | .bssid ctx addr _ _ => .bssid ctx addr (.status staSuccessMsk) true

/-- The call is refused before anything is sent. -/
def StaError.refuses : StaError → Bool
  | .einval | .eexist => true
  | .eio | .enomem | .enoent | .enospc | .command => false

/-- **An error leaves the call to be made again**: a refusal changes nothing, and behind any other error the entry
is not being added, and the same call succeeds when it is accepted. -/
structure Retryable (priv : IwlPriv) (call : AddCall) : Prop where
  refused : ∀ error, (call.run priv).1 = some error → error.refuses = true → (call.run priv).2 = priv
  ended : ∀ error, (call.run priv).1 = some error → error.refuses = false →
    ∀ id, call.target priv = some id → ((call.run priv).2.stations id).used.ucodeInprogress = false
  again : ∀ error, (call.run priv).1 = some error → error.refuses = false →
    (call.accepted.run (call.run priv).2).1 = none

/-- There is memory for the link quality command, or it is not asked for: the call is refused, or the device
does not take the station. -/
def AddCall.findsLq (priv : IwlPriv) : AddCall → Prop
  | .common _ _ _ _ => True
  | .bssid ctx addr answer lqRoom => lqRoom = true ∨ answer.passed = false ∨
    ∀ id, choosesSta priv ctx addr false = some id → alreadyThere priv id addr = true

/-! ### The entry is found again -/

section Again

variable {priv priv' : IwlPriv} {addr : EthAddr} {id : StaId}

/-- The scan ends at the same entry, now that it has the address. -/
theorem scanStations_again (here : (priv'.stations id).addr = addr)
    (others : ∀ other, other ≠ id → (priv'.stations other).addr = (priv.stations other).addr)
    (ids : List StaId) {found : Option StaId} (chosen : scanStations priv addr ids found = some id)
    (fresh : found ≠ some id) (found' : Option StaId) : scanStations priv' addr ids found' = some id := by
  induction ids generalizing found found' with
  | nil => exact absurd chosen fresh
  | cons i later ih =>
    unfold scanStations at chosen ⊢
    by_cases same : i = id
    · rw [same, if_pos here]
    · rw [others i same]
      by_cases match_ : (priv.stations i).addr = addr
      · rw [if_pos match_] at chosen
        exact absurd (Option.some.inj chosen) same
      · rw [if_neg match_] at chosen ⊢
        refine ih chosen ?_ _
        split
        · exact fun first => same (Option.some.inj first)
        · exact fresh

theorem choosesSta_again {ctx : CtxId} {isAp : Bool} (chosen : choosesSta priv ctx addr isAp = some id)
    (here : (priv'.stations id).addr = addr)
    (others : ∀ other, other ≠ id → (priv'.stations other).addr = (priv.stations other).addr) :
    choosesSta priv' ctx addr isAp = some id := by
  unfold choosesSta at chosen ⊢
  split at chosen
  · next ap => rwa [if_pos ap]
  · next ap =>
    rw [if_neg ap]
    split at chosen
    · next bcast => rwa [if_pos bcast]
    · next bcast =>
      rw [if_neg bcast]
      exact scanStations_again here others scanIds chosen (nomatch ·) none

end Again

/-! ### The calls -/

/-- The table after a station was prepared and not taken. -/
def notTaken (priv : IwlPriv) (ctx : CtxId) (addr : EthAddr) (id : StaId) : IwlPriv :=
  (prepareEntry priv ctx addr id).setUsed id .zero

section Calls

variable {priv : IwlPriv} {ctx : CtxId} {addr : EthAddr} {isAp : Bool} {id : StaId}

/-- A station that was not taken is added when it is accepted. -/
theorem common_again (chosen : choosesSta priv ctx addr isAp = some id) :
    ∃ after, iwlAddStationCommon (notTaken priv ctx addr id) ctx addr isAp (.status staSuccessMsk) =
      (none, id, after) := by
  have entry : (notTaken priv ctx addr id).stations id = ⟨addr, id, .zero, ctx, (priv.stations id).lq⟩ := by
    unfold notTaken
    rw [setUsed_same, prepareEntry_same]
  have again : choosesSta (notTaken priv ctx addr id) ctx addr isAp = some id :=
    choosesSta_again chosen (by rw [entry]) fun other apart => by
      unfold notTaken prepareEntry
      rw [setUsed_other apart, setEntry_other apart]
  have absent : alreadyThere (notTaken priv ctx addr id) id addr = false := by
    unfold alreadyThere
    rw [entry]
    rfl
  rw [addStationCommon_eq, again]
  dsimp only
  rw [absent]
  exact ⟨_, rfl⟩

theorem failed_of_error {answer : StaAnswer} {error : StaError} (failed : answer.error = some error) :
    answer.passed = false ∧ error.refuses = false := by
  cases answer with
  | failed =>
    cases failed
    exact ⟨rfl, rfl⟩
  | status code =>
    unfold StaAnswer.error at failed
    dsimp only at failed
    split at failed
    · cases failed
    · next other =>
      cases failed
      exact ⟨Bool.eq_false_of_not_eq_true other, rfl⟩

/-- The three ways of `iwl_add_station_common`: it refuses, the command fails, or the station is taken and stays in
progress. -/
theorem common_cases (priv : IwlPriv) (ctx : CtxId) (addr : EthAddr) (isAp : Bool) (answer : StaAnswer) :
    (∃ error staId, error.refuses = true ∧
      iwlAddStationCommon priv ctx addr isAp answer = (some error, staId, priv) ∧
      ∀ id, choosesSta priv ctx addr isAp = some id → alreadyThere priv id addr = true) ∨
    (∃ error id, error.refuses = false ∧ choosesSta priv ctx addr isAp = some id ∧
      iwlAddStationCommon priv ctx addr isAp answer = (some error, id, notTaken priv ctx addr id) ∧
      answer.passed = false) ∨
    ∃ id after, choosesSta priv ctx addr isAp = some id ∧ alreadyThere priv id addr = false ∧
      iwlAddStationCommon priv ctx addr isAp answer = (none, id, after) ∧ answer.passed = true ∧
      (after.stations id).used.ucodeInprogress = true := by
  rw [addStationCommon_eq]
  cases chosen : choosesSta priv ctx addr isAp with
  | none => exact .inl ⟨.einval, _, rfl, rfl, fun id none => (nomatch none)⟩
  | some id =>
    dsimp only
    cases there : alreadyThere priv id addr with
    | true => exact .inl ⟨.eexist, _, rfl, rfl, fun other same => Option.some.inj same ▸ there⟩
    | false =>
      cases failed : answer.error with
      | some error =>
        obtain ⟨fails, sent⟩ := failed_of_error failed
        refine .inr (.inl ⟨error, id, sent, rfl, ?_, fails⟩)
        unfold notTaken addedUsed
        rw [fails]
        rfl
      | none =>
        have passed := answer.error_none_iff.mp failed
        refine .inr (.inr ⟨id, _, rfl, there, rfl, passed, ?_⟩)
        rw [setUsed_same]
        unfold addedUsed
        rw [passed]
        rfl

theorem notTaken_over (priv : IwlPriv) (ctx : CtxId) (addr : EthAddr) (id : StaId) :
    ((notTaken priv ctx addr id).stations id).used.ucodeInprogress = false := by
  unfold notTaken
  rw [setUsed_same]
  rfl

/-- A call that refuses, and one whose station was not taken. -/
theorem Retryable.of_refused {call : AddCall} {error : StaError} (refuses : error.refuses = true)
    (ran : call.run priv = (some error, priv)) : Retryable priv call := by
  constructor
  · intro _ _ _
    rw [ran]
  all_goals
    intro other failed sent
    rw [ran] at failed
    cases failed
    cases refuses.symm.trans sent

theorem Retryable.of_notTaken {call : AddCall} {error : StaError} (sent : error.refuses = false)
    (target : call.target priv = some id) (ran : call.run priv = (some error, notTaken priv ctx addr id))
    (again : (call.accepted.run (notTaken priv ctx addr id)).1 = none) : Retryable priv call := by
  constructor
  · intro other failed refuses
    rw [ran] at failed
    cases failed
    cases sent.symm.trans refuses
  · intro _ _ _ other same
    rw [target] at same
    cases same
    rw [ran]
    exact notTaken_over priv ctx addr id
  · intro _ _ _
    rw [ran]
    exact again

theorem Retryable.of_taken {call : AddCall} (taken : (call.run priv).1 = none) : Retryable priv call := by
  constructor
  all_goals
    intro error failed
    cases taken.symm.trans failed

end Calls

theorem common_retryable (priv : IwlPriv) (ctx : CtxId) (addr : EthAddr) (isAp : Bool) (answer : StaAnswer) :
    Retryable priv (.common ctx addr isAp answer) := by
  rcases common_cases priv ctx addr isAp answer with
    ⟨error, staId, refuses, ran, _⟩ | ⟨error, id, sent, chosen, ran, _⟩ | ⟨id, after, _, _, ran, _⟩
  · refine .of_refused refuses ?_
    unfold AddCall.run
    dsimp only
    rw [ran]
  · have call : AddCall.run priv (.common ctx addr isAp answer) = (some error, notTaken priv ctx addr id) := by
      unfold AddCall.run
      dsimp only
      rw [ran]
    refine .of_notTaken sent chosen call ?_
    obtain ⟨after, again⟩ := common_again chosen
    unfold AddCall.accepted AddCall.run
    dsimp only
    rw [again]
  · refine .of_taken ?_
    unfold AddCall.run
    dsimp only
    rw [ran]

/-- **Which calls can be made again**: all but those of `iwlagn_add_bssid_station` for a station that the device takes
and for which there is no link quality command; it then stays in progress. -/
theorem retryable_iff (priv : IwlPriv) (call : AddCall) : Retryable priv call ↔ call.findsLq priv := by
  cases call with
  | common ctx addr isAp answer => exact iff_of_true (common_retryable priv ctx addr isAp answer) trivial
  | bssid ctx addr answer lqRoom =>
    rcases common_cases priv ctx addr false answer with
      ⟨error, staId, refuses, ran, there⟩ | ⟨error, id, sent, chosen, ran, failed⟩ |
        ⟨id, after, chosen, absent, ran, passed, progress⟩
    · refine iff_of_true (.of_refused refuses ?_) (.inr (.inr there))
      unfold AddCall.run iwlagnAddBssidStation
      dsimp only
      rw [ran]
    · have call : AddCall.run priv (.bssid ctx addr answer lqRoom) =
          (some error, notTaken priv ctx addr id) := by
        unfold AddCall.run iwlagnAddBssidStation
        dsimp only
        rw [ran]
      refine iff_of_true (.of_notTaken sent chosen call ?_) (.inr (.inl failed))
      obtain ⟨after, again⟩ := common_again chosen
      unfold AddCall.accepted AddCall.run iwlagnAddBssidStation
      dsimp only
      rw [again]
      rfl
    · unfold AddCall.findsLq
      cases lqRoom with
      | true =>
        refine iff_of_true (.of_taken ?_) (.inl rfl)
        unfold AddCall.run iwlagnAddBssidStation
        dsimp only
        rw [ran]
        rfl
      | false =>
        have call : AddCall.run priv (.bssid ctx addr answer false) =
            (some .enomem, after.setUsed id { (after.stations id).used with isLocal := true }) := by
          unfold AddCall.run iwlagnAddBssidStation
          dsimp only
          rw [ran]
          rfl
        refine iff_of_false (fun retryable => ?_) ?_
        · have ended := retryable.ended .enomem (by rw [call]) rfl id chosen
          rw [call, setUsed_same] at ended
          cases progress.symm.trans ended
        · rintro (no | failed | there)
          · cases no
          · cases passed.symm.trans failed
          · cases absent.symm.trans (there id chosen)

theorem someBssid_size : (#[2, 0, 0, 0, 0, 1] : Array UInt8).size = 6 := rfl

/-- An address of no station. -/
def someBssid : EthAddr := ⟨#[2, 0, 0, 0, 0, 1], someBssid_size⟩

/-- The device takes the first BSSID station of an empty table, and there is no memory for its link quality
command: it stays in progress. -/
theorem bssidWithoutLq_stays :
    ¬ Retryable .empty (.bssid .bss someBssid (.status staSuccessMsk) false) := by
  intro retryable
  have ended := retryable.ended .enomem (by decide) rfl ⟨2, by decide⟩ (by decide)
  revert ended
  decide

end IntelWifi.Dvm
