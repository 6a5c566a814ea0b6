/-
**Which scan a completion completes.**

Every scan that `iwl_scan_initiate` starts is somewhere: in `STATUS_SCANNING`, with the thread that has taken
the bit and will report it, or among the reports. In the runs where a scan starts only after the earlier one
is left behind, it is in one of these places once.

* `tokens`: how often a scan is somewhere.
* `turn_attributes`: what a step of a thread keeps.
* `scanAttribution`: every accepted scan is reported once, with its own completion and its own abort.
-/

import IntelWifi.Dvm.Scan

namespace IntelWifi.Dvm.Scan

/-! ### Where a scan is -/

/-- The scan that a thread has taken from `STATUS_SCANNING`, and will report. -/
def pending : Phase → Option Nat
  | .initiate _ _ old _ => old.map Completion.scan
  | .ending .scanning _ _ => none
  | .ending _ _ scan => some scan
  | .decide completion | .report completion _ => some completion.scan
  | _ => none

/-- One, if a place has the scan. -/
def held (place : Option Nat) (scan : Nat) : Nat := if place = some scan then 1 else 0

theorem held_some (own scan : Nat) : held (some own) scan = if scan = own then 1 else 0 := by
  unfold held
  by_cases same : scan = own
  · rw [if_pos same, if_pos (congrArg some same.symm)]
  · rw [if_neg same, if_neg fun is => same (Option.some.inj is).symm]

/-- How often a scan was reported. -/
def reported (s : Shared) (scan : Nat) : Nat := s.reports.countP fun report => report.scan = scan

theorem countP_report (report : Report) (reports : List Report) (scan : Nat) :
    (report :: reports).countP (fun report => report.scan = scan) =
      reports.countP (fun report => report.scan = scan) + held (some report.scan) scan := by
  rw [List.countP_cons]
  unfold held
  simp only [Option.some.injEq, decide_eq_true_eq]

/-- The scan that `STATUS_SCANNING` stands for. -/
def Shared.running (s : Shared) : Option Nat := if s.scanning then some s.current else none

/-- **How often a scan is somewhere**, with two threads. -/
def tokens (s : Shared) (phase others : Phase) (scan : Nat) : Nat :=
  held s.running scan + held (pending phase) scan + held (pending others) scan + reported s scan

/-- `iwl_scan_initiate` has set `STATUS_SCANNING` and goes on with its scan. -/
def Phase.midway : Phase → Bool
  | .initiate pc _ _ _ =>
    match pc with
    | .setType | .prepare | .setHw | .panParams | .sendScan | .sendClear => true
    | _ => false
  | _ => false

/-- Or it is about to clear the bits again. -/
def Phase.starting : Phase → Bool
  | .initiate pc _ _ _ =>
    match pc with
    | .setType | .prepare | .setHw | .panParams | .panClear | .sendScan | .sendClear | .clearScanning => true
    | _ => false
  | _ => false

/-- The thread does nothing more to an earlier scan that a new one would take for its own. -/
def Phase.leaves : Phase → Bool
  | .abortSend _ | .abortReply _ | .notifComplete _ | .notifHw _ | .takeAborting _ | .takeScanning _ _ => false
  | .endTest target => target.isNone
  | .ending pc _ _ => pc == .report
  | phase => !phase.starting

/-- **When a step keeps the scans apart.** A notification comes for the scan that started last; a scan starts
when the bits of the earlier one are clear and the other thread has left it; and a forced end finds
`STATUS_SCANNING` still set. -/
def keepsAttribution (st : ScanState) : ScanAct → Bool
  | .notify scan => scan == st.shared.current
  | .move who _ =>
    match st.phase who with
    | .initiate .setScanning _ _ _ =>
      !st.shared.scanning && !st.shared.complete && !st.shared.aborting && (st.phase who.other).leaves
    | .ending .scanning _ _ => st.shared.scanning
    | _ => true
  | _ => true

/-- A completion and an abort of the scan itself. -/
def Completion.Own (completion : Completion) : Prop :=
  completion.source = completion.scan ∧ ∀ flag, completion.flag = some flag → flag = completion.scan

def Report.Own (report : Report) : Prop :=
  (∀ source, report.source = some source → source = report.scan) ∧
    ∀ flag, report.flag = some flag → flag = report.scan

/-- **Whose scan is whose**: each accepted scan is reported once at most; once no operation is executing, it is
reported once, or it is the last one and still goes on; and it is reported for its own completion and its
own abort. -/
structure Attributed (st : ScanState) : Prop where
  once : ∀ scan ∈ st.shared.accepted, reported st.shared scan ≤ 1
  ended : st.Quiet → ∀ scan ∈ st.shared.accepted, reported st.shared scan = 1 ∨
    scan = st.shared.current ∧ st.shared.scanning = true ∧ st.shared.hw = true
  own : ∀ report ∈ st.shared.reports, report.Own

/-! ### The invariant -/

/-- What a thread holds belongs to the last scan, or to one that it has taken. -/
def Belongs (current : Nat) (phase : Phase) : Prop :=
  match phase with
  | .initiate _ _ old own => (∀ completion, old = some completion → completion.Own ∧ completion.scan ≤ current) ∧
      (phase.starting = true → own = current)
  | .abortSend target | .abortReply target => target = current
  | .endTest target => ∀ scan, target = some scan → scan = current
  | .ending pc target scan => (∀ aborted, target = some aborted → aborted = scan) ∧ scan ≤ current ∧
      (pc ≠ .report → scan = current)
  | .notifComplete scan | .notifHw scan => scan = current
  | .takeAborting source => source = current
  | .takeScanning source flag => source = current ∧ ∀ scan, flag = some scan → scan = current
  | .decide completion | .report completion _ => completion.Own ∧ completion.scan ≤ current
  | _ => True

/-- **The invariant**, of the bits and two threads. -/
structure Attributes (s : Shared) (phase others : Phase) : Prop where
  belongs : Belongs s.current phase ∧ Belongs s.current others
  completeOf : s.complete = true → s.completeOf = s.current
  abortOf : s.aborting = true → s.abortOf = s.current
  alone : ¬ (phase.starting = true ∧ others.starting = true)
  unaccepted : phase.starting = true ∨ others.starting = true → s.current ∉ s.accepted
  known : ∀ scan ∈ s.accepted, scan ≤ s.current
  fresh : ∀ scan, s.current < scan → tokens s phase others scan = 0
  counted : ∀ scan, scan ∈ s.accepted ∨ scan = s.current ∧ (phase.midway = true ∨ others.midway = true) →
    tokens s phase others scan = 1
  own : ∀ report ∈ s.reports, report.Own

section Threads

variable {s s' : Shared} {ok : Bool} {phase phase' others : Phase}

theorem starting_of_midway (midway : phase.midway = true) : phase.starting = true := by
  cases phase with
  | initiate pc => cases pc <;> first | rfl | exact Bool.noConfusion midway
  | _ => cases midway

theorem tokens_swap (scan : Nat) : tokens s phase others scan = tokens s others phase scan := by
  unfold tokens
  omega

theorem Attributes.symm (inv : Attributes s phase others) : Attributes s others phase where
  belongs := inv.belongs.symm
  completeOf := inv.completeOf
  abortOf := inv.abortOf
  alone := fun both => inv.alone both.symm
  unaccepted := fun either => inv.unaccepted either.symm
  known := inv.known
  fresh := fun scan past => (tokens_swap scan).trans (inv.fresh scan past)
  counted := fun scan some => (tokens_swap scan).trans
    (inv.counted scan (some.imp_right fun last => ⟨last.1, last.2.symm⟩))
  own := inv.own

/-- **A step that moves no scan**, nor starts one. -/
theorem Attributes.passes (inv : Attributes s phase others) (current : s'.current = s.current)
    (accepted : s'.accepted = s.accepted) (tokens : ∀ scan, tokens s' phase' others scan = tokens s phase others scan)
    (belongs : Belongs s.current phase') (starting : phase'.starting = true → phase.starting = true)
    (midway : phase'.midway = true → phase.midway = true)
    (completeOf : s'.complete = true → s'.completeOf = s.current)
    (abortOf : s'.aborting = true → s'.abortOf = s.current)
    (own : ∀ report ∈ s'.reports, report.Own) : Attributes s' phase' others where
  belongs := by rw [current]; exact ⟨belongs, inv.belongs.2⟩
  completeOf := by rw [current]; exact completeOf
  abortOf := by rw [current]; exact abortOf
  alone := fun both => inv.alone ⟨starting both.1, both.2⟩
  unaccepted := by
    rw [current, accepted]
    exact fun either => inv.unaccepted (either.imp_left starting)
  known := by rw [current, accepted]; exact inv.known
  fresh := by
    rw [current]
    exact fun scan past => (tokens scan).trans (inv.fresh scan past)
  counted := by
    rw [current, accepted]
    exact fun scan some => (tokens scan).trans
      (inv.counted scan (some.imp_right fun last => ⟨last.1, last.2.imp_left midway⟩))
  own := own

/-- **A step that leaves the bits alone.** -/
theorem Attributes.walks (inv : Attributes s phase others) (pending : pending phase' = pending phase)
    (belongs : Belongs s.current phase') (starting : phase'.starting = true → phase.starting = true)
    (midway : phase'.midway = true → phase.midway = true) : Attributes s phase' others := by
  refine inv.passes rfl rfl (fun scan => ?_) belongs starting midway inv.completeOf inv.abortOf inv.own
  unfold tokens
  rw [pending]

/-- A later scan is none of the thread's business. -/
theorem Belongs.later {current : Nat} (belongs : Belongs current phase) (leaves : phase.leaves = true) :
    Belongs (current + 1) phase := by
  cases phase with
  | initiate pc type old own =>
    refine ⟨fun completion is => ⟨(belongs.1 completion is).1, Nat.le_succ_of_le (belongs.1 completion is).2⟩, ?_⟩
    intro starting
    have apart : (!Phase.starting (.initiate pc type old own)) = true := leaves
    rw [starting] at apart
    cases apart
  | endTest target =>
    intro scan is
    rw [is] at leaves
    cases leaves
  | ending pc target scan =>
    cases pc with
    | report => exact ⟨belongs.1, Nat.le_succ_of_le belongs.2.1, fun apart => absurd rfl apart⟩
    | _ => cases leaves
  | decide completion => exact ⟨belongs.1, Nat.le_succ_of_le belongs.2⟩
  | report completion aborted => exact ⟨belongs.1, Nat.le_succ_of_le belongs.2⟩
  | abortSend | abortReply | notifComplete | notifHw | takeAborting | takeScanning => cases leaves
  | _ => trivial

theorem not_starting_of_leaves (leaves : phase.leaves = true) : phase.starting = false := by
  cases phase with
  | initiate pc type old own =>
    have apart : (!Phase.starting (.initiate pc type old own)) = true := leaves
    rwa [Bool.not_eq_true'] at apart
  | _ => rfl

/-- **A scan starts.** -/
theorem Attributes.starts (inv : Attributes s phase others) {type : ScanType} {old : Option Completion}
    {own : Nat} (here : phase = .initiate .setScanning type old own) (scanning : s.scanning = false)
    (complete : s.complete = false) (aborting : s.aborting = false) (leaves : others.leaves = true) :
    Attributes { s with scanning := true, current := s.current + 1 }
      (.initiate .setType type old (s.current + 1)) others := by
  subst here
  have alone : others.starting = false := not_starting_of_leaves leaves
  -- The new scan is where `STATUS_SCANNING` is, and the others are where they were.
  have moved (scan : Nat) : tokens { s with scanning := true, current := s.current + 1 }
        (.initiate .setType type old (s.current + 1)) others scan =
      tokens s (.initiate .setScanning type old own) others scan + if scan = s.current + 1 then 1 else 0 := by
    have clear : s.running = none := by
      unfold Shared.running
      rw [scanning]
      rfl
    unfold tokens
    rw [clear]
    show held (some (s.current + 1)) scan + held (old.map Completion.scan) scan + held (pending others) scan +
      reported s scan = 0 + held (old.map Completion.scan) scan + held (pending others) scan + reported s scan + _
    rw [held_some]
    omega
  constructor
  · exact ⟨⟨fun completion is => ⟨(inv.belongs.1.1 completion is).1, Nat.le_succ_of_le (inv.belongs.1.1 completion is).2⟩,
      fun _ => rfl⟩, inv.belongs.2.later leaves⟩
  · intro set
    rw [show s.complete = true from set] at complete
    cases complete
  · intro set
    rw [show s.aborting = true from set] at aborting
    cases aborting
  · rintro ⟨_, both⟩
    rw [alone] at both
    cases both
  · exact fun _ member => absurd (inv.known _ member) (Nat.not_succ_le_self _)
  · exact fun scan member => Nat.le_succ_of_le (inv.known scan member)
  · intro scan past
    have before := inv.fresh scan (Nat.lt_of_succ_lt past)
    rw [moved, before, if_neg (Nat.ne_of_gt past)]
  · rintro scan (member | ⟨rfl, _⟩)
    · rw [moved, inv.counted scan (.inl member), if_neg (by have := inv.known scan member; omega)]
    · rw [moved, inv.fresh _ (Nat.lt_succ_self _), if_pos rfl]
  · exact inv.own

/-- **A scan is accepted**, and the one that it replaces is reported. -/
theorem Attributes.accepts (inv : Attributes s phase others) {pc : InitPc} {type : ScanType}
    {old : Option Completion} {own : Nat} (here : phase = .initiate pc type old own)
    (midway : phase.midway = true) (current : s'.current = s.current) (scanning : s'.scanning = s.scanning)
    (accepted : s'.accepted = s.accepted) (reports : s'.reports = s.reports)
    (completeOf : s'.complete = true → s'.completeOf = s.current)
    (abortOf : s'.aborting = true → s'.abortOf = s.current) : Attributes (accepts s' own old) .idle others := by
  subst here
  have starting := starting_of_midway midway
  obtain rfl : own = s.current := inv.belongs.1.2 starting
  have alone : others.starting = false := Bool.eq_false_of_not_eq_true fun set => inv.alone ⟨starting, set⟩
  have same : (Scan.accepts s' s.current old).current = s.current ∧
      (Scan.accepts s' s.current old).accepted = s.current :: s.accepted ∧
      (∀ scan, tokens (Scan.accepts s' s.current old) .idle others scan =
        tokens s (.initiate pc type old s.current) others scan) ∧
      ((Scan.accepts s' s.current old).complete = true → (Scan.accepts s' s.current old).completeOf = s.current) ∧
      ((Scan.accepts s' s.current old).aborting = true → (Scan.accepts s' s.current old).abortOf = s.current) ∧
      ∀ report ∈ (Scan.accepts s' s.current old).reports, report.Own := by
    cases old with
    | none =>
      refine ⟨current, congrArg (s.current :: ·) accepted, fun scan => ?_, completeOf, abortOf, ?_⟩
      · unfold tokens Shared.running reported Scan.accepts
        rw [scanning, current, reports]
        rfl
      · show ∀ report ∈ s'.reports, report.Own
        rw [reports]
        exact inv.own
    | some completion =>
      obtain ⟨⟨source, flag⟩, _⟩ := inv.belongs.1.1 completion rfl
      refine ⟨current, congrArg (s.current :: ·) accepted, fun scan => ?_, completeOf, abortOf, ?_⟩
      · unfold tokens Shared.running reported Scan.accepts
        dsimp only
        rw [scanning, current, reports, countP_report]
        show _ + 0 + held (pending others) scan + (_ + held (some completion.scan) scan) =
          _ + held (some completion.scan) scan + _ + _
        omega
      · show ∀ report ∈ _ :: s'.reports, report.Own
        rw [reports]
        exact List.forall_mem_cons.mpr ⟨⟨fun _ is => Option.some.inj is ▸ source, flag⟩, inv.own⟩
  obtain ⟨current', accepted', tokens', completeOf', abortOf', own'⟩ := same
  constructor
  · rw [current']
    exact ⟨trivial, inv.belongs.2⟩
  · rw [current']
    exact completeOf'
  · rw [current']
    exact abortOf'
  · exact fun both => Bool.noConfusion both.1
  · rintro (set | set)
    · cases set
    · rw [alone] at set
      cases set
  · rw [current', accepted']
    exact List.forall_mem_cons.mpr ⟨Nat.le_refl _, inv.known⟩
  · rw [current']
    exact fun scan past => (tokens' scan).trans (inv.fresh scan past)
  · rw [current', accepted']
    rintro scan (member | ⟨rfl, _⟩)
    · rw [tokens']
      rcases List.mem_cons.mp member with rfl | member
      · exact inv.counted _ (.inr ⟨rfl, .inl midway⟩)
      · exact inv.counted scan (.inl member)
    · rw [tokens']
      exact inv.counted _ (.inr ⟨rfl, .inl midway⟩)
  · exact own'

/-- **A scan is taken from `STATUS_SCANNING`**, to be reported. -/
theorem Attributes.takes (inv : Attributes s phase others) (scanning : s.scanning = true)
    (none : pending phase = none) (taken : pending phase' = some s.current) (belongs : Belongs s.current phase')
    (starting : phase'.starting = false) : Attributes { s with scanning := false } phase' others := by
  refine inv.passes rfl rfl (fun scan => ?_) belongs (fun set => ?_) (fun set => ?_) inv.completeOf inv.abortOf inv.own
  · unfold tokens Shared.running
    rw [none, taken, scanning]
    show 0 + held (some s.current) scan + held (pending others) scan + reported s scan =
      held (some s.current) scan + 0 + held (pending others) scan + reported s scan
    omega
  · rw [starting] at set
    cases set
  · rw [starting_of_midway set] at starting
    cases starting

/-- **A scan is reported** by the thread that has it. -/
theorem Attributes.reports (inv : Attributes s phase others) {report : Report}
    (has : pending phase = some report.scan) (clear : pending phase' = none) (own : report.Own)
    (belongs : Belongs s.current phase') (starting : phase'.starting = false) :
    Attributes (completeScan s report) phase' others := by
  refine inv.passes rfl rfl (fun scan => ?_) belongs (fun set => ?_) (fun set => ?_) inv.completeOf inv.abortOf
    (List.forall_mem_cons.mpr ⟨own, inv.own⟩)
  · unfold tokens reported completeScan
    dsimp only
    rw [has, clear, countP_report]
    show held s.running scan + 0 + _ + (_ + _) = _
    omega
  · rw [starting] at set
    cases set
  · rw [starting_of_midway set] at starting
    cases starting

/-- **A scan is given up** before it was accepted. -/
theorem Attributes.givesUp (inv : Attributes s phase others) (starting : phase.starting = true)
    (same : pending phase' = pending phase) (belongs : Belongs s.current phase')
    (ended : phase'.starting = false) : Attributes { s with scanning := false } phase' others := by
  have unaccepted := inv.unaccepted (.inl starting)
  have fewer (scan : Nat) : tokens { s with scanning := false } phase' others scan + held s.running scan =
      tokens s phase others scan := by
    unfold tokens Shared.running
    rw [same]
    show 0 + held (pending phase) scan + held (pending others) scan + reported s scan + _ =
      _ + held (pending phase) scan + held (pending others) scan + reported s scan
    omega
  have alone : others.starting = false := Bool.eq_false_of_not_eq_true fun set => inv.alone ⟨starting, set⟩
  constructor
  · exact ⟨belongs, inv.belongs.2⟩
  · exact inv.completeOf
  · exact inv.abortOf
  · rintro ⟨set, _⟩
    rw [ended] at set
    cases set
  · exact fun _ => unaccepted
  · exact inv.known
  · intro scan past
    have before := inv.fresh scan past
    have split := fewer scan
    omega
  · rintro scan (member | ⟨rfl, set | set⟩)
    · have before := inv.counted scan (.inl member)
      have split := fewer scan
      have apart : held s.running scan = 0 := by
        unfold Shared.running held
        refine if_neg fun is => ?_
        cases on : s.scanning with
        | false => rw [on] at is; cases is
        | true =>
          rw [on] at is
          obtain rfl := Option.some.inj is
          exact unaccepted member
      omega
    · rw [starting_of_midway set] at ended
      cases ended
    · rw [starting_of_midway set] at alone
      cases alone
  · exact inv.own

end Threads

/-! ### Steps -/

section Turns

variable {s : Shared} {ok : Bool} {others : Phase}

/-- **A step of `iwl_scan_initiate`.** -/
theorem initTurn_attributes {type : ScanType} {old : Option Completion} {own : Nat} (pc : InitPc)
    (inv : Attributes s (.initiate pc type old own) others)
    (keeps : pc = .setScanning → s.scanning = false ∧ s.complete = false ∧ s.aborting = false ∧
      others.leaves = true) :
    Attributes (initTurn s ok type old own pc).1 (initTurn s ok type old own pc).2 others := by
  have replaced := inv.belongs.1.1
  have last := inv.belongs.1.2
  -- The call returns an error: the scan that it was to replace is reported.
  have refused : pending (refuses old) = pending (.initiate pc type old own) ∧ Belongs s.current (refuses old) ∧
      (refuses old).starting = false := by
    cases old with
    | none => exact ⟨rfl, trivial, rfl⟩
    | some completion => exact ⟨rfl, replaced completion rfl, rfl⟩
  have refuse : Attributes s (refuses old) others := by
    refine inv.walks refused.1 refused.2.1 (fun set => ?_) fun set => ?_
    · rw [refused.2.2] at set
      cases set
    · rw [starting_of_midway set] at refused
      cases refused.2.2
  -- The call goes on with its scan.
  have walk (pc' : InitPc) (starting : Phase.starting (.initiate pc' type old own) = true →
        Phase.starting (.initiate pc type old own) = true)
      (midway : Phase.midway (.initiate pc' type old own) = true →
        Phase.midway (.initiate pc type old own) = true) : Attributes s (.initiate pc' type old own) others :=
    inv.walks rfl ⟨replaced, fun set => last (starting set)⟩ starting midway
  cases pc with
  | ready =>
    cases ok with
    | false => exact refuse
    | true => exact walk _ id id
  | testHw =>
    dsimp only [initTurn]
    split
    · exact refuse
    · exact walk _ id id
  | testAborting =>
    dsimp only [initTurn]
    split
    · exact refuse
    · exact walk _ id id
  | setScanning =>
    obtain ⟨scanning, complete, aborting, leaves⟩ := keeps rfl
    exact inv.starts rfl scanning complete aborting leaves
  | setType =>
    exact inv.passes rfl rfl (fun _ => rfl) ⟨replaced, fun _ => last rfl⟩ id id inv.completeOf inv.abortOf inv.own
  | prepare =>
    cases ok with
    | false => exact walk .clearScanning id fun set => Bool.noConfusion set
    | true => exact walk .setHw id id
  | setHw =>
    exact inv.passes rfl rfl (fun _ => rfl) ⟨replaced, fun _ => last rfl⟩ id id inv.completeOf inv.abortOf inv.own
  | panParams =>
    cases ok with
    | false => exact walk .panClear id fun set => Bool.noConfusion set
    | true => exact walk .sendScan id id
  | panClear =>
    exact inv.passes rfl rfl (fun _ => rfl) ⟨replaced, fun _ => last rfl⟩ id (fun set => Bool.noConfusion set)
      inv.completeOf inv.abortOf inv.own
  | sendScan =>
    cases ok with
    | false => exact walk .sendClear id id
    | true => exact inv.accepts rfl rfl rfl rfl rfl rfl inv.completeOf inv.abortOf
  | sendClear => exact inv.accepts rfl rfl rfl rfl rfl rfl inv.completeOf inv.abortOf
  | clearScanning => exact inv.givesUp rfl rfl ⟨replaced, fun set => Bool.noConfusion set⟩ rfl
  | resetType =>
    exact refuse.passes rfl rfl (fun _ => rfl) refuse.belongs.1 id id inv.completeOf inv.abortOf inv.own

/-- **A step of `iwl_force_scan_end`.** -/
theorem endTurn_attributes {target : Option Nat} {scan : Nat} (pc : EndPc)
    (inv : Attributes s (.ending pc target scan) others)
    (keeps : pc = .scanning → s.scanning = true) :
    Attributes (endTurn s target scan pc).1 (endTurn s target scan pc).2 others := by
  obtain ⟨abort, known, last⟩ := inv.belongs.1
  cases pc with
  | scanning =>
    refine inv.takes (keeps rfl) rfl ?_ ⟨abort, known, fun _ => last (by decide)⟩ rfl
    rw [last (by decide)]
    rfl
  | hw =>
    exact inv.passes rfl rfl (fun _ => rfl) ⟨abort, known, fun _ => last (by decide)⟩ id id inv.completeOf
      inv.abortOf inv.own
  | aborting =>
    exact inv.passes rfl rfl (fun _ => rfl) ⟨abort, known, fun _ => last (by decide)⟩ id id inv.completeOf
      (fun set => Bool.noConfusion set) inv.own
  | complete =>
    exact inv.passes rfl rfl (fun _ => rfl) ⟨abort, known, fun apart => absurd rfl apart⟩ id id
      (fun set => Bool.noConfusion set) inv.abortOf inv.own
  | report =>
    have ended : pending (endsTo target) = none ∧ Belongs s.current (endsTo target) ∧
        (endsTo target).starting = false := by
      cases target <;> exact ⟨rfl, trivial, rfl⟩
    exact inv.reports rfl ended.1 ⟨fun _ is => (nomatch is), abort⟩ ended.2.1 ended.2.2

/-- **A step of a thread** that meets the condition. -/
theorem turn_attributes {phase : Phase} (inv : Attributes s phase others)
    (starts : ∀ type old own, phase = .initiate .setScanning type old own → s.scanning = false ∧
      s.complete = false ∧ s.aborting = false ∧ others.leaves = true)
    (ends : ∀ target scan, phase = .ending .scanning target scan → s.scanning = true) :
    Attributes (turn s ok phase).1 (turn s ok phase).2 others := by
  -- A step to a place that starts nothing, with the same scan.
  have walk {phase' : Phase} (same : pending phase' = pending phase) (belongs : Belongs s.current phase')
      (starting : phase'.starting = false) : Attributes s phase' others := by
    refine inv.walks same belongs (fun set => ?_) fun set => ?_
    · rw [starting] at set
      cases set
    · rw [starting_of_midway set] at starting
      cases starting
  cases phase with
  | idle => exact inv
  | initiate pc type old own => exact initTurn_attributes pc inv fun here => starts type old own (here ▸ rfl)
  | abortTest =>
    dsimp only [turn]
    split <;> exact walk rfl trivial rfl
  | abortSet =>
    dsimp only [turn]
    split
    · exact walk rfl trivial rfl
    · exact inv.passes rfl rfl (fun _ => rfl) rfl id id inv.completeOf (fun _ => rfl) inv.own
  | abortSend target =>
    have own : target = s.current := inv.belongs.1
    dsimp only [turn]
    split
    · exact walk rfl own rfl
    · exact walk rfl (fun _ is => Option.some.inj is ▸ own) rfl
  | abortReply target =>
    have own : target = s.current := inv.belongs.1
    dsimp only [turn]
    split
    · exact walk rfl trivial rfl
    · exact walk rfl (fun _ is => Option.some.inj is ▸ own) rfl
  | wait =>
    dsimp only [turn]
    split
    · exact walk rfl trivial rfl
    · split <;> exact walk rfl trivial rfl
  | endTest target =>
    have own : ∀ scan, target = some scan → scan = s.current := inv.belongs.1
    dsimp only [turn]
    split
    · exact walk rfl ⟨own, Nat.le_refl _, fun _ => rfl⟩ rfl
    · cases target <;> exact walk rfl trivial rfl
  | ending pc target scan => exact endTurn_attributes pc inv fun here => ends target scan (here ▸ rfl)
  | notifComplete scan =>
    have own : scan = s.current := inv.belongs.1
    exact inv.passes rfl rfl (fun _ => rfl) own id id (fun _ => own) inv.abortOf inv.own
  | notifHw scan =>
    exact inv.passes rfl rfl (fun _ => rfl) trivial id id inv.completeOf inv.abortOf inv.own
  | notifAction =>
    dsimp only [turn]
    split <;> exact walk rfl trivial rfl
  | takeComplete =>
    dsimp only [turn]
    split
    · rename_i set
      exact inv.passes rfl rfl (fun _ => rfl) (inv.completeOf set) id id (fun set => Bool.noConfusion set)
        inv.abortOf inv.own
    · exact walk rfl trivial rfl
  | takeAborting source =>
    have own : source = s.current := inv.belongs.1
    refine inv.passes rfl rfl (fun _ => rfl) ⟨own, fun scan is => ?_⟩ id id inv.completeOf
      (fun set => Bool.noConfusion set) inv.own
    obtain ⟨set, same⟩ := Option.ite_none_right_eq_some.mp is
    exact Option.some.inj same ▸ inv.abortOf set
  | takeScanning source flag =>
    obtain ⟨own, abort⟩ : source = s.current ∧ ∀ scan, flag = some scan → scan = s.current := inv.belongs.1
    dsimp only [turn]
    split
    · rename_i set
      exact inv.takes set rfl rfl ⟨⟨own, abort⟩, Nat.le_refl _⟩ rfl
    · exact walk rfl trivial rfl
  | decide completion =>
    have belongs : completion.Own ∧ completion.scan ≤ s.current := inv.belongs.1
    dsimp only [turn]
    split
    · exact walk rfl ⟨fun _ is => Option.some.inj is ▸ belongs, fun set => Bool.noConfusion set⟩ rfl
    · exact walk rfl belongs rfl
  | report completion aborted =>
    obtain ⟨⟨source, flag⟩, _⟩ : completion.Own ∧ completion.scan ≤ s.current := inv.belongs.1
    exact inv.reports rfl rfl ⟨fun _ is => Option.some.inj is ▸ source, flag⟩ trivial rfl

end Turns

/-! ### Runs -/

section Steps

variable {st next : ScanState}

/-- The invariant, of a state. -/
def ScanState.Attributes (st : ScanState) : Prop :=
  Scan.Attributes st.shared (st.phase .caller) (st.phase .rx)

theorem attributes_iff (who : Who) :
    st.Attributes ↔ Scan.Attributes st.shared (st.phase who) (st.phase who.other) := by
  cases who with
  | caller => exact Iff.rfl
  | rx => exact ⟨fun inv => inv.symm, fun inv => inv.symm⟩

/-- An idle thread begins something. -/
theorem goes_attributes (inv : st.Attributes) {who : Who} {phase : Phase} (idle : st.phase who = .idle)
    (none : pending phase = none) (belongs : Belongs st.shared.current phase) (starting : phase.starting = false) :
    (st.goes who phase).Attributes := by
  rw [attributes_iff who, goes_same, goes_other]
  rw [attributes_iff who, idle] at inv
  refine inv.walks none belongs (fun set => ?_) fun set => ?_
  · rw [starting] at set
    cases set
  · rw [starting_of_midway set] at starting
    cases starting

theorem scanStep_attributes {act : ScanAct} (inv : st.Attributes) (keeps : keepsAttribution st act = true)
    (stepped : scanStep st act = some next) : next.Attributes := by
  cases act with
  | enter op =>
    obtain ⟨idle, began⟩ := Option.ite_none_right_eq_some.mp stepped
    obtain rfl := Option.some.inj began
    cases op with
    | initiate type =>
      exact goes_attributes inv idle rfl ⟨fun _ is => (nomatch is), fun set => Bool.noConfusion set⟩ rfl
    | cancelTimeout => exact goes_attributes inv idle rfl trivial rfl
    | forceEnd => exact goes_attributes inv idle rfl (fun _ is => (nomatch is)) rfl
  | request =>
    obtain rfl := Option.some.inj stepped
    exact inv.passes rfl rfl (fun _ => rfl) inv.belongs.1 id id inv.completeOf inv.abortOf inv.own
  | notify scan =>
    obtain ⟨⟨idle, _⟩, began⟩ := Option.ite_none_right_eq_some.mp stepped
    obtain rfl := Option.some.inj began
    exact goes_attributes inv idle rfl (beq_iff_eq.mp keeps) rfl
  | move who ok =>
    obtain ⟨_, moved⟩ := Option.ite_none_left_eq_some.mp stepped
    obtain rfl := Option.some.inj moved
    rw [attributes_iff who, goes_same, goes_other]
    unfold keepsAttribution at keeps
    dsimp only at keeps
    refine turn_attributes ((attributes_iff who).mp inv) (fun type old own here => ?_) fun target scan here => ?_
    · rw [here] at keeps
      simp only [Bool.and_eq_true, Bool.not_eq_true'] at keeps
      exact ⟨keeps.1.1.1, keeps.1.1.2, keeps.1.2, keeps.2⟩
    · rw [here] at keeps
      exact keeps

theorem start_attributes : ScanState.start.Attributes where
  belongs := ⟨trivial, trivial⟩
  completeOf := fun set => Bool.noConfusion set
  abortOf := fun set => Bool.noConfusion set
  alone := fun both => Bool.noConfusion both.1
  unaccepted := fun _ => List.not_mem_nil
  known := fun _ member => absurd member List.not_mem_nil
  fresh := fun _ _ => rfl
  counted := by
    rintro scan (member | ⟨_, set | set⟩)
    · cases member
    · cases set
    · cases set
  own := fun _ member => absurd member List.not_mem_nil

/-- The condition on a step of a run. -/
def keepsScans (st : ScanState) (act : ScanAct) : Bool := keepsScan st act && keepsAttribution st act

/-- **Scan completion attribution.** In every state of a run whose steps meet the conditions, the scans that
`iwl_scan_initiate` has accepted are reported once, by their own completions. -/
theorem scanAttribution (acts : List ScanAct) (st : ScanState)
    (allow : Machine.allowed scanStep keepsScans .start acts = true)
    (ran : Machine.run scanStep .start acts = some st) : Attributed st := by
  have both : st.Owed ∧ st.Attributes := by
    refine Machine.run_invariant_of_allowed (fun st => st.Owed ∧ st.Attributes) ?_
      ⟨fun on => Bool.noConfusion on, start_attributes⟩ allow ran
    intro st act next inv keeps stepped
    obtain ⟨keepsOwed, keepsOwn⟩ := Bool.and_eq_true_iff.mp keeps
    exact ⟨scanStep_owed inv.1 keepsOwed stepped, scanStep_attributes inv.2 keepsOwn stepped⟩
  obtain ⟨owed, inv⟩ := both
  refine ⟨fun scan accepted => ?_, fun quiet scan accepted => ?_, inv.own⟩
  · have one := inv.counted scan (.inl accepted)
    unfold tokens at one
    omega
  · have one := inv.counted scan (.inl accepted)
    unfold tokens at one
    rw [quiet .caller, quiet .rx] at one
    by_cases here : st.shared.running = some scan
    · unfold Shared.running at here
      obtain ⟨on, is⟩ := Option.ite_none_right_eq_some.mp here
      refine .inr ⟨(Option.some.inj is).symm, on, ?_⟩
      by_contra off
      have owes := owed on (Bool.eq_false_of_not_eq_true off)
      rw [quiet .caller, quiet .rx] at owes
      exact owes.elim Bool.false_ne_true Bool.false_ne_true
    · have none : held st.shared.running scan = 0 := if_neg here
      rw [none] at one
      have idle : held (pending .idle) scan = 0 := rfl
      omega

end Steps

/-- A scan is aborted: the caller waits, takes the completion from the receive thread, and starts another
scan before the completion action runs late. -/
def cancelled : List ScanAct :=
  .enter (.initiate .normal) :: moves .caller 9 ++ .enter .cancelTimeout :: moves .caller 4 ++
    .notify 1 :: moves .rx 2 ++ moves .caller 6 ++ .enter (.initiate .radioReset) :: moves .caller 9 ++
    moves .rx 2 ++ .notify 2 :: moves .rx 8

theorem scanAttribution_cancelled : ∃ st, Machine.run scanStep .start cancelled = some st ∧ Attributed st := by
  have ends : (Machine.run scanStep .start cancelled).isSome = true := by decide +kernel
  exact ⟨_, (Option.some_get ends).symm,
    scanAttribution cancelled _ (by decide +kernel) (Option.some_get ends).symm⟩

/-- A scan starts while the receive thread has taken the completion of the one before. -/
def mistaken : List ScanAct :=
  .enter (.initiate .normal) :: moves .caller 9 ++ .notify 1 :: moves .rx 4 ++
    .enter (.initiate .normal) :: moves .caller 9 ++ moves .rx 4

/-- **A completion completes a later scan**, which goes on, and its own scan is never completed. -/
theorem scanAttribution_broken : ∃ st, Machine.run scanStep .start mistaken = some st ∧
    st.Quiet ∧ st.shared.accepted = [2, 1] ∧ st.shared.reports = [⟨2, some 1, none, false, false⟩] ∧
    st.shared.hw = true ∧ ¬ Attributed st := by
  have ends : (Machine.run scanStep .start mistaken).isSome = true := by decide +kernel
  have reports : ((Machine.run scanStep .start mistaken).get ends).shared.reports =
      [⟨2, some 1, none, false, false⟩] := by
    decide +kernel +revert
  refine ⟨_, (Option.some_get ends).symm, by decide +kernel +revert, by decide +kernel +revert, reports,
    by decide +kernel +revert, fun attributed => ?_⟩
  have own := attributed.own ⟨2, some 1, none, false, false⟩ (by rw [reports]; exact List.mem_singleton_self _)
  exact absurd (own.1 1 rfl) (by decide)

end IntelWifi.Dvm.Scan
